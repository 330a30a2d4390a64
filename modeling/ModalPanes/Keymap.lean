import ModalPanes.Key.Basic
import ModalPanes.Motion

/-!
# Key tables

Which key means which command, in which mode.  Every table is a list of keys with their commands; Shift
is already part of a character and is dropped before a key is looked up.
-/

namespace ModalPanes

/-- An operator, which acts on the text that a motion or a text object selects. -/
inductive Operator where
  | delete
  | change
  | yank
deriving DecidableEq, Inhabited

/-- The key that makes an operator act on whole lines when it follows. -/
def Operator.key : Operator → Char
  | delete => 'd'
  | change => 'c'
  | yank => 'y'

/-- The ways to scroll. -/
inductive Scroll where
  | halfDown
  | halfUp
  | lineDown
  | lineUp
deriving DecidableEq

/-- What a key means.  Those that await something take the next key with them. -/
inductive Command where
  | motion (motion : Motion)
  | awaitFind (find : Find)
  | operator (op : Operator)
  | insert
  | append
  | insertAtLineStart
  | appendAtLineEnd
  | openBelow
  | openAbove
  | deleteChar
  | deleteCharBefore
  | substituteChar
  | substituteLine
  | deleteToEnd
  | changeToEnd
  | yankLine
  | putAfter
  | putBefore
  | joinLines
  | toggleCase
  | awaitReplace
  | replaceMode
  | undo
  | redo
  | repeatChange
  | visual (kind : VisualKind)
  | commandLine
  | search (direction : Direction)
  | scroll (scroll : Scroll)
  | awaitRegister
  | awaitG
  | awaitZ
  | exitSave
  | forceQuit
  | escape
  | swapSelectionEnds
  | blockInsert
  | blockAppend
deriving DecidableEq

namespace Keymap

/-- Keys with their commands. -/
abbrev Table := List (Key × Command)

/-- Motions, known in Normal and Visual mode and behind an operator. -/
def motions : Table :=
  [(.char 'h', .motion .left), (.plain .left, .motion .left), (.plain .backspace, .motion .left),
    (.ctrl 'h', .motion .left), (.char 'l', .motion .right), (.plain .right, .motion .right),
    (.char ' ', .motion .right), (.char 'k', .motion .up), (.plain .up, .motion .up),
    (.ctrl 'p', .motion .up), (.char 'j', .motion .down), (.plain .down, .motion .down),
    (.ctrl 'n', .motion .down), (.char '0', .motion .lineStart), (.plain .home, .motion .lineStart),
    (.char '^', .motion .firstNonBlank), (.char '$', .motion .lineEnd),
    (.plain .endKey, .motion .lineEnd), (.char '+', .motion .nextLineStart),
    (.plain .enter, .motion .nextLineStart), (.char '-', .motion .previousLineStart),
    (.char 'w', .motion (.word .forward false)), (.char 'b', .motion (.word .backward false)),
    (.char 'e', .motion (.word .endForward false)), (.char 'W', .motion (.word .forward true)),
    (.char 'B', .motion (.word .backward true)), (.char 'E', .motion (.word .endForward true)),
    (.char 'G', .motion .lastLine), (.char '|', .motion .column),
    (.char 'f', .awaitFind ⟨.forward, false⟩), (.char 't', .awaitFind ⟨.forward, true⟩),
    (.char 'F', .awaitFind ⟨.backward, false⟩), (.char 'T', .awaitFind ⟨.backward, true⟩),
    (.char ';', .motion (.repeatFind false)), (.char ',', .motion (.repeatFind true)),
    (.char '}', .motion (.paragraph .forward)), (.char '{', .motion (.paragraph .backward)),
    (.char '%', .motion .matchBracket), (.char 'H', .motion .screenTop),
    (.char 'M', .motion .screenMiddle), (.char 'L', .motion .screenBottom),
    (.char 'n', .motion (.search .next)), (.char 'N', .motion (.search .previous)),
    (.char '*', .motion (.search .wordForward)), (.char '#', .motion (.search .wordBackward)),
    (.char 'g', .awaitG)]

/-- The second key of the motions that start with `g`. -/
def afterG : Table :=
  [(.char 'g', .motion .firstLine), (.char 'e', .motion (.word .endBackward false)),
    (.char 'E', .motion (.word .endBackward true)), (.char '_', .motion .lineEnd)]

/-- The second key of the commands that start with `Z`. -/
def afterZ : Table :=
  [(.char 'Z', .exitSave), (.char 'Q', .forceQuit)]

def normal : Table :=
  [(.char 'd', .operator .delete), (.char 'c', .operator .change), (.char 'y', .operator .yank),
    (.char 'i', .insert), (.plain .insert, .insert), (.char 'a', .append),
    (.char 'I', .insertAtLineStart), (.char 'A', .appendAtLineEnd), (.char 'o', .openBelow),
    (.char 'O', .openAbove), (.char 'x', .deleteChar), (.plain .delete, .deleteChar),
    (.char 'X', .deleteCharBefore), (.char 's', .substituteChar), (.char 'S', .substituteLine),
    (.char 'D', .deleteToEnd), (.char 'C', .changeToEnd), (.char 'Y', .yankLine),
    (.char 'p', .putAfter), (.char 'P', .putBefore), (.char 'J', .joinLines),
    (.char '~', .toggleCase), (.char 'r', .awaitReplace), (.char 'R', .replaceMode),
    (.char 'u', .undo), (.ctrl 'r', .redo), (.char '.', .repeatChange), (.char 'v', .visual .char),
    (.char 'V', .visual .line), (.ctrl 'v', .visual .block), (.char ':', .commandLine),
    (.char '/', .search .forward), (.char '?', .search .backward), (.ctrl 'd', .scroll .halfDown),
    (.ctrl 'u', .scroll .halfUp), (.ctrl 'e', .scroll .lineDown), (.ctrl 'y', .scroll .lineUp),
    (.char '"', .awaitRegister), (.char 'Z', .awaitZ), (.plain .escape, .escape),
    (.ctrl 'c', .escape)]

def visual : Table :=
  [(.char 'd', .operator .delete), (.char 'x', .operator .delete),
    (.plain .delete, .operator .delete), (.char 'y', .operator .yank),
    (.char 'c', .operator .change), (.char 's', .operator .change), (.char '~', .toggleCase),
    (.char 'J', .joinLines), (.char 'o', .swapSelectionEnds), (.char 'I', .blockInsert),
    (.char 'A', .blockAppend), (.char 'v', .visual .char), (.char 'V', .visual .line),
    (.ctrl 'v', .visual .block), (.char ':', .commandLine), (.char '"', .awaitRegister),
    (.ctrl 'd', .scroll .halfDown), (.ctrl 'u', .scroll .halfUp), (.ctrl 'e', .scroll .lineDown),
    (.ctrl 'y', .scroll .lineUp), (.plain .escape, .escape), (.ctrl 'c', .escape)]

/-- The key without Shift, if that is the only modifier of a character. -/
def foldShift (key : Key) : Key :=
  match key.code with
  | .char c => if key.mods = { shift := true } then .char c else key
  | _ => key

def find? (table : Table) (key : Key) : Option Command :=
  table.lookup (foldShift key)

def findOrMotion? (table : Table) (key : Key) : Option Command :=
  (find? table key).or (find? motions key)

end Keymap

namespace Motion

def wordName (big : Bool) (step : WordStep) : String :=
  (if big then "BigWord" else "Word") ++
    match step with
    | .forward => "Forward"
    | .backward => "Backward"
    | .endForward => "End"
    | .endBackward => "EndBackward"

def describe : Motion → String
  | left => "Left"
  | right => "Right"
  | up => "Up"
  | down => "Down"
  | lineStart => "LineStart"
  | firstNonBlank => "FirstNonBlank"
  | lineEnd => "LineEnd"
  | nextLineStart => "NextLineStart"
  | previousLineStart => "PrevLineStart"
  | word step big => wordName big step
  | firstLine => "FirstLine"
  | lastLine => "LastLine"
  | column => "Column"
  | find _ _ => "FindChar"
  | repeatFind false => "RepeatFind"
  | repeatFind true => "RepeatFindReverse"
  | paragraph .forward => "ParagraphForward"
  | paragraph .backward => "ParagraphBackward"
  | matchBracket => "MatchBracket"
  | screenTop => "ScreenTop"
  | screenMiddle => "ScreenMiddle"
  | screenBottom => "ScreenBottom"
  | search .next => "SearchNext"
  | search .previous => "SearchPrev"
  | search .wordForward => "WordSearchForward"
  | search .wordBackward => "WordSearchBackward"

end Motion

namespace Command

def describe : Command → String
  | motion m => "Motion(" ++ m.describe ++ ")"
  | awaitFind way =>
      "AwaitFind(Find \x7b forward: " ++ toString way.direction.isForward ++ ", till: " ++
        toString way.till ++ " \x7d)"
  | operator .delete => "Operator(Delete)"
  | operator .change => "Operator(Change)"
  | operator .yank => "Operator(Yank)"
  | insert => "Insert"
  | append => "Append"
  | insertAtLineStart => "InsertAtLineStart"
  | appendAtLineEnd => "AppendAtLineEnd"
  | openBelow => "OpenBelow"
  | openAbove => "OpenAbove"
  | deleteChar => "DeleteChar"
  | deleteCharBefore => "DeleteCharBefore"
  | substituteChar => "SubstituteChar"
  | substituteLine => "SubstituteLine"
  | deleteToEnd => "DeleteToEnd"
  | changeToEnd => "ChangeToEnd"
  | yankLine => "YankLine"
  | putAfter => "PutAfter"
  | putBefore => "PutBefore"
  | joinLines => "JoinLines"
  | toggleCase => "ToggleCase"
  | awaitReplace => "AwaitReplace"
  | replaceMode => "ReplaceMode"
  | undo => "Undo"
  | redo => "Redo"
  | repeatChange => "RepeatChange"
  | visual .char => "Visual(Char)"
  | visual .line => "Visual(Line)"
  | visual .block => "Visual(Block)"
  | commandLine => "CommandLine"
  | search .forward => "Search(Forward)"
  | search .backward => "Search(Backward)"
  | scroll .halfDown => "Scroll(HalfDown)"
  | scroll .halfUp => "Scroll(HalfUp)"
  | scroll .lineDown => "Scroll(LineDown)"
  | scroll .lineUp => "Scroll(LineUp)"
  | awaitRegister => "AwaitRegister"
  | awaitG => "GPrefix"
  | awaitZ => "ZPrefix"
  | exitSave => "ExitSave"
  | forceQuit => "ForceQuit"
  | escape => "Escape"
  | swapSelectionEnds => "SwapSelectionEnds"
  | blockInsert => "BlockInsert"
  | blockAppend => "BlockAppend"

end Command

end ModalPanes
