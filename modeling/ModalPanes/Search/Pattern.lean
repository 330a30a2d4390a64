import ModalPanes.Regex.Parser
import ModalPanes.Text.Word

/-!
# Search patterns

A pattern is written in the editor's own syntax, in which parentheses, bars, braces, plus and question
marks stand for themselves and get their meaning from a backslash.  `Pattern.translate` rewrites it as a
regular expression, and `Pattern.escape` writes a text so that it is found literally.
-/

namespace ModalPanes

/-- A pattern as typed, with the expression it stands for. -/
structure Pattern where
  source : List Char
  expr : Regex.Expr
deriving DecidableEq

namespace Pattern

/-- The characters that mean something in a pattern and get a backslash when they do not. -/
def isMagic (c : Char) : Bool :=
  c == '\\' || c == '/' || c == '.' || c == '*' || c == '$' || c == '^' || c == '~' || c == '[' || c == ']'

def escape (text : List Char) : List Char :=
  text.flatMap fun c => if isMagic c then ['\\', c] else [c]

/-- The characters that mean something in a regular expression. -/
def isMeta (c : Char) : Bool :=
  "\\.+*?()|[]\x7b\x7d^$#&-~".toList.contains c

/-- A character as a regular expression that matches it. -/
def literal (c : Char) : List Char :=
  if isMeta c then ['\\', c] else [c]

/-- A piece of a translation: its text, how many characters of the source behind the first it takes,
and whether it asks to ignore case. -/
structure Piece where
  text : List Char
  more : Nat := 0
  ignoreCase : Bool := false

/-- The source between a brace behind a backslash and the next closing brace, if there is one. -/
def countPiece (source : List Char) : Piece :=
  let inside := source.takeWhile (· != '\x7d')
  if inside.length < source.length then
    let count := inside.filter (· != '\\')
    ⟨if count = ['-'] then "*?".toList else '\x7b' :: (count ++ ['\x7d']), inside.length + 1, false⟩
  else ⟨"\\\x7b".toList, 0, false⟩

/-- A character behind a backslash, with the source behind it. -/
def escapedPiece (c : Char) (source : List Char) : Piece :=
  if c = '<' ∨ c = '>' then ⟨"\\b".toList, 0, false⟩
  else if c = '(' ∨ c = ')' ∨ c = '|' ∨ c = '+' then ⟨[c], 0, false⟩
  else if c = '?' ∨ c = '=' then ⟨['?'], 0, false⟩
  else if c = 'c' then ⟨[], 0, true⟩
  else if c = 'C' then ⟨[], 0, false⟩
  else if c = '\x7b' then countPiece source
  else if c = 'd' ∨ c = 'D' ∨ c = 's' ∨ c = 'S' ∨ c = 'w' ∨ c = 'W' then ⟨['\\', c], 0, false⟩
  else if c = 'a' then ⟨"[A-Za-z]".toList, 0, false⟩
  else if c = 'l' then ⟨"[a-z]".toList, 0, false⟩
  else if c = 'u' then ⟨"[A-Z]".toList, 0, false⟩
  else if c = 'x' then ⟨"[0-9A-Fa-f]".toList, 0, false⟩
  else if c = 't' then ⟨"\\t".toList, 0, false⟩
  else ⟨literal c, 0, false⟩

/-- An opening bracket: a bracket expression up to the first closing bracket that is not its first
character, or else a literal. -/
def bracketPiece (source : List Char) : Piece :=
  let inside := source.take 1 ++ (source.drop 1).takeWhile (· != ']')
  if inside.length < source.length then
    ⟨'[' :: (inside.flatMap (fun c => if c = '[' then ['\\', c] else [c]) ++ [']']),
      inside.length + 1, false⟩
  else ⟨"\\[".toList, 0, false⟩

/-- The piece at the front of a pattern.  A star is literal at the start, a caret elsewhere, a dollar
sign anywhere but at the end. -/
def piece (atStart : Bool) (c : Char) (source : List Char) : Piece :=
  if c = '\\' then
    match source with
    | [] => ⟨literal c, 0, false⟩
    | d :: source =>
        let escaped := escapedPiece d source
        { escaped with more := escaped.more + 1 }
  else if c = '.' then ⟨['.'], 0, false⟩
  else if c = '*' ∧ !atStart then ⟨['*'], 0, false⟩
  else if c = '^' ∧ atStart then ⟨['^'], 0, false⟩
  else if c = '$' ∧ source.isEmpty then ⟨['$'], 0, false⟩
  else if c = '[' then bracketPiece source
  else ⟨literal c, 0, false⟩

def pieces (atStart : Bool) : List Char → List Piece
  | [] => []
  | c :: source =>
      let first := piece atStart c source
      first :: pieces false (source.drop first.more)
termination_by source => source.length
decreasing_by simp only [List.length_drop, List.length_cons]; omega

/-- The regular expression that a pattern stands for. -/
def translate (source : List Char) : List Char :=
  let parts := pieces true source
  (if parts.any Piece.ignoreCase then "(?i)".toList else []) ++ parts.flatMap Piece.text

/-- The pattern of a source, if its translation is a proper regular expression. -/
def compile? (source : List Char) : Option Pattern :=
  (Regex.Expr.parse? (translate source)).map fun expr => ⟨source, expr⟩

/-- The source of a pattern for a word: a keyword is searched as a whole word. -/
def sourceOfWord (word : WordAt) : List Char :=
  if word.keyword then "\\<".toList ++ escape word.text ++ "\\>".toList else escape word.text

def ofWordAt? (buf : Buffer) (pos : Position) : Option Pattern :=
  (buf.wordAt? pos).bind fun word => compile? (sourceOfWord word)

/-- The matches on a line: first column and length. -/
def matchesOn (pattern : Pattern) (line : List Char) : List (Nat × Nat) :=
  (pattern.expr.findAll line).map fun found => (found.start.index, found.length)

end Pattern

end ModalPanes
