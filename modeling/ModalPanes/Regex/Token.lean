import ModalPanes.Regex.Expr

/-!
# The tokens of a regular expression

A written expression is cut into tokens first: literals, sets, anchors, groups and repetitions.  Every
token is read from its first character and the text behind it, and says how many characters of that text
belong to it.

A bracket inside a bracket expression is refused: the one around it would never be closed.  Classes of
characters named by a property, and the switch that leaves out blanks, are not read.
-/

namespace ModalPanes.Regex

/-- How two sets are combined inside brackets. -/
inductive SetOperation where
  | intersection
  | difference
  | symmetricDifference
deriving DecidableEq

/-- The inside of a bracket expression: a union of items, or such a union combined with what stands in
front of it. -/
inductive Bracket where
  | items (set : CharSet)
  | combine (operation : SetOperation) (left : Bracket) (right : CharSet)
deriving DecidableEq

namespace Bracket

/-- The set of a bracket expression; case is ignored on either side of an operation. -/
def toSet (ignoreCase : Bool) : Bracket → CharSet
  | items set => set.ofCase ignoreCase
  | combine operation left right =>
      let left := toSet ignoreCase left
      let right := right.ofCase ignoreCase
      let both :=
        match operation with
        | .intersection => CharSet.intersection left right
        | .difference => CharSet.difference left right
        | .symmetricDifference => CharSet.symmetricDifference left right
      both.ofCase ignoreCase

end Bracket

/-- The switches that may be set inside an expression. -/
inductive Switch where
  | ignoreCase
  | multiLine
  | dotMatchesBreak
  | swapGreed
  | unicode
  | returnBreaks
deriving DecidableEq

/-- How a group is opened. -/
inductive Opening where
  | capture
  | named (name : List Char)
  | plain (switches : List Switch)
deriving DecidableEq

/-- A token of a written expression. -/
inductive Token where
  | literal (c : Char)
  | dot
  | set (set : CharSet)
  | bracket (negated : Bool) (inside : Bracket)
  | anchor (anchor : Anchor)
  | startOfText
  | endOfText
  | opening (opening : Opening)
  | closing
  | bar
  | repetition (least : Nat) (most : Option Nat) (greedy : Bool)
  | switches (switches : List Switch)
deriving DecidableEq

namespace Token

/-- Something read from the front of a text, with the number of characters it took. -/
abbrev Reading (α : Type) := Option (α × Nat)

/-- The largest number in a counted repetition. -/
def largestCount : Nat := 4294967295

def hexValue? (c : Char) : Option Nat :=
  if c.isDigit then some (c.toNat - '0'.toNat)
  else if 'a' ≤ c ∧ c ≤ 'f' then some (c.toNat - 'a'.toNat + 10)
  else if 'A' ≤ c ∧ c ≤ 'F' then some (c.toNat - 'A'.toNat + 10)
  else none

/-- The character whose number is written by hexadecimal digits. -/
def hexChar? (digits : List Char) : Option Char :=
  if digits.isEmpty then none
  else
    match digits.mapM hexValue? with
    | none => none
    | some values =>
        let code := values.foldl (fun n v => n * 16 + v) 0
        if valid : code.isValidChar then some (Char.ofNatAux code valid) else none

/-- The character written behind the sign of a hexadecimal number: in braces, or by `count` digits. -/
def hexEscape (count : Nat) (text : List Char) : Reading Char :=
  match text with
  | '\x7b' :: text =>
      let digits := text.takeWhile (· != '\x7d')
      if digits.length < text.length then
        (hexChar? digits).map fun c => (c, digits.length + 2)
      else none
  | _ =>
      if text.length < count then none
      else (hexChar? (text.take count)).map fun c => (c, count)

/-- The sets named by a letter behind a backslash. -/
def namedSet? (c : Char) : Option CharSet :=
  [('d', .digit), ('D', .complement .digit), ('s', .space), ('S', .complement .space),
    ('w', .word), ('W', CharSet.complement .word)].lookup c

/-- The control characters named by a letter behind a backslash. -/
def control? (c : Char) : Option Char :=
  [('a', '\x07'), ('f', '\x0c'), ('t', '\t'), ('n', '\n'), ('r', '\r'), ('v', '\x0b')].lookup c

/-- Whether a character stands for itself behind a backslash. -/
def isEscapable (c : Char) : Bool :=
  c.toNat < 128 && !c.isAlphanum && c != '<' && c != '>'

def namedAnchor? (name : List Char) : Option Anchor :=
  [("start", .wordStart), ("end", .wordEnd), ("start-half", .wordStartHalf),
    ("end-half", Anchor.wordEndHalf)].lookup (String.ofList name)

/-- What follows the sign of a word boundary: a name in braces, or nothing. -/
def wordAnchor (text : List Char) : Reading Anchor :=
  match text with
  | '\x7b' :: c :: text =>
      let isName := fun c : Char => c.isAlpha || c == '-'
      if isName c then
        let name := (c :: text).takeWhile isName
        if ((c :: text).drop name.length).head? = some '\x7d' then
          (namedAnchor? name).map fun anchor => (anchor, name.length + 2)
        else none
      else some (.wordBoundary, 0)
  | _ => some (.wordBoundary, 0)

/-- What a backslash with the given character behind it means. -/
def escape (c : Char) (text : List Char) : Reading Token :=
  match namedSet? c with
  | some chars => some (.set chars, 0)
  | none =>
      match control? c with
      | some d => some (.literal d, 0)
      | none =>
          if isEscapable c then some (.literal c, 0)
          else if c = 'b' then (wordAnchor text).map fun found => (.anchor found.1, found.2)
          else if c = 'x' then (hexEscape 2 text).map fun found => (.literal found.1, found.2)
          else if c = 'u' then (hexEscape 4 text).map fun found => (.literal found.1, found.2)
          else if c = 'U' then (hexEscape 8 text).map fun found => (.literal found.1, found.2)
          else none

/-- One item inside brackets: a character or a named set. -/
def bracketAtom (c : Char) (text : List Char) : Reading (Char ⊕ CharSet) :=
  if c = '\\' then
    match text with
    | [] => none
    | d :: text =>
        match escape d text with
        | some (.literal e, more) => some (.inl e, more + 1)
        | some (.set chars, more) => some (.inr chars, more + 1)
        | _ => none
  else some (.inl c, 0)

def atomSet : Char ⊕ CharSet → CharSet
  | .inl c => .single c
  | .inr chars => chars

/-- One item inside brackets, or a range of characters.  A dash in front of the closing bracket or of
another dash makes no range. -/
def bracketItem (c : Char) (text : List Char) : Reading CharSet :=
  match bracketAtom c text with
  | none => none
  | some (first, more) =>
      match text.drop more with
      | '-' :: d :: behind =>
          if d = ']' ∨ d = '-' then some (atomSet first, more)
          else
            match first, bracketAtom d behind with
            | .inl low, some (.inl high, further) =>
                if low ≤ high then some (.range low high, more + 2 + further) else none
            | _, _ => none
      | _ => some (atomSet first, more)

/-- The operation at the front of a text inside brackets. -/
def setOperation? (c d : Char) : Option SetOperation :=
  if c = '&' ∧ d = '&' then some .intersection
  else if c = '-' ∧ d = '-' then some .difference
  else if c = '~' ∧ d = '~' then some .symmetricDifference
  else none

/-- Close the union under way behind the operation in front of it. -/
def joinOperation (pending : Option (SetOperation × Bracket)) (set : CharSet) : Bracket :=
  match pending with
  | some (operation, left) => .combine operation left set
  | none => .items set

/-- The inside of a bracket expression up to its closing bracket; `pending` is what stands in front of
the last operation, `set` the union under way, `taken` the characters read so far. -/
def bracketInside (pending : Option (SetOperation × Bracket)) (set : CharSet) (taken : Nat) :
    List Char → Reading Bracket
  | [] => none
  | c :: text =>
      if c = ']' then some (joinOperation pending set, taken + 1)
      else if c = '[' then none
      else
        match text.head?.bind (setOperation? c) with
        | some operation =>
            bracketInside (some (operation, joinOperation pending set)) .empty (taken + 2) (text.drop 1)
        | none =>
            match bracketItem c text with
            | some (item, more) =>
                bracketInside pending (.union set item) (taken + more + 1) (text.drop more)
            | none => none
termination_by text => text.length
decreasing_by all_goals (simp only [List.length_drop, List.length_cons]; omega)

/-- A bracket expression, from behind its opening bracket.  Dashes in front, or else a closing bracket
in front, stand for themselves. -/
def bracketExpression (text : List Char) : Reading Token :=
  let negated := text.head? = some '^'
  let body := if negated then text.drop 1 else text
  let dashes := (body.takeWhile (· == '-')).length
  let behind := body.drop dashes
  let closes := dashes = 0 ∧ behind.head? = some ']'
  let start := if dashes = 0 then CharSet.empty else .single '-'
  let taken := (if negated then 1 else 0) + dashes
  let inside :=
    if closes then bracketInside none (.single ']') (taken + 1) (behind.drop 1)
    else bracketInside none start taken behind
  inside.map fun found => (.bracket negated found.1, found.2)

/-- The number at the front of a text, white space around it included. -/
def countOf (text : List Char) : Option Nat × Nat :=
  let blanks := (text.takeWhile Unicode.isSpace).length
  let digits := (text.drop blanks).takeWhile Char.isDigit
  let behind := ((text.drop (blanks + digits.length)).takeWhile Unicode.isSpace).length
  let value := digits.foldl (fun n c => n * 10 + (c.toNat - '0'.toNat)) 0
  (if digits.isEmpty || largestCount < value then none else some value,
    blanks + digits.length + behind)

/-- A question mark behind a repetition takes its greed. -/
def greed (text : List Char) : Bool × Nat :=
  if text.head? = some '?' then (false, 1) else (true, 0)

/-- A counted repetition, from behind its opening brace. -/
def countedRepetition (text : List Char) : Reading Token :=
  let first := countOf text
  match text.drop first.2 with
  | ',' :: behind =>
      if behind.head? = some '\x7d' then
        first.1.map fun least =>
          let mark := greed (behind.drop 1)
          (.repetition least none mark.1, first.2 + 2 + mark.2)
      else
        let second := countOf behind
        match first.1, second.1, behind.drop second.2 with
        | some least, some most, '\x7d' :: further =>
            if least ≤ most then
              let mark := greed further
              some (.repetition least (some most) mark.1, first.2 + second.2 + 2 + mark.2)
            else none
        | _, _, _ => none
  | '\x7d' :: behind =>
      first.1.map fun count =>
        let mark := greed behind
        (.repetition count (some count) mark.1, first.2 + 1 + mark.2)
  | _ => none

def repetitionOf (least : Nat) (most : Option Nat) (text : List Char) : Reading Token :=
  let mark := greed text
  some (.repetition least most mark.1, mark.2)

def switch? (c : Char) : Option Switch :=
  [('i', .ignoreCase), ('m', .multiLine), ('s', .dotMatchesBreak), ('U', .swapGreed), ('u', .unicode),
    ('R', Switch.returnBreaks)].lookup c

/-- A name of a group: a letter or an underscore, with letters, numbers, underscores, points and
brackets behind it. -/
def isGroupName (name : List Char) : Bool :=
  match name with
  | [] => false
  | c :: rest =>
      (c == '_' || Unicode.alphabetic.has c.toNat) &&
        rest.all fun d => d == '_' || d == '.' || d == '[' || d == ']' || Unicode.isAlphanumeric d

def namedGroup (text : List Char) : Reading Token :=
  let name := text.takeWhile (· != '>')
  if name.length < text.length ∧ isGroupName name then some (.opening (.named name), name.length + 1)
  else none

def switchGroup (text : List Char) : Reading Token :=
  let letters := text.takeWhile fun c => c != ':' && c != ')'
  match letters.mapM switch? with
  | none => none
  | some turned =>
      if turned.eraseDups.length < turned.length then none
      else
        match (text.drop letters.length).head? with
        | some ':' => some (.opening (.plain turned), letters.length + 1)
        | some ')' => if turned.isEmpty then none else some (.switches turned, letters.length + 1)
        | _ => none

/-- What an opening parenthesis begins, given the text behind it. -/
def groupOpening (text : List Char) : Reading Token :=
  match text with
  | '?' :: 'P' :: '<' :: text => (namedGroup text).map fun found => (found.1, found.2 + 3)
  | '?' :: '<' :: text => (namedGroup text).map fun found => (found.1, found.2 + 2)
  | '?' :: text => (switchGroup text).map fun found => (found.1, found.2 + 1)
  | _ => some (.opening .capture, 0)

/-- The token at the front of a written expression. -/
def read (c : Char) (text : List Char) : Reading Token :=
  if c = '\\' then
    match text with
    | [] => none
    | d :: text => (escape d text).map fun found => (found.1, found.2 + 1)
  else if c = '.' then some (.dot, 0)
  else if c = '^' then some (.startOfText, 0)
  else if c = '$' then some (.endOfText, 0)
  else if c = '|' then some (.bar, 0)
  else if c = ')' then some (.closing, 0)
  else if c = '(' then groupOpening text
  else if c = '[' then bracketExpression text
  else if c = '*' then repetitionOf 0 none text
  else if c = '+' then repetitionOf 1 none text
  else if c = '?' then repetitionOf 0 (some 1) text
  else if c = '\x7b' then countedRepetition text
  else some (.literal c, 0)

def readAll : List Char → Option (List Token)
  | [] => some []
  | c :: text =>
      match read c text with
      | none => none
      | some (token, more) => (readAll (text.drop more)).map (token :: ·)
termination_by text => text.length
decreasing_by simp only [List.length_drop, List.length_cons]; omega

end Token

end ModalPanes.Regex
