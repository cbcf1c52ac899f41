import Telemetry.Bytes

/-!
# YAML input

A YAML text is read as a list of characters that know where they stand: block structure is a
matter of columns, and a key has to end on the line it starts on. Line breaks of every kind are
read as a line feed, except the line and paragraph separators of Unicode, which stay.
-/

namespace Telemetry.Yaml

/-- A character and where it stands. -/
structure Placed where
  char : Char
  line : Nat
  column : Nat
  /-- The number of bytes before it on its line. -/
  offset : Nat

/-- What is left to read. -/
abbrev Input := List Placed

/-- A character that ends a line. -/
def isBreak (c : Char) : Bool :=
  c == '\n' || c == '\u2028' || c == '\u2029'

/-- A space or a tab. -/
def isBlank (c : Char) : Bool :=
  c == ' ' || c == '\t'

/-- A character that separates words. -/
def isSeparator (c : Char) : Bool :=
  isBlank c || isBreak c

/-- The mark that may stand at the start of a line and that says how the text is encoded. It takes
a column like any other character. -/
def byteOrderMark : Char := '\ufeff'

/-- A character that may occur in a YAML text. -/
def isReadable (c : Char) : Bool :=
  let n := c.toNat
  n == 0x09 || n == 0x0A || n == 0x0D || (0x20 ≤ n && n ≤ 0x7E) || n == 0x85 ||
    (0xA0 ≤ n && n ≤ 0xFFFD) || 0x10000 ≤ n

/-- The text with line breaks of most kinds as line feeds. -/
def unifyBreaks : List Char → List Char
  | [] => []
  | '\r' :: '\n' :: rest => '\n' :: unifyBreaks rest
  | '\r' :: rest => '\n' :: unifyBreaks rest
  | '\u0085' :: rest => '\n' :: unifyBreaks rest
  | c :: rest => c :: unifyBreaks rest

/-- Places characters from the given line, column and offset on. -/
def place (line column offset : Nat) : List Char → Input
  | [] => []
  | c :: rest =>
    ⟨c, line, column, offset⟩ ::
      if isBreak c then place (line + 1) 0 0 rest
      else place line (column + 1) (offset + c.utf8Size) rest

/-- The input for a text, if all its characters may occur. -/
def inputOf? (text : List Char) : Option Input :=
  if text.all isReadable then some (place 0 0 0 (unifyBreaks text)) else none

namespace Input

/-- A separator or nothing follows. -/
def isAtSeparator : Input → Bool
  | [] => true
  | c :: _ => isSeparator c.char

/-- A line break or nothing follows. -/
def isAtBreak : Input → Bool
  | [] => true
  | c :: _ => isBreak c.char

/-- The given character follows. -/
def isAt (input : Input) (c : Char) : Bool :=
  (input.head?.map Placed.char) == some c

/-- The given character and then a separator or nothing follow. -/
def isAtWord (input : Input) (c : Char) : Bool :=
  input.isAt c && isAtSeparator input.tail

/-- Three of the given character and then a separator or nothing follow, at the start of a line. -/
def isAtMark (input : Input) (c : Char) : Bool :=
  input.head?.any (fun first => first.column == 0) &&
    (input.take 3).map Placed.char == [c, c, c] && isAtSeparator (input.drop 3)

/-- The mark of a document's start or end follows. -/
def isAtDocument (input : Input) : Bool :=
  input.isAtMark '-' || input.isAtMark '.'

/-- The characters up to where a condition fails, and the rest. -/
def span (condition : Char → Bool) (input : Input) : List Char × Input :=
  ((input.takeWhile fun c => condition c.char).map Placed.char,
    input.dropWhile fun c => condition c.char)

/-- The input behind characters for which a condition holds. -/
def skip (condition : Char → Bool) (input : Input) : Input :=
  input.dropWhile fun c => condition c.char

/-- The input behind blanks and a comment, if the line ends there, and behind its line break. -/
def skipLineEnd? (input : Input) : Option Input :=
  let rest := input.skip isBlank
  let rest := if rest.isAt '#' then rest.skip fun c => !isBreak c else rest
  if rest.isAtBreak then some rest.tail else none

end Input

end Telemetry.Yaml
