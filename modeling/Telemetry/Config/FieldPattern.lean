import Telemetry.Hex

/-!
# Patterns of field values

A log directive may ask for the value of a field by a number, a truth value or a regular
expression. Here such texts are only told from texts that are none of these. Classes of Unicode,
word boundaries and matching without regard to case are not available in expressions; a counted
repetition or a braced number cannot occur, because a closing brace ends the value.
-/

namespace Telemetry.FieldPattern

/-- A number with a decimal point or an exponent or without them, behind its sign. -/
def isUnsignedNumber (text : List Char) : Bool :=
  let whole := text.takeWhile Char.isDigit
  let rest := text.drop whole.length
  let (places, rest) := match rest with
    | '.' :: more => (more.takeWhile Char.isDigit, more.dropWhile Char.isDigit)
    | _ => ([], rest)
  let isExponent := match rest with
    | [] => true
    | e :: '+' :: digits | e :: '-' :: digits | e :: digits =>
      e.toLower == 'e' && !digits.isEmpty && digits.all Char.isDigit
  !(whole ++ places).isEmpty && isExponent

/-- A number with a plus sign. Without one it would be a regular expression, too. -/
def isSignedNumber (text : List Char) : Bool :=
  match text with
  | '+' :: rest =>
    ["inf", "infinity", "nan"].contains (String.ofList (rest.map Char.toLower)) ||
      isUnsignedNumber rest
  | _ => false

/-! ### Regular expressions -/

/-- Reads the digits of a character that is escaped by its number. -/
def numberedChar? (width : Nat) (rest : List Char) : Option (Char × List Char) :=
  let digits := rest.take width
  if digits.length = width then do
    let n ← Hex.number? digits
    if n.isValidChar then some (Char.ofNat n, rest.drop width) else none
  else none

/-- Reads what an escape stands for behind its backslash, if that is a character. Of the
characters of ASCII all can be escaped that are no letters, digits or angle brackets. -/
def escapedChar? : List Char → Option (Char × List Char)
  | [] => none
  | c :: rest =>
    match c with
    | 'a' => some ('\x07', rest)
    | 'f' => some ('\x0c', rest)
    | 't' => some ('\t', rest)
    | 'n' => some ('\n', rest)
    | 'r' => some ('\r', rest)
    | 'v' => some ('\x0b', rest)
    | 'x' => numberedChar? 2 rest
    | 'u' => numberedChar? 4 rest
    | 'U' => numberedChar? 8 rest
    | _ =>
      if c.toNat < 0x80 && !c.isAlphanum && c != '<' && c != '>' then some (c, rest) else none

/-- Reads what an escape stands for: a character, or the start or the end of the text. -/
def afterEscape? : List Char → Option (List Char)
  | 'A' :: rest | 'z' :: rest => some rest
  | rest => (escapedChar? rest).map Prod.snd

/-- Reads a character of a class. -/
def classChar? : List Char → Option (Char × List Char)
  | [] => none
  | '\\' :: rest => escapedChar? rest
  | c :: rest => some (c, rest)

/-- Reads the beginning of a class: what negates it, and characters that would mean something
else further behind. -/
def afterClassStart (input : List Char) : List Char :=
  let input := match input with
    | '^' :: rest => rest
    | _ => input
  match input with
  | ']' :: rest => rest
  | _ => input.dropWhile (· = '-')

/-- Reads a class behind its opening bracket, inside of `depth` others. Classes may be combined by
doubled signs. Each step takes a character. -/
def afterClass? : Nat → Nat → List Char → Option (List Char)
  | 0, _, _ => none
  | _, _, [] => none
  | fuel + 1, depth, '[' :: rest => afterClass? fuel (depth + 1) (afterClassStart rest)
  | fuel + 1, depth, ']' :: rest =>
    match depth with
    | 0 => some rest
    | depth + 1 => afterClass? fuel depth rest
  | fuel + 1, depth, '&' :: '&' :: rest | fuel + 1, depth, '-' :: '-' :: rest
  | fuel + 1, depth, '~' :: '~' :: rest => afterClass? fuel depth rest
  | fuel + 1, depth, input => do
    let (first, rest) ← classChar? input
    match rest with
    | '-' :: ']' :: _ | '-' :: '-' :: _ => afterClass? fuel depth rest
    | '-' :: rest => do
      let (last, rest) ← classChar? rest
      if first ≤ last then afterClass? fuel depth rest else none
    | _ => afterClass? fuel depth rest

/-- Reads the name of a group up to its closing angle bracket. -/
def afterGroupName? (input : List Char) : Option (List Char) :=
  let name := input.takeWhile (· ≠ '>')
  let startsWell := name.head?.any fun c => c.isAlpha || c == '_'
  let goesWell := name.all fun c => c.isAlphanum || "_.[]".toList.contains c
  if startsWell && goesWell && name.length < input.length then some (input.drop (name.length + 1))
  else none

/-- Flags that are set and, behind a minus sign, flags that are not. None is given twice. -/
def areFlags (text : List Char) : Bool :=
  let flags := text.filter (· ≠ '-')
  flags.all ("imsURux".toList.contains ·) && decide flags.Nodup &&
    !(text.takeWhile (· ≠ '-')).contains 'i' && decide (text.count '-' ≤ 1) &&
    text.getLast? != some '-' && !text.isEmpty

/-- Reads the beginning of a group behind its opening parenthesis, and says whether it opens one.
Flags may be set without a group. -/
def afterGroupStart? (input : List Char) : Option (Bool × List Char) :=
  match input with
  | '?' :: 'P' :: '<' :: rest | '?' :: '<' :: rest => (afterGroupName? rest).map fun rest => (true, rest)
  | '?' :: ':' :: rest => some (true, rest)
  | '?' :: rest =>
    let flags := rest.takeWhile fun c => c ≠ ':' && c ≠ ')'
    match rest.drop flags.length with
    | ':' :: rest => if areFlags flags then some (true, rest) else none
    | ')' :: rest => if areFlags flags then some (false, rest) else none
    | _ => none
  | rest => some (true, rest)

/-- The text is a regular expression, inside of `depth` groups. What is repeated has to stand
before the sign of the repetition. Each step takes a character. -/
def isExpression : Nat → Nat → Bool → List Char → Bool
  | 0, _, _, _ => false
  | _, depth, _, [] => depth == 0
  | fuel + 1, depth, mayRepeat, c :: rest =>
    match c with
    | '(' =>
      match afterGroupStart? rest with
      | some (true, rest) => isExpression fuel (depth + 1) false rest
      | some (false, rest) => isExpression fuel depth false rest
      | none => false
    | ')' => depth != 0 && isExpression fuel (depth - 1) true rest
    | '|' => isExpression fuel depth false rest
    | '*' | '+' | '?' =>
      -- A question mark behind the sign asks for the shortest repetition.
      let rest := match rest with
        | '?' :: more => more
        | _ => rest
      mayRepeat && isExpression fuel depth true rest
    | '[' =>
      match afterClass? (rest.length + 1) 0 (afterClassStart rest) with
      | some rest => isExpression fuel depth true rest
      | none => false
    | '\\' =>
      match afterEscape? rest with
      | some rest => isExpression fuel depth true rest
      | none => false
    | _ => c != '\x7b' && isExpression fuel depth true rest

/-- The text asks for a value. -/
def isPattern (text : List Char) : Bool :=
  isSignedNumber text || isExpression (text.length + 1) 0 false text

end Telemetry.FieldPattern
