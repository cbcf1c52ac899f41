import Telemetry.Numeral
import Telemetry.Hex
import Telemetry.Yaml.Input

/-!
# Scalars

A scalar is written plain, in quotes of either kind, or as a block of indented lines. Inside plain
and quoted scalars lines are folded: a single line break stands for a space, of several the first
is dropped, and blanks around them do not count.
-/

namespace Telemetry.Yaml

/-- How a scalar is written. -/
inductive ScalarStyle where
  | plain
  | quoted
  | literal
  | folded
  deriving DecidableEq, Repr

/-! ### Folding -/

/-- Blanks and line breaks between words. -/
structure Gap where
  /-- The blanks before a line break. -/
  blanks : List Char
  /-- The first line break. It is empty if it is escaped. -/
  lineBreak : Option (List Char)
  moreBreaks : List Char

namespace Gap

/-- Nothing yet. -/
def empty : Gap := ⟨[], none, []⟩

/-- The gap after an escaped line break. -/
def escapedBreak : Gap := ⟨[], some [], []⟩

/-- What a gap stands for. -/
def text (gap : Gap) : List Char :=
  match gap.lineBreak with
  | none => gap.blanks
  | some b =>
    if b = ['\n'] then (if gap.moreBreaks = [] then [' '] else gap.moreBreaks)
    else b ++ gap.moreBreaks

/-- Reads blanks and line breaks on. A tab that stands for indentation, before column `indent`, is
an error. -/
def read? (indent : Nat) : Gap → Input → Option (Gap × Input)
  | gap, [] => some (gap, [])
  | gap, c :: rest =>
    if isBlank c.char then
      match gap.lineBreak with
      | none => read? indent { gap with blanks := gap.blanks ++ [c.char] } rest
      | some _ =>
        if c.char = '\t' ∧ c.column < indent then none else read? indent gap rest
    else if isBreak c.char then
      match gap.lineBreak with
      | none => read? indent ⟨[], some [c.char], []⟩ rest
      | some _ => read? indent { gap with moreBreaks := gap.moreBreaks ++ [c.char] } rest
    else some (gap, c :: rest)

end Gap

/-! ### Quoted scalars -/

/-- Reads the rest of a scalar in single quotes. A quote inside is written twice. Each step takes
a character, so as much fuel as there are characters is enough. -/
def singleQuoted? : Nat → Input → Option (List Char × Input)
  | 0, _ => none
  | _, [] => none
  | fuel + 1, c :: rest =>
    if Input.isAtDocument (c :: rest) then none
    else if c.char = '\'' then
      if Input.isAt rest '\'' then
        (singleQuoted? fuel rest.tail).map fun (text, rest) => ('\'' :: text, rest)
      else some ([], rest)
    else if isSeparator c.char then do
      let (gap, rest) ← Gap.empty.read? 0 (c :: rest)
      let (text, rest) ← singleQuoted? fuel rest
      some (gap.text ++ text, rest)
    else (singleQuoted? fuel rest).map fun (text, rest) => (c.char :: text, rest)

/-- The character that a one-letter escape stands for. -/
def letterEscape? (c : Char) : Option Char :=
  [('0', '\x00'), ('a', '\x07'), ('b', '\x08'), ('t', '\t'), ('\t', '\t'), ('n', '\n'),
    ('v', '\x0b'), ('f', '\x0c'), ('r', '\r'), ('e', '\x1b'), (' ', ' '), ('"', '"'), ('/', '/'),
    ('\\', '\\'), ('N', '\u0085'), ('_', '\u00a0'), ('L', '\u2028'), ('P', '\u2029')].lookup c

/-- The number of hexadecimal digits that follow an escape. -/
def escapeWidth? (c : Char) : Option Nat :=
  [('x', 2), ('u', 4), ('U', 8)].lookup c

/-- Reads what an escape stands for, given its letter. -/
def escape? (letter : Char) (rest : Input) : Option (Char × Input) :=
  match letterEscape? letter with
  | some c => some (c, rest)
  | none => do
    let width ← escapeWidth? letter
    let digits := (rest.take width).map Placed.char
    if digits.length = width then
      let n ← Hex.number? digits
      if n.isValidChar then some (Char.ofNat n, rest.drop width) else none
    else none

/-- Reads the rest of a scalar in double quotes. Each step takes a character. -/
def doubleQuoted? : Nat → Input → Option (List Char × Input)
  | 0, _ => none
  | _, [] => none
  | fuel + 1, c :: rest =>
    if Input.isAtDocument (c :: rest) then none
    else if c.char = '"' then some ([], rest)
    else if c.char = '\\' then
      match rest with
      | [] => none
      | letter :: rest =>
        if isBreak letter.char then do
          -- An escaped line break joins the lines without a space.
          let (gap, rest) ← Gap.escapedBreak.read? 0 rest
          let (text, rest) ← doubleQuoted? fuel rest
          some (gap.text ++ text, rest)
        else do
          let (c, rest) ← escape? letter.char rest
          let (text, rest) ← doubleQuoted? fuel rest
          some (c :: text, rest)
    else if isSeparator c.char then do
      let (gap, rest) ← Gap.empty.read? 0 (c :: rest)
      let (text, rest) ← doubleQuoted? fuel rest
      some (gap.text ++ text, rest)
    else (doubleQuoted? fuel rest).map fun (text, rest) => (c.char :: text, rest)

/-! ### Plain scalars -/

/-- The characters that structure a flow collection. -/
def isFlowIndicator (c : Char) : Bool :=
  c == ',' || c == '[' || c == ']' || c == '\x7b' || c == '\x7d'

/-- Reads a word of a plain scalar. It ends at a separator, at a colon before a separator, and in
flow collections at an indicator. There a colon right before an indicator is an error. -/
def plainWord? (inFlow : Bool) : Input → Option (List Char × Input)
  | [] => some ([], [])
  | c :: rest =>
    let beforeIndicator := rest.head?.any fun next => isFlowIndicator next.char || next.char == '?'
    if isSeparator c.char then some ([], c :: rest)
    else if c.char = ':' && inFlow && beforeIndicator then none
    else if c.char = ':' && Input.isAtSeparator rest then some ([], c :: rest)
    else if inFlow && isFlowIndicator c.char then some ([], c :: rest)
    else (plainWord? inFlow rest).map fun (word, rest) => (c.char :: word, rest)

/-- Text that was read, whether a line break was read behind it, and the rest. -/
structure PlainText where
  text : List Char
  crossesLine : Bool
  rest : Input

/-- Reads words of a plain scalar. Outside of flow collections it ends before a line that is
indented less than `indent`, anywhere before a comment and before the mark of a document. The gap
before a word counts only if the word is there. -/
def plain? (inFlow : Bool) (indent : Nat) : Nat → Gap → Input → Option PlainText
  | 0, _, _ => none
  | fuel + 1, before, input =>
    let crossed := before.lineBreak.isSome
    if input.isAtDocument || input.isAt '#' then some ⟨[], crossed, input⟩
    else do
      let (word, rest) ← plainWord? inFlow input
      -- No word is left, so the gap before it is not part of the scalar.
      if word = [] then some ⟨[], crossed, rest⟩
      else if rest.isEmpty || !rest.isAtSeparator then some ⟨before.text ++ word, false, rest⟩
      else do
        let (gap, rest) ← Gap.empty.read? indent rest
        if !inFlow && rest.head?.any (fun c => c.column < indent) then
          some ⟨before.text ++ word, gap.lineBreak.isSome, rest⟩
        else do
          let more ← plain? inFlow indent fuel gap rest
          some { more with text := before.text ++ word ++ more.text }

/-! ### Block scalars -/

/-- What becomes of the line breaks at the end of a block. -/
inductive Chomping where
  | strip
  | clip
  | keep
  deriving DecidableEq

/-- Reads the chomping mark of a block, if there is one. -/
def chomping? : Input → Option (Chomping × Input)
  | [] => none
  | c :: rest =>
    if c.char = '+' then some (.keep, rest)
    else if c.char = '-' then some (.strip, rest)
    else none

/-- Reads the indentation mark of a block, if there is one. It is not zero. -/
def indentation? : Input → Option (Nat × Input)
  | [] => none
  | c :: rest => if '1' ≤ c.char ∧ c.char ≤ '9' then some (Numeral.value c.char, rest) else none

/-- Reads the marks of a block, in either order. -/
def blockMarks (input : Input) : Chomping × Option Nat × Input :=
  match chomping? input with
  | some (chomping, rest) =>
    match indentation? rest with
    | some (n, rest) => (chomping, some n, rest)
    | none => (chomping, none, rest)
  | none =>
    match indentation? input with
    | some (n, rest) =>
      match chomping? rest with
      | some (chomping, rest) => (chomping, some n, rest)
      | none => (.clip, some n, rest)
    | none => (.clip, none, input)

/-- Empty lines of a block. -/
structure EmptyLines where
  breaks : List Char
  /-- The deepest column that was reached. -/
  deepest : Nat
  rest : Input

/-- Reads empty lines and the indentation of the next line, up to column `limit` if it is known.
A tab in the indentation is an error. Each step takes a line. -/
def emptyLines? (limit : Option Nat) : Nat → Nat → Input → Option EmptyLines
  | 0, _, _ => none
  | fuel + 1, deepest, input =>
    let isIndent (c : Placed) := limit.all (c.column < ·)
    match input.dropWhile fun c => c.char == ' ' && isIndent c with
    | [] => some ⟨[], deepest, []⟩
    | c :: rest =>
      let deepest := max deepest c.column
      if c.char = '\t' && isIndent c then none
      else if isBreak c.char then
        (emptyLines? limit fuel deepest rest).map fun lines =>
          { lines with breaks := c.char :: lines.breaks }
      else some ⟨[], deepest, c :: rest⟩

/-- The part of a block that is read. -/
structure BlockLine where
  /-- The line break behind the last line. -/
  lineBreak : List Char
  /-- The last line started with a blank. -/
  startsBlank : Bool
  /-- The breaks of the empty lines behind the last line. -/
  emptyBreaks : List Char

/-- What stands between the last line of a block and one that does or does not start with a
blank. In a folded block a single line break between lines that start with no blank is a space. -/
def BlockLine.join (line : BlockLine) (folded startsBlank : Bool) : List Char :=
  if folded && line.lineBreak == ['\n'] && !line.startsBlank && !startsBlank then
    (if line.emptyBreaks.isEmpty then [' '] else line.emptyBreaks)
  else line.lineBreak ++ line.emptyBreaks

/-- What stands at the end of a block. -/
def BlockLine.tail (line : BlockLine) : Chomping → List Char
  | .strip => []
  | .clip => line.lineBreak
  | .keep => line.lineBreak ++ line.emptyBreaks

/-- Reads the lines of a block that are indented to column `indent`. Each step takes a line. -/
def blockLines? (folded : Bool) (chomping : Chomping) (indent : Nat) :
    Nat → BlockLine → Input → Option (List Char × Input)
  | 0, _, _ => none
  | fuel + 1, last, input =>
    match input with
    | [] => some (last.tail chomping, [])
    | c :: _ =>
      if c.column = indent then do
        let (line, rest) := input.span fun c => !isBreak c
        let lines ← emptyLines? (some indent) (rest.length + 1) 0 rest.tail
        let next : BlockLine :=
          ⟨(rest.take 1).map Placed.char, isBlank c.char, lines.breaks⟩
        let (text, rest) ← blockLines? folded chomping indent fuel next lines.rest
        some (last.join folded (isBlank c.char) ++ line ++ text, rest)
      else some (last.tail chomping, input)

/-- Reads a block behind its indicator, inside a collection whose entries stand at column
`parent`. The first line that is not empty sets the indentation if no mark does. -/
def block? (folded : Bool) (parent : Option Nat) (input : Input) : Option (List Char × Input) := do
  let (chomping, mark, rest) := blockMarks input
  let rest ← rest.skipLineEnd?
  let given := mark.map (parent.getD 0 + ·)
  let lines ← emptyLines? given (rest.length + 1) 0 rest
  let least := parent.elim 1 (· + 1)
  let indent := given.getD (max lines.deepest least)
  blockLines? folded chomping indent (lines.rest.length + 1) ⟨[], false, lines.breaks⟩ lines.rest

end Telemetry.Yaml
