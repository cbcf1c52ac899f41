import Telemetry.Hex

/-!
# JSON texts

`Json.read?` reads a JSON text by RFC 8259 into a tree. The tree keeps what readers of numbers and
strings still have to judge: a number is kept as its literal, and a string is kept even if its
content is no Unicode text, because a member nobody asks for may hold anything. The input is a
list of characters in which a byte that belongs to no character is `none`; such a byte can only
stand inside a string.
-/

namespace Telemetry

/-- The characters that bytes encode from position `i` on. A byte that starts no valid UTF-8
sequence stands alone, as `none`. -/
def Bytes.charsFrom (bytes : ByteArray) (i : Nat) : List (Option Char) :=
  if _h : i < bytes.size then
    match bytes.utf8DecodeChar? i with
    | some c => some c :: charsFrom bytes (i + c.utf8Size)
    | none => none :: charsFrom bytes (i + 1)
  else []
termination_by bytes.size - i
decreasing_by
  · have := Char.utf8Size_pos c
    omega
  · omega

/-- The characters that bytes encode. -/
def Bytes.chars (bytes : Bytes) : List (Option Char) :=
  charsFrom ⟨bytes.toArray⟩ 0

/-- A number literal: its sign, and the digits of its parts. -/
structure NumberLiteral where
  negative : Bool
  whole : List Char
  /-- The digits after the point, if there is a point. -/
  fraction : Option (List Char)
  /-- Whether the exponent is negative, and its digits, if there is an exponent. -/
  exponent : Option (Bool × List Char)
  deriving DecidableEq, Repr

/-- A JSON text as a tree. A string whose content is no Unicode text is `none`. -/
inductive Json where
  | null
  | bool (b : Bool)
  | number (n : NumberLiteral)
  | string (s : Option String)
  | array (items : List Json)
  | object (members : List (Option String × Json))

namespace Json

instance : Inhabited Json := ⟨.null⟩

/-- The input of the reader. -/
abbrev Input := List (Option Char)

/-- White space between tokens. -/
def isSpace (c : Char) : Bool :=
  c == ' ' || c == '\t' || c == '\n' || c == '\r'

/-- The input from the first character on that is not white space. -/
def skipSpace (input : Input) : Input :=
  input.dropWhile fun
    | some c => isSpace c
    | none => false

/-! ### Strings -/

/-- What a string literal is made of: characters, the 16-bit units of escapes, and bytes that
belong to no character. -/
inductive Piece where
  | char (c : Char)
  | unit (n : Nat)
  | broken

/-- The character that a one-letter escape stands for. -/
def escape? (c : Char) : Option Char :=
  match c with
  | '"' => some '"'
  | '\\' => some '\\'
  | '/' => some '/'
  | 'b' => some '\x08'
  | 'f' => some '\x0c'
  | 'n' => some '\n'
  | 'r' => some '\r'
  | 't' => some '\t'
  | _ => none

/-- Reads the pieces of a string up to its closing quote. -/
def pieces : Input → Option (List Piece × Input)
  | [] => none
  | none :: rest => (pieces rest).map fun (ps, tail) => (.broken :: ps, tail)
  | some c :: rest =>
    if c = '"' then some ([], rest)
    else if c = '\\' then
      match rest with
      | some e :: more =>
        if e = 'u' then
          match more with
          | some a :: some b :: some c :: some d :: tail =>
            match Hex.number? [a, b, c, d] with
            | some n => (pieces tail).map fun (ps, tail) => (.unit n :: ps, tail)
            | none => none
          | _ => none
        else
          match escape? e with
          | some x => (pieces more).map fun (ps, tail) => (.char x :: ps, tail)
          | none => none
      | _ => none
    else if c.toNat < 0x20 then none
    else (pieces rest).map fun (ps, tail) => (.char c :: ps, tail)

/-- The characters that pieces amount to, if they are Unicode text. Two units of a surrogate pair
make one character. -/
def characters : List Piece → Option (List Char)
  | [] => some []
  | .char c :: rest => (characters rest).map (c :: ·)
  | .broken :: _ => none
  | .unit n :: rest =>
    if n < 0xD800 ∨ 0xDFFF < n then (characters rest).map (Char.ofNat n :: ·)
    -- The first unit of a pair has to be followed by the second.
    else if n < 0xDC00 then
      match rest with
      | .unit m :: more =>
        if 0xDC00 ≤ m ∧ m ≤ 0xDFFF then
          (characters more).map (Char.ofNat (0x10000 + 0x400 * (n - 0xD800) + (m - 0xDC00)) :: ·)
        else none
      | _ => none
    else none

/-- Reads the rest of a string after its opening quote. -/
def string? (input : Input) : Option (Option String × Input) :=
  (pieces input).map fun (ps, tail) => ((characters ps).map String.ofList, tail)

/-! ### Numbers -/

/-- The digits at the front of the input, and what follows them. -/
def digits : Input → List Char × Input
  | some c :: rest =>
    if '0' ≤ c ∧ c ≤ '9' then
      let (ds, tail) := digits rest
      (c :: ds, tail)
    else ([], some c :: rest)
  | input => ([], input)

/-- Reads the part of a number after the point, if there is one. -/
def fraction? (input : Input) : Option (Option (List Char) × Input) :=
  match input with
  | some '.' :: rest =>
    match digits rest with
    | ([], _) => none
    | (ds, tail) => some (some ds, tail)
  | _ => some (none, input)

/-- Reads the sign of an exponent and says whether it is negative. -/
def exponentSign (input : Input) : Bool × Input :=
  match input with
  | some '+' :: rest => (false, rest)
  | some '-' :: rest => (true, rest)
  | _ => (false, input)

/-- Reads the exponent of a number, if there is one. -/
def exponent? (input : Input) : Option (Option (Bool × List Char) × Input) :=
  let read (rest : Input) : Option (Option (Bool × List Char) × Input) :=
    let (negative, rest) := exponentSign rest
    match digits rest with
    | ([], _) => none
    | (ds, tail) => some (some (negative, ds), tail)
  match input with
  | some 'e' :: rest => read rest
  | some 'E' :: rest => read rest
  | _ => some (none, input)

/-- Reads the digits before the point: a zero alone, or digits of which the first is not zero. -/
def whole? (input : Input) : Option (List Char × Input) :=
  match digits input with
  | ([], _) => none
  | ('0' :: _ :: _, _) => none
  | (ds, tail) => some (ds, tail)

/-- Reads a number after its sign. -/
def number? (negative : Bool) (input : Input) : Option (Json × Input) := do
  let (whole, rest) ← whole? input
  let (fraction, rest) ← fraction? rest
  let (exponent, rest) ← exponent? rest
  some (.number ⟨negative, whole, fraction, exponent⟩, rest)

/-! ### Values -/

/-- Reads a word. -/
def word? (word : List Char) (value : Json) : Input → Option (Json × Input)
  | input => match word, input with
    | [], rest => some (value, rest)
    | c :: more, some d :: rest => if c = d then word? more value rest else none
    | _ :: _, _ => none

mutual

/-- Reads a value. The number bounds the steps that are taken. -/
def value? : Nat → Input → Option (Json × Input)
  | 0, _ => none
  | fuel + 1, input =>
    match skipSpace input with
    | some '\x7b' :: rest =>
      match skipSpace rest with
      | some '\x7d' :: rest => some (.object [], rest)
      | rest => (members? fuel rest).map fun (ms, rest) => (.object ms, rest)
    | some '[' :: rest =>
      match skipSpace rest with
      | some ']' :: rest => some (.array [], rest)
      | rest => (items? fuel rest).map fun (js, rest) => (.array js, rest)
    | some '"' :: rest => (string? rest).map fun (s, rest) => (.string s, rest)
    | some '-' :: rest => number? true rest
    | some 't' :: rest => word? ['r', 'u', 'e'] (.bool true) rest
    | some 'f' :: rest => word? ['a', 'l', 's', 'e'] (.bool false) rest
    | some 'n' :: rest => word? ['u', 'l', 'l'] .null rest
    | rest => number? false rest

/-- Reads the items of an array that is not empty, and its closing bracket. -/
def items? : Nat → Input → Option (List Json × Input)
  | 0, _ => none
  | fuel + 1, input => do
    let (item, rest) ← value? fuel input
    match skipSpace rest with
    | some ',' :: rest =>
      let (items, rest) ← items? fuel rest
      some (item :: items, rest)
    | some ']' :: rest => some ([item], rest)
    | _ => none

/-- Reads the members of an object that is not empty, and its closing brace. -/
def members? : Nat → Input → Option (List (Option String × Json) × Input)
  | 0, _ => none
  | fuel + 1, input => do
    match skipSpace input with
    | some '"' :: rest =>
      let (name, rest) ← string? rest
      match skipSpace rest with
      | some ':' :: rest =>
        let (value, rest) ← value? fuel rest
        match skipSpace rest with
        | some ',' :: rest =>
          let (members, rest) ← members? fuel rest
          some ((name, value) :: members, rest)
        | some '\x7d' :: rest => some ([(name, value)], rest)
        | _ => none
      | _ => none
    | _ => none

end

/-- Reads a whole text as one value. Every value and every list of items or members takes at
least one character, so twice the length of the text bounds the steps. -/
def readChars? (input : Input) : Option Json :=
  match value? (2 * input.length + 2) input with
  | some (value, rest) => if (skipSpace rest).isEmpty then some value else none
  | none => none

/-- Reads a whole byte string as one value. -/
def read? (bytes : Bytes) : Option Json :=
  readChars? bytes.chars

end Json

end Telemetry
