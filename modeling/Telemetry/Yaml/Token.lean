import Telemetry.Numeral
import Telemetry.Yaml.Scalar

/-!
# YAML tokens

A text is a run of tokens, of which some are written and others follow from the columns: a block
collection starts where an entry stands deeper than those around it, and ends where a line stands
less deep. That something is a key is only known when its colon is read, so the token for a key
is put in front of it afterwards.
-/

namespace Telemetry.Yaml

/-- A token. -/
inductive Token where
  | version (major minor : Nat)
  | tagHandle (handle : String) (beginning : Bytes)
  | documentStart
  | documentEnd
  | blockSequenceStart
  | blockMappingStart
  | blockEnd
  | flowSequenceStart
  | flowSequenceEnd
  | flowMappingStart
  | flowMappingEnd
  | blockEntry
  | flowEntry
  | key
  | value
  | alias (name : String)
  | anchor (name : String)
  | tag (handle : String) (suffix : Bytes)
  | scalar (style : ScalarStyle) (text : String)
  deriving DecidableEq, Repr

/-- The most bytes that a key has on its line. -/
def keyLimit : Nat := 1024

/-- A place where a key may have started. -/
structure KeyStart where
  /-- Nothing but a key can stand there. -/
  required : Bool
  /-- The number of tokens before it. -/
  position : Nat
  place : Placed

/-- What is known after the tokens that are read so far. -/
structure Scan where
  /-- The tokens, the latest first. -/
  tokens : List Token
  /-- The columns of the block collections that are open, the innermost first. -/
  columns : List Nat
  /-- A key may start at the next token. -/
  mayStartKey : Bool
  /-- Where a key may have started in the innermost flow collection, or outside of all. -/
  keyStart : Option KeyStart
  /-- The same for the collections around it, the innermost first. -/
  outerKeyStarts : List (Option KeyStart)

namespace Scan

/-- The start of a text. -/
def start : Scan :=
  { tokens := [], columns := [], mayStartKey := true, keyStart := none, outerKeyStarts := [] }

/-- A flow collection is open. -/
def inFlow (s : Scan) : Bool :=
  !s.outerKeyStarts.isEmpty

/-- Adds a token. -/
def emit (s : Scan) (t : Token) : Scan :=
  { s with tokens := t :: s.tokens }

/-- Adds a token behind the first `position` tokens. -/
def emitAt (s : Scan) (position : Nat) (t : Token) : Scan :=
  let later := s.tokens.length - position
  { s with tokens := s.tokens.take later ++ t :: s.tokens.drop later }

/-- Ends the block collections that stand deeper than a line. -/
def endBlocks (s : Scan) (stays : Nat → Bool) : Scan :=
  if s.inFlow then s
  else
    let ended := s.columns.takeWhile fun column => !stays column
    { s with
      tokens := List.replicate ended.length .blockEnd ++ s.tokens
      columns := s.columns.drop ended.length }

/-- Starts a block collection at a column unless there is one, with its token behind the first
`position` tokens. -/
def startBlock (s : Scan) (position column : Nat) (t : Token) : Scan :=
  if s.inFlow || s.columns.head?.any (column ≤ ·) then s
  else { s.emitAt position t with columns := column :: s.columns }

/-- Gives up the key that may have started. One that is required must not be given up. -/
def dropKey (s : Scan) : Option Scan :=
  if s.keyStart.any KeyStart.required then none else some { s with keyStart := none }

/-- A key that started somewhere cannot go on at the given place. -/
def isStale (c : Placed) (k : KeyStart) : Bool :=
  k.place.line < c.line || k.place.offset + keyLimit < c.offset

/-- Gives up all keys that cannot go on at the given place. -/
def dropStaleKeys (s : Scan) (c : Placed) : Option Scan :=
  let all := s.keyStart :: s.outerKeyStarts
  if all.any fun k => k.any fun k => k.required && isStale c k then none
  else
    let kept := fun k => Option.filter (fun k => !isStale c k) k
    some { s with keyStart := kept s.keyStart, outerKeyStarts := s.outerKeyStarts.map kept }

/-- Notes that a key may start here. -/
def saveKey (s : Scan) (c : Placed) : Option Scan :=
  if s.mayStartKey then do
    let required := !s.inFlow && s.columns.head? == some c.column
    let s ← s.dropKey
    some { s with keyStart := some ⟨required, s.tokens.length, c⟩ }
  else some s

/-- Notes a token that a key may start with and that no key may follow. -/
def saveToken (s : Scan) (c : Placed) (t : Token) : Option Scan := do
  let s ← s.saveKey c
  some { s.emit t with mayStartKey := false }

/-- Starts a flow collection. -/
def openFlow (s : Scan) (c : Placed) (t : Token) : Option Scan := do
  let s ← s.saveKey c
  some
    { s.emit t with
      mayStartKey := true
      keyStart := none
      outerKeyStarts := s.keyStart :: s.outerKeyStarts }

/-- Ends a flow collection. -/
def closeFlow (s : Scan) (t : Token) : Option Scan := do
  let s ← s.dropKey
  let s := match s.outerKeyStarts with
    | outer :: more => { s with keyStart := outer, outerKeyStarts := more }
    | [] => s
  some { s.emit t with mayStartKey := false }

/-- Adds the indicator of an entry of a block collection that starts at its column. It has to
stand where a key may start. -/
def blockIndicator (s : Scan) (c : Placed) (collection entry : Token) : Option Scan := do
  if !s.inFlow && !s.mayStartKey then none
  let s := s.startBlock s.tokens.length c.column collection
  let s ← s.dropKey
  some (s.emit entry)

/-- Adds the indicator of a value. If a key may have started on this line, it did. -/
def valueIndicator (s : Scan) (c : Placed) : Option Scan :=
  match s.keyStart with
  | some k =>
    -- The key goes first: the start of its mapping is put in front of it.
    let s := s.emitAt k.position .key
    let s := s.startBlock k.position k.place.column .blockMappingStart
    some { s.emit .value with keyStart := none, mayStartKey := false }
  | none => do
    let s ← s.blockIndicator c .blockMappingStart .value
    some { s with mayStartKey := !s.inFlow }

/-- Ends all blocks at the end of a document. -/
def endDocument (s : Scan) : Option Scan := do
  let s ← (s.endBlocks fun _ => false).dropKey
  some { s with mayStartKey := false }

end Scan

/-! ### Names, tags and directives -/

/-- A character of a name. -/
def isNameChar (c : Char) : Bool :=
  c.isAlphanum || c == '_' || c == '-'

/-- Reads the name of an anchor behind its indicator. -/
def anchorName? (input : Input) : Option (String × Input) :=
  let (name, rest) := input.span isNameChar
  let isEnd := rest.isAtSeparator ||
    rest.head?.any fun c => "?:,]\x7d%@".toList.contains c.char || c.char == '\x60'
  if name.isEmpty || !isEnd then none else some (String.ofList name, rest)

/-- A character of a tag. -/
def isTagChar (c : Char) : Bool :=
  isNameChar c || ";/?:@&=+$.!~*'()".toList.contains c

/-- The number of bytes of a character that starts with the given byte. -/
def utf8Width? (first : UInt8) : Option Nat :=
  if first < 0x80 then some 1
  else if 0xC0 ≤ first && first < 0xE0 then some 2
  else if 0xE0 ≤ first && first < 0xF0 then some 3
  else if 0xF0 ≤ first && first < 0xF8 then some 4
  else none

/-- Reads a byte that is escaped as two hexadecimal digits behind a percent sign. -/
def escapedByte? (input : Input) : Option (UInt8 × Input) :=
  if input.isAt '%' then
    match Hex.toBytes? ((input.tail.take 2).map Placed.char) with
    | some [b] => some (b, input.drop 3)
    | _ => none
  else none

/-- Reads escaped bytes that continue a character. -/
def continuationBytes? : Nat → Input → Option (Bytes × Input)
  | 0, input => some ([], input)
  | count + 1, input => do
    let (b, rest) ← escapedByte? input
    if b < 0x80 || 0xC0 ≤ b then none
    let (bytes, rest) ← continuationBytes? count rest
    some (b :: bytes, rest)

/-- Reads a character of which all bytes are escaped. Only its first byte says how many there are;
that it is a character of Unicode is not asked. -/
def escapedChar? (input : Input) : Option (Bytes × Input) := do
  let (first, rest) ← escapedByte? input
  let width ← utf8Width? first
  let (bytes, rest) ← continuationBytes? (width - 1) rest
  some (first :: bytes, rest)

/-- Reads the characters of a tag, of which some may be escaped. Each step takes a character. -/
def tagChars? (more : Char → Bool) : Nat → Input → Option (Bytes × Input)
  | 0, _ => none
  | _, [] => some ([], [])
  | fuel + 1, c :: rest =>
    if c.char = '%' then do
      let (escaped, rest) ← escapedChar? (c :: rest)
      let (bytes, rest) ← tagChars? more fuel rest
      some (escaped ++ bytes, rest)
    else if isTagChar c.char || more c.char then do
      let (bytes, rest) ← tagChars? more fuel rest
      some (Text.utf8 (String.singleton c.char) ++ bytes, rest)
    else some ([], c :: rest)

/-- A part of a tag ends before a zero byte. -/
def upToZero (bytes : Bytes) : Bytes :=
  bytes.takeWhile (· ≠ 0)

/-- Reads a part of a tag, which may be empty. -/
def tagPart? (more : Char → Bool) (input : Input) : Option (Bytes × Input) := do
  let (bytes, rest) ← tagChars? more (input.length + 1) input
  some (upToZero bytes, rest)

/-- Reads a part of a tag for which something has to be written. -/
def writtenTagPart? (more : Char → Bool) (input : Input) : Option (Bytes × Input) := do
  let (bytes, rest) ← tagChars? more (input.length + 1) input
  if bytes = [] then none else some (upToZero bytes, rest)

/-- A character that a tag may have where no flow collection can be meant. -/
def isUriChar (c : Char) : Bool :=
  c == ',' || c == '[' || c == ']'

/-- Reads a handle behind its first exclamation mark, if it has a second one. -/
def handle? (input : Input) : Option (String × Input) :=
  let (name, rest) := input.span isNameChar
  if rest.isAt '!' then some (String.ofList ('!' :: name ++ ['!']), rest.tail) else none

/-- Reads a tag behind its exclamation mark. It is given whole between angle brackets, or has a
handle, or belongs to the document. A lone exclamation mark is a tag of its own. -/
def tag? (input : Input) : Option (Token × Input) :=
  if input.isAt '<' then do
    let (tag, rest) ← writtenTagPart? isUriChar input.tail
    if rest.isAt '>' then some (.tag "" tag, rest.tail) else none
  else
    match handle? input with
    | some (handle, rest) => do
      let (suffix, rest) ← writtenTagPart? (fun _ => false) rest
      some (.tag handle suffix, rest)
    | none => do
      let (suffix, rest) ← tagPart? (fun _ => false) input
      some (if suffix = [] then .tag "" (Text.utf8 "!") else .tag "!" suffix, rest)

/-- Reads a tag that ends where it may. -/
def endedTag? (inFlow : Bool) (input : Input) : Option (Token × Input) := do
  let (t, rest) ← tag? input
  if rest.isAtSeparator || (inFlow && rest.isAt ',') then some (t, rest) else none

/-- Reads a number of at most nine digits. -/
def versionNumber? (input : Input) : Option (Nat × Input) :=
  let (digits, rest) := input.span Char.isDigit
  if 9 < digits.length then none
  else (Numeral.number? digits).map fun n => (n, rest)

/-- Reads a directive behind its percent sign. -/
def directive? (input : Input) : Option (Token × Input) := do
  let (name, rest) := input.span isNameChar
  if !rest.isAtSeparator then none
  let rest := rest.skip isBlank
  if String.ofList name = "YAML" then do
    let (major, rest) ← versionNumber? rest
    if !rest.isAt '.' then none
    let (minor, rest) ← versionNumber? rest.tail
    let rest ← rest.skipLineEnd?
    some (.version major minor, rest)
  else if String.ofList name = "TAG" then do
    if !rest.isAt '!' then none
    let (handle, rest) := (handle? rest.tail).getD ("!", rest.tail)
    if !rest.head?.any fun c => isBlank c.char then none
    let (beginning, rest) ← writtenTagPart? isUriChar (rest.skip isBlank)
    if !rest.isAtSeparator then none
    let rest ← rest.skipLineEnd?
    some (.tagHandle handle beginning, rest)
  else none

/-! ### Tokens -/

/-- The input at the next token: behind blanks, comments and line breaks. A tab does not count as
blank where a key may start in a block. On a new line outside of flow collections a key may start.
Each step takes a character. -/
def toToken : Nat → Scan → Input → Scan × Input
  | 0, s, input => (s, input)
  | _, s, [] => (s, [])
  | fuel + 1, s, c :: rest =>
    if c.char = ' ' || (c.char = '\t' && (s.inFlow || !s.mayStartKey)) then toToken fuel s rest
    else if c.char = byteOrderMark && c.column = 0 then toToken fuel s rest
    else if c.char = '#' then toToken fuel s (Input.skip (fun c => !isBreak c) rest)
    else if isBreak c.char then
      toToken fuel { s with mayStartKey := s.mayStartKey || !s.inFlow } rest
    else (s, c :: rest)

/-- A plain scalar may start here. -/
def startsPlain (inFlow : Bool) (c : Placed) (rest : Input) : Bool :=
  let isIndicator :=
    "-?:,[]\x7b\x7d#&*!|>'\"%@".toList.contains c.char || c.char == '\x60' || isSeparator c.char
  !isIndicator ||
    (c.char == '-' && !rest.head?.any fun next => isBlank next.char) ||
    (!inFlow && (c.char == '?' || c.char == ':') && !rest.isAtSeparator)

/-- Reads the token that starts with the given character. -/
def next? (s : Scan) (c : Placed) (rest : Input) : Option (Scan × Input) :=
  let input : Input := c :: rest
  let fuel := input.length + 1
  -- What stands at the start of a line and concerns the document as a whole.
  if c.column = 0 && c.char = '%' then do
    let s ← s.endDocument
    let (t, rest) ← directive? rest
    some (s.emit t, rest)
  else if input.isAtMark '-' then do
    some ((← s.endDocument).emit .documentStart, input.drop 3)
  else if input.isAtMark '.' then do
    some ((← s.endDocument).emit .documentEnd, input.drop 3)
  -- The brackets and commas of flow collections.
  else if c.char = '[' then do some (← s.openFlow c .flowSequenceStart, rest)
  else if c.char = '\x7b' then do some (← s.openFlow c .flowMappingStart, rest)
  else if c.char = ']' then do some (← s.closeFlow .flowSequenceEnd, rest)
  else if c.char = '\x7d' then do some (← s.closeFlow .flowMappingEnd, rest)
  else if c.char = ',' then do
    let s ← s.dropKey
    some ({ s.emit .flowEntry with mayStartKey := true }, rest)
  -- The indicators of entries, keys and values.
  else if input.isAtWord '-' then do
    let s ← s.blockIndicator c .blockSequenceStart .blockEntry
    some ({ s with mayStartKey := true }, rest)
  else if c.char = '?' && (s.inFlow || rest.isAtSeparator) then do
    let s ← s.blockIndicator c .blockMappingStart .key
    some ({ s with mayStartKey := !s.inFlow }, rest)
  else if c.char = ':' && (s.inFlow || rest.isAtSeparator) then do
    some (← s.valueIndicator c, rest)
  -- What stands in front of a node or in its place.
  else if c.char = '*' then do
    let (name, rest) ← anchorName? rest
    some (← s.saveToken c (.alias name), rest)
  else if c.char = '&' then do
    let (name, rest) ← anchorName? rest
    some (← s.saveToken c (.anchor name), rest)
  else if c.char = '!' then do
    let (t, rest) ← endedTag? s.inFlow rest
    some (← s.saveToken c t, rest)
  -- Scalars, the plain ones last because any other character may start them.
  else if (c.char = '|' || c.char = '>') && !s.inFlow then do
    let s ← s.dropKey
    let (text, rest) ← block? (c.char == '>') s.columns.head? rest
    let style : ScalarStyle := if c.char = '>' then .folded else .literal
    some ({ s.emit (.scalar style (String.ofList text)) with mayStartKey := true }, rest)
  else if c.char = '\'' then do
    let (text, rest) ← singleQuoted? fuel rest
    some (← s.saveToken c (.scalar .quoted (String.ofList text)), rest)
  else if c.char = '"' then do
    let (text, rest) ← doubleQuoted? fuel rest
    some (← s.saveToken c (.scalar .quoted (String.ofList text)), rest)
  else if startsPlain s.inFlow c rest then do
    let read ← plain? s.inFlow (s.columns.head?.elim 0 (· + 1)) fuel .empty input
    let s ← s.saveToken c (.scalar .plain (String.ofList read.text))
    some ({ s with mayStartKey := read.crossesLine }, read.rest)
  else none

/-- Reads tokens up to the end of the text. Each step takes a character. -/
def tokensFrom? : Nat → Scan → Input → Option (List Token)
  | 0, _, _ => none
  | fuel + 1, s, input =>
    match toToken (input.length + 1) s input with
    | (s, []) => do
      let s ← s.endDocument
      some s.tokens.reverse
    | (s, c :: rest) => do
      let s ← s.dropStaleKeys c
      let (s, rest) ← next? (s.endBlocks fun column => column ≤ c.column) c rest
      tokensFrom? fuel s rest

/-- The tokens of a text. -/
def tokens? (text : String) : Option (List Token) := do
  let input ← inputOf? text.toList
  tokensFrom? (input.length + 1) .start input

end Telemetry.Yaml
