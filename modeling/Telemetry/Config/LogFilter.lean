import Telemetry.Config.Basic
import Telemetry.Config.FieldPattern
import Telemetry.Numeral
import Telemetry.Text.Alphanumeric

/-!
# Log filters

A filter is a list of directives with commas between them. A directive sets the level for all
messages, or for those whose source starts with a given name, and may ask for fields that a
message has to have. The directive with the longest name counts, and of those the one with the
most fields; of two that ask for the same the later one does. A directive that asks for a span or
for the value of a field concerns what happens inside spans and no message outside of them.
-/

namespace Telemetry

/-- A field that a directive asks for. -/
structure FieldCondition where
  name : String
  /-- The value that the field must have, if it must have a certain one. -/
  value : Option String
  deriving DecidableEq, Repr

/-- What a filter says about some messages. -/
structure LogDirective where
  /-- How the sources of the messages start, if that matters. -/
  source : Option String
  /-- The span that the messages belong to, if that matters. -/
  span : Option String
  fields : List FieldCondition
  /-- The level that is shown, if any is. -/
  level : Option LogLevel
  deriving DecidableEq, Repr

/-- A filter. -/
abbrev LogFilter := List LogDirective

/-- Why a text is no directive. -/
inductive DirectiveFault where
  | malformed
  /-- A part would start or end inside a character, which ends the program. -/
  | splitCharacter
  deriving DecidableEq, Repr

namespace LogDirective

/-- A directive before anything of it is read. It shows everything. -/
def everything : LogDirective := ⟨none, none, [], some .trace⟩

/-- The level of a name in letters of either case, or of its rank. -/
def level? (text : String) : Option (Option LogLevel) :=
  let ranked := match Numeral.unsigned? text.toList with
    | some 0 => some none
    | some rank => (LogLevel.all.find? fun (level : LogLevel) => level.rank == rank).map some
    | none => none
  let named :=
    if Text.sameIgnoringCase text "off" then some none
    else (LogLevel.all.find? fun (level : LogLevel) => Text.sameIgnoringCase text level.name).map some
  ranked.or named

/-- The text of some bytes of a directive. -/
def textOf (bytes : Bytes) : Except DirectiveFault String :=
  match bytes.text? with
  | some text => .ok text
  | none => .error .splitCharacter

/-- The text from one byte of a directive up to another. -/
def cut (text : Bytes) (first stop : Nat) : Except DirectiveFault String :=
  textOf ((text.take stop).drop first)

/-- Reads a level. One that is left out shows everything. -/
def levelOf (text : String) : Except DirectiveFault (Option LogLevel) :=
  if text = "" then .ok (some .trace)
  else match level? text with
    | some level => .ok level
    | none => .error .malformed

/-- Reads a field with or without a value. -/
def fieldOf (text : String) : Except DirectiveFault FieldCondition :=
  let name := text.toList.takeWhile (· ≠ '=')
  if text = "" then .error .malformed
  else match text.toList.drop name.length with
    | _ :: rest =>
      let value := rest.takeWhile (· ≠ '=')
      if FieldPattern.isPattern value then .ok ⟨String.ofList name, some (String.ofList value)⟩
      else .error .malformed
    | [] => .ok ⟨String.ofList name, none⟩

/-- What is read at a place of a directive, with the byte at which it started. -/
inductive Part where
  | start
  | levelOrSource (first : Nat)
  | span (first : Nat)
  | field (first : Nat)
  | afterFields
  | afterSpan
  | level (first : Nat)

/-- A directive as far as it is read, and the part that is being read. -/
structure Progress where
  directive : LogDirective
  part : Part

/-- Takes the character at byte `i`. The parts that it ends are cut out of `text`. -/
def step (text : Bytes) (i : Nat) (c : Char) (p : Progress) : Except DirectiveFault Progress := do
  let d := p.directive
  match p.part with
  | .start =>
    if c = '[' then pure ⟨d, .span (i + 1)⟩
    else if Text.isAlphanumeric c || ['-', ':', '_'].contains c then pure ⟨d, .levelOrSource i⟩
    else .error .malformed
  | .levelOrSource first =>
    if c = '=' then pure ⟨{ d with source := some (← cut text first i) }, .level (i + 1)⟩
    else if c = '[' then pure ⟨{ d with source := some (← cut text first i) }, .span (i + 1)⟩
    else pure p
  | .span first =>
    if c = ']' then pure ⟨{ d with span := some (← cut text first i) }, .afterSpan⟩
    else if c = '\x7b' then do
      let name ← cut text first i
      pure ⟨{ d with span := if name = "" then none else some name }, .field (i + 1)⟩
    else pure p
  | .field first =>
    if c = '\x7d' then do
      let field ← fieldOf (← cut text first i)
      pure ⟨{ d with fields := d.fields ++ [field] }, .afterFields⟩
    else pure p
  | .afterFields => if c = ']' then pure ⟨d, .afterSpan⟩ else .error .malformed
  | .afterSpan => if c = '=' then pure ⟨d, .level (i + 1)⟩ else .error .malformed
  | .level _ => pure p

/-- Takes characters from byte `i` on. -/
def steps (text : Bytes) : Nat → Progress → List Char → Except DirectiveFault Progress
  | _, p, [] => pure p
  | i, p, c :: rest => do steps text (i + c.utf8Size) (← step text i c p) rest

/-- The directive at the end of `text`. What may be a level or a source is a level if it can be
one, and a source without a level shows everything. -/
def finish (text : Bytes) (p : Progress) : Except DirectiveFault LogDirective := do
  let d := p.directive
  match p.part with
  | .levelOrSource first =>
    let name ← textOf (text.drop first)
    match level? name with
    | some level => pure { d with level }
    | none => pure { d with source := some name }
  | .level first => pure { d with level := ← levelOf (← textOf (text.drop first)) }
  | .afterSpan => pure d
  | .start | .span _ | .field _ | .afterFields => .error .malformed

/-- Reads a directive. Its parts are found without the white space around it, but cut out of the
text with that white space, by the same numbers of bytes. -/
def parse (text : String) : Except DirectiveFault LogDirective := do
  let bytes := Text.utf8 text
  finish bytes (← steps bytes 0 ⟨everything, .start⟩ (Text.trim text).toList)

/-- The directive concerns messages outside of spans. -/
def isForMessages (d : LogDirective) : Bool :=
  d.span.isNone && d.fields.all fun field => field.value.isNone

/-- The directive concerns messages from the given source with the given fields. -/
def covers (d : LogDirective) (source : String) (fields : List String) : Bool :=
  d.isForMessages && d.source.all (fun beginning => beginning.toList.isPrefixOf source.toList) &&
    d.fields.all fun field => fields.contains field.name

/-- How much a directive asks for: the length of a source, and then the number of fields. -/
def asksLess (d e : LogDirective) : Bool :=
  let size (d : LogDirective) := d.source.elim 0 fun source => source.length + 1
  size d < size e || (size d == size e && d.fields.length ≤ e.fields.length)

end LogDirective

namespace LogFilter

/-- The parts of a text between commas, without those that are empty. -/
def parts (text : List Char) : List String :=
  let (current, done) := text.foldr
    (fun c (current, done) => if c = ',' then ([], current :: done) else (c :: current, done))
    ([], [])
  ((current :: done).filter fun part => !part.isEmpty).map String.ofList

/-- A filter without directives shows errors. -/
def ofDirectives (directives : List LogDirective) : LogFilter :=
  if directives.isEmpty then [{ LogDirective.everything with level := some .error }]
  else directives

/-- Reads a filter. -/
def parse (text : String) : Except DirectiveFault LogFilter :=
  ((parts text.toList).mapM LogDirective.parse).map ofDirectives

/-- Reads a directive, or nothing if it is malformed. -/
def directive? (text : String) : Except DirectiveFault (Option LogDirective) :=
  match LogDirective.parse text with
  | .ok directive => .ok (some directive)
  | .error .malformed => .ok none
  | .error .splitCharacter => .error .splitCharacter

/-- Reads a filter and leaves out what is no directive. -/
def parseLeniently (text : String) : Except DirectiveFault LogFilter :=
  ((parts text.toList).filterMapM directive?).map ofDirectives

/-- The filter shows messages of the given level from the given source with the given fields. -/
def shows (filter : LogFilter) (source : String) (fields : List String) (level : LogLevel) :
    Bool :=
  -- A later directive wins against an earlier one that asks for as much.
  let best := (filter.filter fun d => d.covers source fields).foldl
    (fun best d =>
      match best with
      | none => some d
      | some b => if b.asksLess d then some d else some b)
    (none : Option LogDirective)
  match best.bind LogDirective.level with
  | some shown => level.rank ≤ shown.rank
  | none => false

end LogFilter

/-- The text of the filter that follows from the configuration and from the environment: debugging
comes first, then a level from the environment unless it is blank, then the configured level. -/
def Config.logLevelText (c : Config) (fromEnvironment : Option String) : String :=
  if c.debug then "debug"
  else match fromEnvironment.filter fun text => Text.trim text != "" with
    | some text => text
    | none => c.level.name

/-- The filter for log messages. One that is given whole comes before all else, unless it is
malformed. -/
def Config.logFilter (c : Config) (whole levelText : Option String) :
    Except DirectiveFault LogFilter :=
  let usual := LogFilter.parseLeniently (c.logLevelText levelText)
  match whole.map LogFilter.parse with
  | some (.ok filter) => .ok filter
  | some (.error .splitCharacter) => .error .splitCharacter
  | some (.error .malformed) | none => usual

end Telemetry
