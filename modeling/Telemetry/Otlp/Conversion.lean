import Telemetry.Otlp.Message
import Telemetry.Value.Basic

/-!
# From protocol values to canonical values

A value without content has no canonical form: it is dropped from arrays, and a key whose value is
missing or has no content is dropped from attribute maps before repeated keys are looked at.
-/

namespace Telemetry.Otlp

mutual

/-- The canonical form of a value, if it has content. -/
def AnyValue.toValue? : AnyValue → Option Value
  | .empty => none
  | .string s => some (.string s)
  | .bool b => some (.bool b)
  | .int n => some (.int n)
  | .double x => some (.double x)
  | .array values => some (.array (AnyValue.toItems values))
  | .keyValues entries => some (.map (Attributes.ofPairs (KeyValue.toPairs entries)))
  | .bytes b => some (.bytes b)

/-- The canonical forms of those values that have content. -/
def AnyValue.toItems : List AnyValue → List Value
  | [] => []
  | v :: vs =>
    match AnyValue.toValue? v with
    | some item => item :: AnyValue.toItems vs
    | none => AnyValue.toItems vs

/-- The keys with content, each with the canonical form of its value. -/
def KeyValue.toPairs : List KeyValue → List (String × Value)
  | [] => []
  | .bare _ :: rest => KeyValue.toPairs rest
  | .entry key v :: rest =>
    match AnyValue.toValue? v with
    | some value => (key, value) :: KeyValue.toPairs rest
    | none => KeyValue.toPairs rest

end

/-- The attribute map that a list of keys and values stands for. -/
def KeyValue.toAttributes (entries : List KeyValue) : Attributes :=
  .ofPairs (KeyValue.toPairs entries)

@[simp] theorem KeyValue.toAttributes_nil : KeyValue.toAttributes [] = [] := by
  simp [toAttributes, toPairs, Attributes.ofPairs, Attributes.dropRepeats]

/-- The canonical value of a measured number. -/
def Number.toValue : Number → Value
  | .int n => .int n
  | .double x => .double x

end Telemetry.Otlp
