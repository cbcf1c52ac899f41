/-!
# Display names of enumerated numbers

Numbers that the protocol gives a meaning are shown by name and all others in decimal. No name is
a decimal text, so the text tells which number was sent.
-/

namespace Telemetry.Otlp

/-- The name at a number, or its decimal text where `names` has none. -/
def nameAmong (names : List String) (number : Int32) : String :=
  let n := number.toInt
  match if 0 ≤ n then names[n.toNat]? else none with
  | some name => name
  | none => toString n

/-- The status codes of spans; an unset status has the empty name. -/
def statusNames : List String := ["", "Ok", "Error"]

/-- The kinds of spans. -/
def kindNames : List String :=
  ["Unspecified", "Internal", "Server", "Client", "Producer", "Consumer"]

/-- The severities of log records; an unspecified severity has the empty name. -/
def severityNames : List String :=
  ["", "Trace", "Trace2", "Trace3", "Trace4", "Debug", "Debug2", "Debug3", "Debug4", "Info",
    "Info2", "Info3", "Info4", "Warn", "Warn2", "Warn3", "Warn4", "Error", "Error2", "Error3",
    "Error4", "Fatal", "Fatal2", "Fatal3", "Fatal4"]

/-- The aggregation temporalities of sums and histograms. -/
def temporalityNames : List String := ["Unspecified", "Delta", "Cumulative"]

/-- The name of a status code. -/
def statusName (code : Int32) : String := nameAmong statusNames code

/-- The name of a span kind. -/
def kindName (kind : Int32) : String := nameAmong kindNames kind

/-- The name of a severity. -/
def severityName (number : Int32) : String := nameAmong severityNames number

/-- The name of an aggregation temporality. -/
def temporalityName (value : Int32) : String := nameAmong temporalityNames value

end Telemetry.Otlp
