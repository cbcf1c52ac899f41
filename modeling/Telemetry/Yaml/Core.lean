import Telemetry.Yaml.Node

/-!
# Values of scalars

The core schema of YAML 1.2 says which plain scalars are numbers, truth values and nulls. A number
is decimal without leading zeros, or has a mark for base 16, 8 or 2 in front. Texts are read from
scalars of any style.
-/

namespace Telemetry.Yaml

/-- A scalar that is read by its tag rather than as text: a plain one, or a literal block that has
the given tag. -/
def isPlainOrTagged (wanted : String) (tag : Bytes) (style : ScalarStyle) : Bool :=
  style == .plain || (style == .literal && tag == Text.utf8 wanted)

/-- The value of a digit below `base`. -/
def digit? (base : Nat) (c : Char) : Option Nat :=
  (Hex.value? c).filter (· < base)

/-- The number that digits of a base denote. -/
def digits? (base : Nat) (digits : List Char) : Option Nat :=
  if digits.isEmpty then none
  else digits.foldlM (fun n c => (digit? base c).map (base * n + ·)) 0

/-- Reads digits without a mark in front. More than one digit may not start with a zero. -/
def decimal? (digits : List Char) : Option Nat :=
  match digits with
  | '0' :: _ :: _ => none
  | _ => digits? 10 digits

/-- Reads a number that is not negative. A plus sign may stand in front. -/
def natural? (text : List Char) : Option Nat :=
  let unsigned := match text with
    | '+' :: rest => rest
    | _ => text
  match unsigned with
  | '0' :: 'x' :: digits => digits? 16 digits
  | '0' :: 'o' :: digits => digits? 8 digits
  | '0' :: 'b' :: digits => digits? 2 digits
  | digits => decimal? digits

/-- Reads a truth value. -/
def bool? (text : String) : Option Bool :=
  if ["true", "True", "TRUE"].contains text then some true
  else if ["false", "False", "FALSE"].contains text then some false
  else none

/-- The text stands for nothing. -/
def isNull (text : String) : Bool :=
  ["", "~", "null", "Null", "NULL"].contains text

namespace Document

/-- The text of a scalar. -/
def text? (d : Document) (node : Node) : Option String :=
  match d.resolve node with
  | .scalar _ _ text => some text
  | _ => none

/-- A number that is not negative. -/
def nat? (d : Document) (node : Node) : Option Nat :=
  match d.resolve node with
  | .scalar tag style text =>
    if isPlainOrTagged "tag:yaml.org,2002:int" tag style then natural? text.toList else none
  | _ => none

/-- A truth value. -/
def flag? (d : Document) (node : Node) : Option Bool :=
  match d.resolve node with
  | .scalar tag style text =>
    if isPlainOrTagged "tag:yaml.org,2002:bool" tag style then bool? text else none
  | _ => none

/-- The name of one of several choices: the text of a scalar, or the name that a tag of the
document gives to a scalar that stands for nothing. A tag that is no text gives no name. -/
def choice? (d : Document) (node : Node) : Option String :=
  match d.resolve node with
  | .scalar tag style text =>
    match tag.text?.map String.toList with
    | some ('!' :: c :: name) =>
      if style == .plain && isNull text then some (String.ofList (c :: name)) else none
    | some ['!'] => none
    | _ => some text
  | _ => none

/-- The entries of a mapping by the texts of their keys. A blank stands for an empty mapping. -/
def entries? (d : Document) (node : Node) : Option (List (String × Node)) :=
  match d.resolve node with
  | .mapping entries => entries.mapM fun (key, value) => (d.text? key).map fun key => (key, value)
  | .scalar _ style text => if style == .plain && text == "" then some [] else none
  | _ => none

/-- The entries of a mapping whose keys are among the given names, if none of these is given
twice. -/
def fields? (d : Document) (names : List String) (node : Node) : Option (List (String × Node)) := do
  let given := (← d.entries? node).filter fun (name, _) => names.contains name
  if (given.map Prod.fst).Nodup then some given else none

end Document

end Telemetry.Yaml
