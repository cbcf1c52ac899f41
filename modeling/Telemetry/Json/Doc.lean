import Telemetry.Double.Text

/-!
# Documents and their canonical text

A `Doc` is a JSON document as this program writes one. Values that JSON cannot carry exactly are
tagged objects such as `{"_int":"5"}`. Member names that come from outside and start with an
underscore get one more underscore, so they never look like a tag. Members are written in the
given order and nothing is written between tokens, so a document has exactly one text.
-/

namespace Telemetry

/-- A JSON document to be written. -/
inductive Doc where
  | bool (b : Bool)
  | double (x : Double)
  | string (s : String)
  /-- An object whose member names are tags and whose values are texts that need no escaping. -/
  | tagged (parts : List (String × String))
  | array (items : List Doc)
  /-- An object whose member names are escaped. -/
  | map (members : List (String × Doc))

namespace Doc

instance : Inhabited Doc := ⟨.bool false⟩

/-- An object of one tag. -/
def envelope (tag body : String) : Doc :=
  .tagged [(tag, body)]

/-- A member that is written only if `present` holds. -/
def memberIf (present : Bool) (name : String) (doc : Doc) : List (String × Doc) :=
  if present then [(name, doc)] else []

/-- A member that is written only if there is a value for it. -/
def member? {α : Type} (name : String) (toDoc : α → Doc) : Option α → List (String × Doc)
  | none => []
  | some a => [(name, toDoc a)]

/-- The name under which a member is written: one underscore more if it starts with one. -/
def escapedName (name : List Char) : List Char :=
  match name with
  | '_' :: _ => '_' :: name
  | _ => name

/-- The text of one character inside a string literal. -/
def escapedChar (c : Char) : List Char :=
  if c = '"' then ['\\', '"']
  else if c = '\\' then ['\\', '\\']
  else if c = '\r' then ['\\', 'r']
  else if c = '\n' then ['\\', 'n']
  else if c = '\t' then ['\\', 't']
  else if c.toNat < 0x20 then
    ['\\', 'u', '0', '0', (c.toNat / 16).digitChar, (c.toNat % 16).digitChar]
  else [c]

/-- A string literal. -/
def literal (s : List Char) : List Char :=
  '"' :: s.flatMap escapedChar ++ ['"']

/-- A string literal whose content is written as it is. -/
def verbatim (s : String) : List Char :=
  '"' :: s.toList ++ ['"']

/-- A double: a number if it is finite, and the name of what it is otherwise. -/
def doubleText (x : Double) : List Char :=
  if x.isNaN then verbatim "NaN"
  else if x.isInfinite then verbatim (if x.isNegative then "-Inf" else "+Inf")
  else x.finiteText

/-- Texts with commas between them. -/
def withCommas : List (List Char) → List Char
  | [] => []
  | [a] => a
  | a :: more => a ++ ',' :: withCommas more

/-- The canonical text of a member. -/
def memberText (name value : List Char) : List Char :=
  name ++ ':' :: value

/-- The text of an object with the given members. -/
def objectText (members : List (List Char)) : List Char :=
  '\x7b' :: withCommas members ++ ['\x7d']

mutual

/-- The canonical text of a document. -/
def text : Doc → List Char
  | .bool true => ['t', 'r', 'u', 'e']
  | .bool false => ['f', 'a', 'l', 's', 'e']
  | .double x => doubleText x
  | .string s => literal s.toList
  | .tagged parts => objectText (parts.map fun (tag, body) => memberText (verbatim tag) (verbatim body))
  | .array items => '[' :: withCommas (itemTexts items) ++ [']']
  | .map members => objectText (memberTexts members)

/-- The canonical texts of the items of an array. -/
def itemTexts : List Doc → List (List Char)
  | [] => []
  | item :: more => text item :: itemTexts more

/-- The canonical texts of the members of an object. -/
def memberTexts : List (String × Doc) → List (List Char)
  | [] => []
  | (name, doc) :: more =>
    memberText (literal (escapedName name.toList)) (text doc) :: memberTexts more

end

/-- The canonical text of a document as a string. -/
def render (doc : Doc) : String :=
  String.ofList doc.text

end Doc

end Telemetry
