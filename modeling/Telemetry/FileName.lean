import Telemetry.Bytes
import Telemetry.Text.Visible

/-!
# File names

A file is named by a path, whose parts between slashes are the names of directories and at last
of the file. Names are limited in length, and none has a zero character. In messages a path stands
in quotes, with every character that shows nothing written as its number.
-/

namespace Telemetry

/-- Why a file cannot be read. -/
inductive ReadFault where
  | notFound
  | isDirectory
  /-- The path, or a name in it, is longer than names may be. -/
  | nameTooLong
  /-- The path has a zero character. -/
  | zeroCharacter
  | other (message : String)
  deriving DecidableEq, Repr

/-- The text of a fault. -/
def ReadFault.message : ReadFault → String
  | .notFound => "No such file or directory (os error 2)"
  | .isDirectory => "Is a directory (os error 21)"
  | .nameTooLong => "File name too long (os error 36)"
  | .zeroCharacter => "file name contained an unexpected NUL byte"
  | .other message => message

namespace FileName

/-- The most bytes that one name has. -/
def nameLimit : Nat := 255

/-- The most bytes that a path has. -/
def pathLimit : Nat := 4095

/-- The parts of a text between slashes. -/
def parts : List Char → List (List Char)
  | [] => [[]]
  | c :: rest =>
    if c = '/' then [] :: parts rest
    else match parts rest with
      | part :: more => (c :: part) :: more
      | [] => [[c]]

/-- The number of bytes of a part. -/
def size (part : List Char) : Nat :=
  (Text.utf8 (String.ofList part)).length

/-- A part that stays in the directory or leads out of it. -/
def isStep (part : List Char) : Bool :=
  part == [] || part == ['.'] || part == ['.', '.']

/-- The names of a path, without the steps between them. -/
def names (path : List Char) : List (List Char) :=
  (parts path).filter fun part => !isStep part

/-- What is wrong with a path itself. A name that is too long is found when it is looked up, so
only the first one is sure to be. -/
def fault? (path : List Char) : Option ReadFault :=
  if path.contains '\x00' then some .zeroCharacter
  else if pathLimit < size path || (names path).head?.any fun name => nameLimit < size name then
    some .nameTooLong
  else none

/-! ### Quoting -/

/-- The text of a character in a quoted path. -/
def quotedChar (c : Char) : List Char :=
  match c with
  | '"' => ['\\', '"']
  | '\\' => ['\\', '\\']
  | '\x00' => ['\\', '0']
  | '\t' => ['\\', 't']
  | '\n' => ['\\', 'n']
  | '\r' => ['\\', 'r']
  | c =>
    if Text.isVisible c then [c]
    else ['\\', 'u', '\x7b'] ++ Nat.toDigits 16 c.toNat ++ ['\x7d']

/-- A path in quotes. -/
def quoted (path : List Char) : String :=
  String.ofList ('"' :: path.flatMap quotedChar ++ ['"'])

end FileName

end Telemetry
