import Telemetry.Bytes

/-!
# Hexadecimal text

Identifiers and byte values are shown in lower-case hexadecimal and read in either case. A word
is shown in a fixed number of digits, so that the order of words is the order of their texts.
`Hex.number?_word` and `Hex.toBytes?_ofBytes` say that what is shown is read back.
-/

namespace Telemetry.Hex

/-- The lower-case hexadecimal digit of a number below sixteen. -/
def digit (n : Nat) : Char :=
  n.digitChar

/-- The value of a hexadecimal digit of either case. -/
def value? (c : Char) : Option Nat :=
  if '0' ≤ c ∧ c ≤ '9' then some (c.toNat - '0'.toNat)
  else if 'a' ≤ c ∧ c ≤ 'f' then some (c.toNat - 'a'.toNat + 10)
  else if 'A' ≤ c ∧ c ≤ 'F' then some (c.toNat - 'A'.toNat + 10)
  else none

/-- The number of values that `width` digits take. -/
def capacity : Nat → Nat
  | 0 => 1
  | width + 1 => 16 * capacity width

/-- The `width` lowest hexadecimal digits of `n`, the most significant one first. -/
def word : Nat → Nat → List Char
  | 0, _ => []
  | width + 1, n => digit (n / capacity width % 16) :: word width n

/-- The number that a run of hexadecimal digits denotes. -/
def number? (digits : List Char) : Option Nat :=
  digits.foldlM (fun n c => (value? c).map (16 * n + ·)) 0

/-- Two digits for every byte. -/
def ofBytes (bytes : Bytes) : List Char :=
  bytes.flatMap fun b => word 2 b.toNat

/-- The bytes that a run of digit pairs denotes. -/
def toBytes? : List Char → Option Bytes
  | [] => some []
  | [_] => none
  | hi :: lo :: rest =>
    match value? hi, value? lo, toBytes? rest with
    | some h, some l, some bytes => some (UInt8.ofNat (16 * h + l) :: bytes)
    | _, _, _ => none

@[simp] theorem length_word (width n : Nat) : (word width n).length = width := by
  induction width with
  | zero => rfl
  | succ width ih => simp [word, ih]

theorem value?_digit {n : Nat} (h : n < 16) : value? (digit n) = some n := by
  have all : ∀ k < 16, value? (digit k) = some k := by decide
  exact all n h

/-- What was read before counts sixteen times as much for every digit that follows. -/
theorem foldlM_word (width n before : Nat) :
    (word width n).foldlM (fun n c => (value? c).map (16 * n + ·)) before =
      some (before * capacity width + n % capacity width) := by
  induction width generalizing before with
  | zero => simp [word, capacity, Nat.mod_one]
  | succ width ih =>
    have digit : value? (digit (n / capacity width % 16)) = some (n / capacity width % 16) :=
      value?_digit (Nat.mod_lt _ (by decide))
    rw [word, List.foldlM_cons, digit]
    show (word width n).foldlM _ (16 * before + n / capacity width % 16) = _
    rw [ih, capacity, Nat.mul_comm 16 (capacity width), Nat.mod_mul, Nat.add_mul,
      Nat.mul_comm 16 before, Nat.mul_assoc, Nat.mul_comm 16, Nat.add_assoc,
      Nat.mul_comm (n / capacity width % 16), Nat.add_comm (n % capacity width)]

/-- **A number is read back from its digits**, up to what the width holds. -/
theorem number?_word (width n : Nat) : number? (word width n) = some (n % capacity width) := by
  rw [number?, foldlM_word, Nat.zero_mul, Nat.zero_add]

/-- **Bytes are read back from their digits.** -/
theorem toBytes?_ofBytes (bytes : Bytes) : toBytes? (ofBytes bytes) = some bytes := by
  induction bytes with
  | nil => rfl
  | cons b rest ih =>
    have high : value? (digit (b.toNat / 16 % 16)) = some (b.toNat / 16 % 16) :=
      value?_digit (Nat.mod_lt _ (by decide))
    have low : value? (digit (b.toNat / 1 % 16)) = some (b.toNat / 1 % 16) :=
      value?_digit (Nat.mod_lt _ (by decide))
    have bound := b.toNat_lt
    have whole : 16 * (b.toNat / 16 % 16) + b.toNat / 1 % 16 = b.toNat := by omega
    show toBytes? (digit (b.toNat / 16 % 16) :: digit (b.toNat / 1 % 16) :: ofBytes rest) = _
    rw [toBytes?, high, low, ih]
    simp only [whole, UInt8.ofNat_toNat]

end Telemetry.Hex
