/-!
# Byte strings

Byte strings are lists of bytes. This module fixes how words and texts become bytes: a word is
written most significant byte first in a given width, a text as UTF-8. Texts are compared by
their bytes, which is the order every key of an attribute map is kept in.
-/

namespace Telemetry

/-- A byte string. -/
abbrev Bytes := List UInt8

namespace Bytes

/-- The number of values that `width` bytes take. -/
def capacity : Nat → Nat
  | 0 => 1
  | width + 1 => 256 * capacity width

/-- The `width` lowest base-256 digits of `n`, the most significant one first. -/
def bigEndian : Nat → Nat → Bytes
  | 0, _ => []
  | width + 1, n => UInt8.ofNat (n / capacity width) :: bigEndian width n

/-- The number whose base-256 digits are `bytes`, the most significant one first. -/
def toNat (bytes : Bytes) : Nat :=
  bytes.foldl (fun n b => 256 * n + b.toNat) 0

/-- The number whose base-256 digits are `bytes`, the least significant one first. -/
def toNatReversed (bytes : Bytes) : Nat :=
  toNat bytes.reverse

/-- The text that `bytes` encode, if they are valid UTF-8. -/
def text? (bytes : Bytes) : Option String :=
  String.fromUTF8? ⟨bytes.toArray⟩

theorem capacity_pos (width : Nat) : 0 < capacity width := by
  induction width with
  | zero => decide
  | succ width ih => exact Nat.mul_pos (by decide) ih

@[simp] theorem length_bigEndian (width n : Nat) : (bigEndian width n).length = width := by
  induction width with
  | zero => rfl
  | succ width ih => simp [bigEndian, ih]

/-- What was read before counts 256 times as much for every byte that follows. -/
theorem foldl_eq (n : Nat) (bytes : Bytes) :
    bytes.foldl (fun n b => 256 * n + b.toNat) n = n * capacity bytes.length + toNat bytes := by
  induction bytes generalizing n with
  | nil => simp [toNat, capacity]
  | cons b rest ih =>
    have first := ih (256 * 0 + b.toNat)
    rw [toNat, List.foldl_cons, List.foldl_cons, ih, first, List.length_cons, capacity]
    rw [Nat.mul_zero, Nat.zero_add, Nat.add_mul, Nat.mul_left_comm n, Nat.mul_assoc, Nat.add_assoc]

theorem toNat_cons (b : UInt8) (bytes : Bytes) :
    toNat (b :: bytes) = b.toNat * capacity bytes.length + toNat bytes := by
  have split := foldl_eq (256 * 0 + b.toNat) bytes
  rw [Nat.mul_zero, Nat.zero_add] at split
  rw [← split, toNat, List.foldl_cons, Nat.mul_zero, Nat.zero_add]

/-- **A number is read back from its bytes**, up to what the width holds. -/
theorem toNat_bigEndian (width n : Nat) : toNat (bigEndian width n) = n % capacity width := by
  induction width with
  | zero => simp [bigEndian, toNat, capacity, Nat.mod_one]
  | succ width ih =>
    have digit : (UInt8.ofNat (n / capacity width)).toNat = n / capacity width % 256 := by simp
    rw [bigEndian, toNat_cons, ih, length_bigEndian, digit, capacity, Nat.mul_comm 256, Nat.mod_mul]
    rw [Nat.mul_comm, Nat.add_comm]

end Bytes

namespace Text

/-- The UTF-8 bytes of a text. -/
def utf8 (s : String) : Bytes :=
  s.toByteArray.data.toList

/-- Texts are ordered by their bytes. -/
def compareBytes (s t : String) : Ordering :=
  compare (utf8 s) (utf8 t)

/-- **The bytes of a text determine it.** -/
theorem utf8_injective {s t : String} (h : utf8 s = utf8 t) : s = t := by
  have data : s.toByteArray.data = t.toByteArray.data := Array.toList_inj.mp h
  have bytes : s.toByteArray = t.toByteArray := by
    cases hs : s.toByteArray
    cases ht : t.toByteArray
    simp_all
  exact String.toByteArray_inj.mp bytes

instance : Std.TransCmp compareBytes where
  eq_swap {a b} :=
    show compare (utf8 a) (utf8 b) = (compare (utf8 b) (utf8 a)).swap from Std.OrientedCmp.eq_swap
  isLE_trans {a _ c} h₁ h₂ :=
    show (compare (utf8 a) (utf8 c)).isLE from @Std.TransCmp.isLE_trans _ compare _ _ _ _ h₁ h₂

instance : Std.LawfulEqCmp compareBytes where
  compare_self {a} := show compare (utf8 a) (utf8 a) = .eq from Std.ReflCmp.compare_self
  eq_of_compare {_ _} h := utf8_injective (@Std.LawfulEqCmp.eq_of_compare _ compare _ _ _ h)

/-- Letters `A` to `Z` become lower-case and every other character stays. -/
def asciiLower (s : String) : String :=
  String.ofList (s.toList.map Char.toLower)

/-- White space of Unicode: the characters that are cut from both ends of a header value. -/
def isBlank (c : Char) : Bool :=
  let n := c.toNat
  (9 ≤ n && n ≤ 13) || n == 0x20 || n == 0x85 || n == 0xA0 || n == 0x1680 ||
    (0x2000 ≤ n && n ≤ 0x200A) || n == 0x2028 || n == 0x2029 || n == 0x202F || n == 0x205F ||
    n == 0x3000

/-- The text without the white space at both of its ends. -/
def trim (s : String) : String :=
  let front := s.toList.dropWhile isBlank
  String.ofList (front.reverse.dropWhile isBlank).reverse

/-- Texts that agree up to the case of the letters `A` to `Z`. -/
def sameIgnoringCase (s t : String) : Bool :=
  asciiLower s == asciiLower t

end Text

end Telemetry
