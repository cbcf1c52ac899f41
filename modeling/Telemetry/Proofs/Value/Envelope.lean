import Telemetry.Proofs.Numeral
import Telemetry.Proofs.Value.Alike
import Telemetry.Value.Json

/-!
# Values under a tag are read back

Integers, timestamps, flags and byte strings are written as the text under a tag.  These texts need
no escapes (`hasPlainTags_int` and the like), and `Value.untagged?` finds the values in them again
(`untagged?_int` and the like).  Signed and unsigned integers share a tag, so an unsigned one that
is also a signed one is read back as signed.
-/

namespace Telemetry

/-! ### Numbers as texts -/

namespace Numeral

/-- The integer that decimal digits denote, in front of which a minus sign may stand. -/
def int? : List Char → Option Int
  | '-' :: digits => (number? digits).map fun (n : Nat) => -(n : Int)
  | digits => (number? digits).map Int.ofNat

theorem int?_of_isDigit {digits : List Char} (h : ∀ c ∈ digits, c.isDigit) :
    int? digits = (number? digits).map Int.ofNat := by
  unfold int?
  split
  · exact absurd (h '-' List.mem_cons_self) (by decide)
  · rfl

theorem int?_toDigits (n : Nat) : int? (Nat.toDigits 10 n) = some (n : Int) := by
  rw [int?_of_isDigit fun c => isDigit_of_mem_toDigits, number?_toDigits]
  rfl

/-- **An integer is read back from its text.** -/
theorem int?_toString (n : Int) : int? (toString n).toList = some n := by
  rw [toList_toString_int]
  split
  · rename_i hnonneg
    rw [int?_toDigits, Int.toNat_of_nonneg hnonneg]
  · rename_i hneg
    rw [int?, number?_toDigits, Option.map_some, Int.toNat_of_nonneg (by omega), Int.neg_neg]

end Numeral

namespace Hex

/-- **A number is read back from its hexadecimal digits.** -/
theorem number?_toDigits (n : Nat) : number? (Nat.toDigits 16 n) = some n := by
  induction n using Nat.strong_induction_on with
  | h n ih =>
    by_cases hlt : n < 16
    · rw [Nat.toDigits_of_lt_base hlt, number?, List.foldlM_cons]
      change (value? (digit n)).map _ >>= _ = _
      rw [value?_digit hlt]
      simp
    · have hbefore := ih (n / 16) (by omega)
      rw [number?] at hbefore ⊢
      rw [Nat.toDigits_of_base_le (by decide) (by omega), List.foldlM_append, hbefore]
      change ((value? (digit (n % 16))).map _ >>= _) = _
      rw [value?_digit (Nat.mod_lt _ (by decide))]
      simp [Nat.div_add_mod]

theorem exists_digit_of_mem_toDigits {n : Nat} {c : Char} (h : c ∈ Nat.toDigits 16 n) :
    ∃ k < 16, c = digit k := by
  induction n using Nat.strong_induction_on with
  | h n ih =>
    by_cases hlt : n < 16
    · rw [Nat.toDigits_of_lt_base hlt, List.mem_singleton] at h
      exact ⟨n, hlt, h⟩
    · rw [Nat.toDigits_of_base_le (by decide) (by omega), List.mem_append, List.mem_singleton] at h
      rcases h with h | h
      · exact ih (n / 16) (by omega) h
      · exact ⟨n % 16, Nat.mod_lt _ (by decide), h⟩

theorem exists_digit_of_mem_word {width n : Nat} {c : Char} (h : c ∈ word width n) :
    ∃ k < 16, c = digit k := by
  induction width with
  | zero => cases h
  | succ width ih =>
    rcases List.mem_cons.mp h with h | h
    · exact ⟨_, Nat.mod_lt _ (by decide), h⟩
    · exact ih h

end Hex

/-! ### Texts that need no escapes -/

namespace Doc

theorem isPlain_ofList {s : List Char}
    (h : ∀ c ∈ s, c ≠ '"' ∧ c ≠ '\\' ∧ 0x20 ≤ c.toNat) : IsPlain (String.ofList s) := by
  rw [IsPlain, String.toList_ofList]
  exact h

theorem plain_of_isDigit {c : Char} (h : c.isDigit) : c ≠ '"' ∧ c ≠ '\\' ∧ 0x20 ≤ c.toNat := by
  refine ⟨?_, ?_, ?_⟩
  · rintro rfl
    cases h
  · rintro rfl
    cases h
  · simp only [Char.isDigit, Bool.and_eq_true, decide_eq_true_eq] at h
    exact le_trans (by decide) h.1

theorem plain_digit {k : Nat} (h : k < 16) :
    Hex.digit k ≠ '"' ∧ Hex.digit k ≠ '\\' ∧ 0x20 ≤ (Hex.digit k).toNat := by
  have hall : ∀ k < 16,
      Hex.digit k ≠ '"' ∧ Hex.digit k ≠ '\\' ∧ 0x20 ≤ (Hex.digit k).toNat := by decide
  exact hall k h

theorem isPlain_toString_int (n : Int) : IsPlain (toString n) := by
  intro c hc
  rcases Numeral.of_mem_toString_int hc with rfl | hdigit
  · decide
  · exact plain_of_isDigit hdigit

theorem isPlain_toString_nat (n : Nat) : IsPlain (toString n) :=
  isPlain_toString_int n

/-- An envelope has plain tags if its tag and its body are plain. -/
theorem hasPlainTags_envelope {tag body : String} (htag : IsPlain tag) (hbody : IsPlain body) :
    (envelope tag body).HasPlainTags := by
  intro part hpart
  obtain rfl := List.mem_singleton.mp hpart
  exact ⟨htag, hbody⟩

theorem hasPlainTags_int (n : Int64) : (Doc.int n).HasPlainTags :=
  hasPlainTags_envelope (by decide) (isPlain_toString_int n.toInt)

theorem hasPlainTags_uint (n : UInt64) : (Doc.uint n).HasPlainTags :=
  hasPlainTags_envelope (by decide) (isPlain_toString_nat n.toNat)

theorem hasPlainTags_timestamp (t : UInt64) : (Doc.timestamp t).HasPlainTags :=
  hasPlainTags_envelope (by decide) (isPlain_toString_nat t.toNat)

theorem hasPlainTags_flags (f : UInt32) : (Doc.flags f).HasPlainTags := by
  refine hasPlainTags_envelope (by decide) (isPlain_ofList fun c hc => ?_)
  obtain ⟨k, hk, rfl⟩ := Hex.exists_digit_of_mem_toDigits hc
  exact plain_digit hk

theorem hasPlainTags_bytes (b : Bytes) : (Doc.bytes b).HasPlainTags := by
  refine hasPlainTags_envelope (by decide) (isPlain_ofList fun c hc => ?_)
  obtain ⟨byte, -, hbyte⟩ := List.mem_flatMap.mp hc
  obtain ⟨k, hk, rfl⟩ := Hex.exists_digit_of_mem_word hbyte
  exact plain_digit hk

end Doc

/-! ### What stands under a tag -/

namespace Value

/-- The value that an integer is read as: a signed one wherever that is possible. -/
def ofInt? (n : Int) : Option Value :=
  if -2 ^ 63 ≤ n ∧ n < 2 ^ 63 then some (.int (.ofInt n))
  else if 0 ≤ n ∧ n < UInt64.size then some (.uint (.ofNat n.toNat))
  else none

/-- The value that a tag and the text under it stand for. -/
def untagged? (tag : String) (body : List Char) : Option Value :=
  if tag = "_int" then (Numeral.int? body).bind ofInt?
  else if tag = "_ts" then
    (Numeral.number? body).bind fun t =>
      if t < UInt64.size then some (.timestamp (.ofNat t)) else none
  else if tag = "_flg" then
    (Hex.number? body).bind fun f =>
      if f < UInt32.size then some (.flags (.ofNat f)) else none
  else if tag = "_byt" then (Hex.toBytes? body).map .bytes
  else none

theorem ofInt?_toInt (n : Int64) : ofInt? n.toInt = some (.int n) := by
  rw [ofInt?, if_pos ⟨n.le_toInt, n.toInt_lt⟩, Int64.ofInt_toInt]

theorem ofInt?_toNat (n : UInt64) : ofInt? n.toNat = some (ofUInt n) := by
  have hlt := n.toNat_lt
  have hsize : UInt64.size = 2 ^ 64 := rfl
  unfold ofInt? ofUInt
  by_cases h : n.toNat < 2 ^ 63
  · rw [if_pos (by omega), if_pos h]
  · rw [if_neg (by omega), if_pos (by omega), if_neg h, Int.toNat_natCast, UInt64.ofNat_toNat]

theorem untagged?_int (n : Int64) :
    untagged? "_int" (toString n.toInt).toList = some (.int n) := by
  rw [untagged?, if_pos rfl, Numeral.int?_toString, Option.bind_some, ofInt?_toInt]

theorem untagged?_uint (n : UInt64) :
    untagged? "_int" (toString n.toNat).toList = some (ofUInt n) := by
  have htext : toString n.toNat = toString (n.toNat : Int) := rfl
  rw [untagged?, if_pos rfl, htext, Numeral.int?_toString, Option.bind_some, ofInt?_toNat]

theorem untagged?_timestamp (t : UInt64) :
    untagged? "_ts" (toString t.toNat).toList = some (.timestamp t) := by
  rw [untagged?, if_neg (by decide), if_pos rfl, Nat.toString_eq_repr, Nat.toList_repr,
    Numeral.number?_toDigits, Option.bind_some, if_pos t.toNat_lt, UInt64.ofNat_toNat]

theorem untagged?_flags (f : UInt32) :
    untagged? "_flg" (Nat.toDigits 16 f.toNat) = some (.flags f) := by
  rw [untagged?, if_neg (by decide), if_neg (by decide), if_pos rfl, Hex.number?_toDigits,
    Option.bind_some, if_pos f.toNat_lt, UInt32.ofNat_toNat]

theorem untagged?_bytes (b : Bytes) : untagged? "_byt" (Hex.ofBytes b) = some (.bytes b) := by
  rw [untagged?, if_neg (by decide), if_neg (by decide), if_neg (by decide), if_pos rfl,
    Hex.toBytes?_ofBytes, Option.map_some]

end Value

end Telemetry
