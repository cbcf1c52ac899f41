import Telemetry.Proofs.Json.Names

/-!
# Ids are read in either case

A text with as many hexadecimal digits as an id is shown with, in either case, is the text of an id,
and the id is shown as the same digits in lower case (`Id.exists_parse`).
-/

namespace Telemetry

namespace Hex

/-- A hexadecimal digit of either case. -/
def IsDigitOfEitherCase (c : Char) : Prop :=
  c ∈ "0123456789abcdefABCDEF".toList

instance : DecidablePred IsDigitOfEitherCase :=
  fun c => List.instDecidableMemOfLawfulBEq c "0123456789abcdefABCDEF".toList

/-- The text has no characters but hexadecimal digits of either case. -/
def IsTextOfEitherCase (text : String) : Prop :=
  ∀ c ∈ text.toList, IsDigitOfEitherCase c

instance (text : String) : Decidable (IsTextOfEitherCase text) :=
  List.decidableBAll IsDigitOfEitherCase text.toList

/-- A digit has a value below sixteen, and is shown as its lower-case form. -/
theorem exists_value? {c : Char} (h : IsDigitOfEitherCase c) :
    ∃ k, k < 16 ∧ value? c = some k ∧ digit k = c.toLower := by
  simp only [IsDigitOfEitherCase, String.reduceToList, List.mem_cons, List.not_mem_nil,
    or_false] at h
  rcases h with rfl | rfl | rfl | rfl | rfl | rfl | rfl | rfl | rfl | rfl | rfl | rfl | rfl | rfl |
    rfl | rfl | rfl | rfl | rfl | rfl | rfl | rfl <;>
  exact ⟨_, by decide, rfl, rfl⟩

theorem capacity_pos (width : Nat) : 0 < capacity width := by
  induction width with
  | zero => decide
  | succ width ih => exact Nat.mul_pos (by decide) ih

/-- Only the last digits of a number are in a word. -/
theorem word_add_mul (width k n : Nat) : word width (n + k * capacity width) = word width n := by
  induction width generalizing k with
  | zero => rfl
  | succ width ih =>
    have hsplit : n + k * capacity (width + 1) = n + k * 16 * capacity width := by
      rw [capacity, Nat.mul_assoc]
    rw [hsplit, word, word, ih (k * 16), Nat.add_mul_div_right _ _ (capacity_pos width),
      Nat.add_mul_mod_self_right]

/-- Digits of either case behind a number that was read before. -/
theorem exists_foldlM {text : List Char} (h : ∀ c ∈ text, IsDigitOfEitherCase c) (before : Nat) :
    ∃ n, n < capacity text.length ∧
      text.foldlM (fun n c => (value? c).map (16 * n + ·)) before =
        some (n + before * capacity text.length) ∧
      word text.length n = text.map Char.toLower := by
  induction text generalizing before with
  | nil => exact ⟨0, by decide, by simp [capacity], rfl⟩
  | cons c text ih =>
    obtain ⟨k, hk, hvalue, hdigit⟩ := exists_value? (h c List.mem_cons_self)
    obtain ⟨n, hn, hfold, hword⟩ :=
      ih (fun x hx => h x (List.mem_cons_of_mem c hx)) (16 * before + k)
    have hfirst : (n + k * capacity text.length) / capacity text.length % 16 = k := by
      rw [Nat.add_mul_div_right _ _ (capacity_pos _), Nat.div_eq_of_lt hn, Nat.zero_add,
        Nat.mod_eq_of_lt hk]
    refine ⟨n + k * capacity text.length, ?_, ?_, ?_⟩
    · -- the first digit is at most fifteen
      have hle : (k + 1) * capacity text.length ≤ 16 * capacity text.length :=
        Nat.mul_le_mul_right _ hk
      rw [List.length_cons, capacity]
      rw [Nat.add_mul, Nat.one_mul] at hle
      omega
    · rw [List.foldlM_cons, hvalue]
      show text.foldlM _ (16 * before + k) = _
      rw [hfold, List.length_cons, capacity, Nat.add_mul]
      congr 1
      rw [Nat.mul_comm 16 before, Nat.mul_assoc]
      omega
    · rw [List.length_cons, word, hfirst, word_add_mul, hword, hdigit, List.map_cons]

end Hex

namespace Id

variable {kind : IdKind}

/-- **As many digits as an id has are the text of an id**, which is shown in lower case. -/
theorem exists_parse {text : String} (hlength : text.length = 2 * kind.width)
    (hdigits : Hex.IsTextOfEitherCase text) :
    ∃ id : Id kind, Id.parse text = .ok id ∧ id.hex = Text.asciiLower text := by
  obtain ⟨n, hlt, hfold, hword⟩ := Hex.exists_foldlM hdigits 0
  rw [String.length_toList, hlength] at hlt hfold hword
  rw [Nat.zero_mul, Nat.add_zero] at hfold
  rw [capacity_eq] at hlt
  have hparse : Id.parse? text.toList = some (⟨n, hlt⟩ : Id kind) := by
    rw [parse?, if_pos (by rw [String.length_toList, hlength]), Hex.number?, hfold]
    exact dif_pos hlt
  refine ⟨⟨n, hlt⟩, ?_, ?_⟩
  · rw [Id.parse, hparse]
  · rw [hex, digits, hword, Text.asciiLower]

end Id

end Telemetry
