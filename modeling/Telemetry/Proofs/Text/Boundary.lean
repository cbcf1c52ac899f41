import Mathlib.Order.Bounds.Basic
import Telemetry.Proofs.Text

/-!
# Where characters begin

The bytes of a text are those of its characters (`Text.utf8_eq_flatMap`), and in those of a
character only the first one is no continuation byte (`Text.exists_utf8EncodeChar_eq`).  So the
positions of a byte string at which no character is cut, told by the byte that stands there
(`Text.isBoundary`), are for a text the lengths of its beginnings (`Text.isBoundary_iff`).

A character has at most four bytes.  Whoever looks for a boundary by going back from a position
within a text byte by byte (`Text.boundaryBefore?`) finds the nearest one, and finds it after three
steps at most (`Text.boundaryBefore?_utf8`).
-/

namespace Telemetry.Text

/-! ### The bytes of a character -/

theorem utf8_eq_flatMap (s : String) : utf8 s = s.toList.flatMap String.utf8EncodeChar := by
  rw [← String.ofList_toList (s := s), String.toList_ofList]
  induction s.toList with
  | nil => rfl
  | cons c rest ih => rw [utf8_ofList_cons, ih, List.flatMap_cons]

/-- The byte goes on with a character that has begun before it. -/
def isContinuation (b : UInt8) : Bool :=
  128 ≤ b.toNat && b.toNat < 192

theorem isContinuation_ofNat {n : Nat} (hn : n < 256) :
    isContinuation (UInt8.ofNat n) = true ↔ 128 ≤ n ∧ n < 192 := by
  rw [isContinuation, UInt8.toNat_ofNat', Nat.mod_eq_of_lt hn, Bool.and_eq_true, decide_eq_true_iff,
    decide_eq_true_iff]

/-- **Only the first byte of a character is no continuation byte**, and at most three follow it.  A
first byte below 128 is the character itself. -/
theorem exists_utf8EncodeChar_eq (c : Char) : ∃ first others,
    String.utf8EncodeChar c = first :: others ∧ isContinuation first = false ∧
      (first.toNat < 128 → first.toNat = c.toNat) ∧
      (∀ b ∈ others, isContinuation b = true) ∧ others.length ≤ 3 := by
  have hcontinues (n : Nat) : isContinuation (UInt8.ofNat (n % 64 + 128)) = true :=
    (isContinuation_ofNat (by omega)).mpr (by omega)
  have hbegins {n : Nat} (hn : n < 256) (hrange : n < 128 ∨ 192 ≤ n) :
      isContinuation (UInt8.ofNat n) = false :=
    Bool.eq_false_iff.mpr fun h => by
      have := (isContinuation_ofNat hn).mp h
      omega
  have hvalue {n : Nat} (hn : n < 256) : (UInt8.ofNat n).toNat = n := by
    rw [UInt8.toNat_ofNat', Nat.mod_eq_of_lt hn]
  unfold String.utf8EncodeChar
  dsimp only
  split
  · exact ⟨_, [], rfl, hbegins (by omega) (by omega), fun _ => hvalue (by omega),
      List.forall_mem_nil _, by decide⟩
  -- the first byte of a longer character is too large
  have hlong {n : Nat} (hn : n < 256) (hlarge : 192 ≤ n) :
      (UInt8.ofNat n).toNat < 128 → (UInt8.ofNat n).toNat = c.toNat := by
    rw [hvalue hn]
    omega
  split
  · refine ⟨_, [_], rfl, hbegins (by omega) (by omega), hlong (by omega) (by omega), ?_, by simp⟩
    exact List.forall_mem_singleton.mpr (hcontinues _)
  split
  · refine ⟨_, [_, _], rfl, hbegins (by omega) (by omega), hlong (by omega) (by omega), ?_, by simp⟩
    exact List.forall_mem_cons.mpr ⟨hcontinues _, List.forall_mem_singleton.mpr (hcontinues _)⟩
  · refine ⟨_, [_, _, _], rfl, hbegins (by omega) (by omega), hlong (by omega) (by omega), ?_,
      by simp⟩
    exact List.forall_mem_cons.mpr ⟨hcontinues _, List.forall_mem_cons.mpr
      ⟨hcontinues _, List.forall_mem_singleton.mpr (hcontinues _)⟩⟩

/-- The byte of a line break is in the bytes of no other character. -/
theorem lineBreak_mem_utf8EncodeChar (c : Char) :
    (0x0a : UInt8) ∈ String.utf8EncodeChar c ↔ c = '\n' := by
  constructor
  · intro hmem
    obtain ⟨first, others, hencoded, -, hself, hothers, -⟩ := exists_utf8EncodeChar_eq c
    rw [hencoded] at hmem
    rcases List.mem_cons.mp hmem with rfl | hmem
    · exact Char.toNat_inj.mp (hself (by decide)).symm
    · exact absurd (hothers _ hmem) (by decide)
  · rintro rfl
    decide

theorem lineBreak_mem_flatMap (s : List Char) :
    (0x0a : UInt8) ∈ s.flatMap String.utf8EncodeChar ↔ '\n' ∈ s := by
  rw [List.mem_flatMap]
  constructor
  · rintro ⟨c, hc, hbyte⟩
    exact (lineBreak_mem_utf8EncodeChar c).mp hbyte ▸ hc
  · intro h
    exact ⟨'\n', h, (lineBreak_mem_utf8EncodeChar _).mpr rfl⟩

/-! ### Boundaries -/

/-- No character is cut at the position: it is one of the ends, or a character begins there. -/
def isBoundary (bytes : Bytes) (i : Nat) : Bool :=
  i == 0 || i == bytes.length || bytes[i]?.any fun b => !isContinuation b

theorem isBoundary_zero (bytes : Bytes) : isBoundary bytes 0 = true := rfl

theorem le_length_of_isBoundary {bytes : Bytes} {i : Nat} (h : isBoundary bytes i = true) :
    i ≤ bytes.length := by
  by_contra hbeyond
  have hnone : bytes[i]? = none := List.getElem?_eq_none (by omega)
  have hzero : i ≠ 0 := by omega
  have hend : i ≠ bytes.length := by omega
  simp [isBoundary, hnone, hzero, hend] at h

/-- Behind the bytes of characters, boundaries are where they are without these. -/
theorem isBoundary_append (front : Bytes) (s : List Char) (i : Nat) :
    isBoundary (front ++ s.flatMap String.utf8EncodeChar) (front.length + i) =
      isBoundary (s.flatMap String.utf8EncodeChar) i := by
  have hbyte : (front ++ s.flatMap String.utf8EncodeChar)[front.length + i]? =
      (s.flatMap String.utf8EncodeChar)[i]? := by
    rw [List.getElem?_append_right (Nat.le_add_right _ _), Nat.add_sub_cancel_left]
  by_cases hi : i = 0
  · -- a character begins there, or the text ends
    subst hi
    rw [isBoundary_zero, isBoundary, hbyte]
    cases s with
    | nil => simp
    | cons c s =>
      obtain ⟨first, others, hencoded, hfirst, -⟩ := exists_utf8EncodeChar_eq c
      simp [hencoded, hfirst]
  · have hzero : (front.length + i == 0) = (i == 0) := by
      rw [beq_eq_false_iff_ne.mpr hi, beq_eq_false_iff_ne.mpr (by omega)]
    have hend (n : Nat) : (front.length + i == front.length + n) = (i == n) := by
      rw [Bool.eq_iff_iff, beq_iff_eq, beq_iff_eq, Nat.add_left_cancel_iff]
    rw [isBoundary, isBoundary, hbyte, List.length_append, hzero, hend]

/-- There is no boundary within a character. -/
theorem isBoundary_inside (c : Char) (back : Bytes) {i : Nat} (hpos : 0 < i)
    (hinside : i < (String.utf8EncodeChar c).length) :
    isBoundary (String.utf8EncodeChar c ++ back) i = false := by
  obtain ⟨first, others, hencoded, -, -, hothers, -⟩ := exists_utf8EncodeChar_eq c
  obtain ⟨j, rfl⟩ : ∃ j, i = j + 1 := ⟨i - 1, by omega⟩
  rw [hencoded, List.length_cons] at hinside
  have hj : j < others.length := by omega
  have hend : j + 1 ≠ (first :: others ++ back).length := by
    rw [List.length_append, List.length_cons]
    omega
  have hbyte : (first :: others ++ back)[j + 1]? = some others[j] := by
    rw [List.cons_append, List.getElem?_cons_succ, List.getElem?_append_left hj,
      List.getElem?_eq_getElem hj]
  rw [hencoded, isBoundary, hbyte, beq_eq_false_iff_ne.mpr hpos.ne', beq_eq_false_iff_ne.mpr hend,
    Option.any_some, hothers _ (List.getElem_mem hj)]
  decide

/-- **The boundaries of a text are the lengths of its beginnings.** -/
theorem isBoundary_flatMap_iff (s : List Char) (i : Nat) :
    isBoundary (s.flatMap String.utf8EncodeChar) i = true ↔
      ∃ p, p <+: s ∧ (p.flatMap String.utf8EncodeChar).length = i := by
  induction s generalizing i with
  | nil =>
    constructor
    · intro h
      exact ⟨[], List.nil_prefix, (Nat.le_zero.mp (le_length_of_isBoundary h)).symm⟩
    · rintro ⟨p, hp, rfl⟩
      rw [List.prefix_nil.mp hp]
      rfl
  | cons c s ih =>
    rw [List.flatMap_cons]
    by_cases hzero : i = 0
    · subst hzero
      exact iff_of_true (isBoundary_zero _) ⟨[], List.nil_prefix, rfl⟩
    -- a beginning that is not empty has the whole first character
    have hwhole {p : List Char} (hp : p <+: c :: s)
        (hlength : (p.flatMap String.utf8EncodeChar).length = i) :
        ∃ q, q <+: s ∧
          (String.utf8EncodeChar c).length + (q.flatMap String.utf8EncodeChar).length = i := by
      obtain _ | ⟨d, q⟩ := p
      · exact absurd hlength.symm hzero
      · obtain ⟨rfl, hq⟩ := List.cons_prefix_cons.mp hp
        rw [List.flatMap_cons, List.length_append] at hlength
        exact ⟨q, hq, hlength⟩
    by_cases hinside : i < (String.utf8EncodeChar c).length
    · rw [isBoundary_inside c _ (by omega) hinside]
      refine iff_of_false nofun ?_
      rintro ⟨p, hp, hlength⟩
      obtain ⟨q, -, hq⟩ := hwhole hp hlength
      omega
    · obtain ⟨j, rfl⟩ : ∃ j, i = (String.utf8EncodeChar c).length + j :=
        ⟨i - (String.utf8EncodeChar c).length, by omega⟩
      rw [isBoundary_append, ih]
      constructor
      · rintro ⟨p, hp, hlength⟩
        refine ⟨c :: p, List.cons_prefix_cons.mpr ⟨rfl, hp⟩, ?_⟩
        rw [List.flatMap_cons, List.length_append, hlength]
      · rintro ⟨p, hp, hlength⟩
        obtain ⟨q, hq, hqlength⟩ := hwhole hp hlength
        exact ⟨q, hq, by omega⟩

theorem isBoundary_iff (s : String) (i : Nat) :
    isBoundary (utf8 s) i = true ↔
      ∃ p, p <+: s.toList ∧ (p.flatMap String.utf8EncodeChar).length = i := by
  rw [utf8_eq_flatMap, isBoundary_flatMap_iff]

/-- From any position within a text a boundary is at most three bytes back. -/
theorem exists_boundary_near (s : List Char) {i : Nat}
    (h : i ≤ (s.flatMap String.utf8EncodeChar).length) :
    ∃ j, isBoundary (s.flatMap String.utf8EncodeChar) j = true ∧ j ≤ i ∧ i ≤ j + 3 := by
  induction s generalizing i with
  | nil => exact ⟨0, isBoundary_zero _, Nat.zero_le _, Nat.le_trans h (Nat.zero_le _)⟩
  | cons c s ih =>
    obtain ⟨first, others, hencoded, -, -, -, hshort⟩ := exists_utf8EncodeChar_eq c
    have hwidth : (String.utf8EncodeChar c).length = others.length + 1 := by
      rw [hencoded, List.length_cons]
    rw [List.flatMap_cons] at h ⊢
    by_cases hinside : i ≤ others.length
    · exact ⟨0, isBoundary_zero _, Nat.zero_le _, by omega⟩
    · rw [List.length_append] at h
      have hrest : i - (String.utf8EncodeChar c).length ≤
          (s.flatMap String.utf8EncodeChar).length := by omega
      obtain ⟨j, hj, hle, hnear⟩ := ih hrest
      refine ⟨(String.utf8EncodeChar c).length + j, ?_, by omega, by omega⟩
      rw [isBoundary_append]
      exact hj

/-! ### Going back to a boundary -/

/-- Goes back from a position byte by byte to one at which no character is cut.  Before the first
byte there is no position to go to. -/
def boundaryBefore? (bytes : Bytes) : Nat → Option Nat
  | 0 => if isBoundary bytes 0 then some 0 else none
  | i + 1 => if isBoundary bytes (i + 1) then some (i + 1) else boundaryBefore? bytes i

/-- The boundary that is found is the nearest one. -/
theorem exists_boundaryBefore?_eq (bytes : Bytes) (i : Nat) :
    ∃ j, boundaryBefore? bytes i = some j ∧
      IsGreatest {k | k ≤ i ∧ isBoundary bytes k = true} j := by
  induction i with
  | zero => exact ⟨0, rfl, ⟨Nat.le_refl 0, isBoundary_zero bytes⟩, fun k hk => hk.1⟩
  | succ i ih =>
    by_cases h : isBoundary bytes (i + 1) = true
    · exact ⟨i + 1, if_pos h, ⟨Nat.le_refl _, h⟩, fun k hk => hk.1⟩
    · obtain ⟨j, hj, ⟨hle, hboundary⟩, hgreatest⟩ := ih
      refine ⟨j, (if_neg h).trans hj, ⟨Nat.le_succ_of_le hle, hboundary⟩, fun k hk => ?_⟩
      have hk' : k ≠ i + 1 := fun heq => h (heq ▸ hk.2)
      exact hgreatest ⟨by have := hk.1; omega, hk.2⟩

/-- **From any position within a text the nearest boundary is found in three steps at most.** -/
theorem boundaryBefore?_utf8 (s : String) {i : Nat} (h : i ≤ (utf8 s).length) :
    ∃ j, boundaryBefore? (utf8 s) i = some j ∧
      IsGreatest {k | k ≤ i ∧ isBoundary (utf8 s) k = true} j ∧ i ≤ j + 3 := by
  obtain ⟨j, hj, hgreatest⟩ := exists_boundaryBefore?_eq (utf8 s) i
  obtain ⟨k, hk, hle, hnear⟩ := exists_boundary_near s.toList (utf8_eq_flatMap s ▸ h)
  have hkj : k ≤ j := hgreatest.2 ⟨hle, utf8_eq_flatMap s ▸ hk⟩
  exact ⟨j, hj, hgreatest, by omega⟩

end Telemetry.Text
