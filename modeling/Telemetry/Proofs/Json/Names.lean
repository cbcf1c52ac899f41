import Telemetry.Id
import Telemetry.Proofs.Text
import Telemetry.Proofs.Value.ReadBack

/-!
# Names of members

A member has a fixed name, the text of an id, or a name that comes from outside and is shown with
one underscore more if it starts with one (`Doc.shownName`).  Only tags begin with exactly one
underscore.  Names from outside stay apart when they are shown (`Doc.shownName_injective`) and keep
their order (`Doc.compareBytes_shownName`), and so do the texts of ids (`Id.hex_injective`).
-/

namespace Telemetry

namespace Text

/-- The first byte of any character but an underscore is not that of an underscore. -/
theorem exists_utf8EncodeChar {c : Char} (h : c ≠ '_') :
    ∃ b rest, String.utf8EncodeChar c = b :: rest ∧ b ≠ 0x5F := by
  have hofNat {n : Nat} (hn : n % 256 ≠ 0x5F) : UInt8.ofNat n ≠ 0x5F := by
    intro heq
    have := congrArg UInt8.toNat heq
    simp at this
    omega
  have hc : c.val.toNat ≠ 0x5F := by
    intro heq
    exact h (Char.ext (UInt32.toNat_inj.mp heq))
  unfold String.utf8EncodeChar
  dsimp only
  split_ifs
  · exact ⟨_, _, rfl, hofNat (by omega)⟩
  · exact ⟨_, _, rfl, hofNat (by omega)⟩
  · exact ⟨_, _, rfl, hofNat (by omega)⟩
  · exact ⟨_, _, rfl, hofNat (by omega)⟩

/-- A text begins with an underscore iff its bytes begin with that of an underscore. -/
theorem head?_utf8 (name : String) :
    (utf8 name).head? = some 0x5F ↔ name.toList.head? = some '_' := by
  rw [← String.ofList_toList (s := name), String.toList_ofList]
  cases name.toList with
  | nil => exact iff_of_false (by decide) (by decide)
  | cons c rest =>
    rw [utf8_ofList_cons, List.head?_cons]
    by_cases hc : c = '_'
    · subst hc
      exact iff_of_true rfl rfl
    · obtain ⟨b, more, hbytes, hb⟩ := exists_utf8EncodeChar hc
      rw [hbytes, List.cons_append, List.head?_cons]
      exact iff_of_false (fun h => hb (Option.some.inj h)) fun h => hc (Option.some.inj h)

/-- One more underscore in front of some does not matter where the other text has none. -/
theorem compare_cons_underscore {a b : Bytes} (ha : a.head? = some 0x5F)
    (hb : b.head? ≠ some 0x5F) : compare (0x5F :: a) b = compare a b := by
  obtain ⟨a, rfl⟩ := List.head?_eq_some_iff.mp ha
  cases b with
  | nil => rfl
  | cons x b =>
    have hne : compare (0x5F : UInt8) x ≠ .eq := by
      rw [ne_eq, Std.LawfulEqCmp.compare_eq_iff_eq]
      rintro rfl
      exact hb rfl
    rw [List.compare_cons_cons, List.compare_cons_cons]
    cases hcmp : compare (0x5F : UInt8) x with
    | eq => exact absurd hcmp hne
    | lt => rfl
    | gt => rfl

end Text

namespace Doc

/-- The name that a member from outside is shown under. -/
def shownName (name : String) : String :=
  String.ofList (escapedName name.toList)

/-- The name begins with exactly one underscore. -/
def IsTag (name : String) : Prop :=
  ∃ rest, name.toList = '_' :: rest ∧ rest.head? ≠ some '_'

theorem shownName_of_head? {name : String} (h : name.toList.head? = some '_') :
    shownName name = String.ofList ('_' :: name.toList) := by
  obtain ⟨rest, hrest⟩ := List.head?_eq_some_iff.mp h
  rw [shownName, hrest]
  rfl

theorem shownName_eq_self {name : String} (h : name.toList.head? ≠ some '_') :
    shownName name = name := by
  have hname : escapedName name.toList = name.toList := by
    unfold escapedName
    split
    · rename_i rest hrest
      rw [hrest] at h
      exact absurd rfl h
    · rfl
  rw [shownName, hname, String.ofList_toList]

/-- **Names from outside stay apart when they are shown.** -/
theorem shownName_injective : Function.Injective shownName := by
  intro a b h
  have hescaped : escapedName a.toList = escapedName b.toList := by
    simpa [shownName] using congrArg String.toList h
  have hnames := congrArg unescapedName? hescaped
  rw [unescapedName?_escapedName, unescapedName?_escapedName] at hnames
  exact String.toList_inj.mp (Option.some.inj hnames)

/-- No name from outside is shown with exactly one underscore in front. -/
theorem not_isTag_shownName (name : String) : ¬IsTag (shownName name) := by
  rintro ⟨rest, hrest, hhead⟩
  have hnames := unescapedName?_escapedName name.toList
  rw [shownName, String.toList_ofList] at hrest
  rw [hrest, unescapedName?] at hnames
  · cases hnames
  · intro more hmore
    rw [hmore] at hhead
    exact hhead rfl

/-- **Names from outside keep their order when they are shown.** -/
theorem compareBytes_shownName (a b : String) :
    Text.compareBytes (shownName a) (shownName b) = Text.compareBytes a b := by
  have hunderscore {name : String} (h : name.toList.head? = some '_') :
      Text.utf8 (shownName name) = 0x5F :: Text.utf8 name := by
    rw [shownName_of_head? h, Text.utf8_ofList_cons, String.ofList_toList]
    rfl
  unfold Text.compareBytes
  by_cases ha : a.toList.head? = some '_' <;> by_cases hb : b.toList.head? = some '_'
  · rw [hunderscore ha, hunderscore hb, List.compare_cons_cons]
    rfl
  · rw [hunderscore ha, shownName_eq_self hb]
    exact Text.compare_cons_underscore ((Text.head?_utf8 a).mpr ha)
      fun h => hb ((Text.head?_utf8 b).mp h)
  · have hswapped := Text.compare_cons_underscore ((Text.head?_utf8 b).mpr hb)
      fun h => ha ((Text.head?_utf8 a).mp h)
    rw [hunderscore hb, shownName_eq_self ha, @Std.OrientedCmp.eq_swap _ compare, hswapped]
    exact (@Std.OrientedCmp.eq_swap _ compare _ _ _).symm
  · rw [shownName_eq_self ha, shownName_eq_self hb]

end Doc

/-! ### Ids -/

namespace Hex

/-- A lower-case hexadecimal digit. -/
def IsDigit (c : Char) : Prop :=
  c ∈ "0123456789abcdef".toList

instance : DecidablePred IsDigit :=
  fun c => List.instDecidableMemOfLawfulBEq c "0123456789abcdef".toList

theorem isDigit_digit {n : Nat} (h : n < 16) : IsDigit (digit n) := by
  have hall : ∀ n < 16, IsDigit (digit n) := by decide
  exact hall n h

end Hex

namespace Id

variable {kind : IdKind}

theorem isDigit_of_mem_digits {id : Id kind} {c : Char} (h : c ∈ id.digits) : Hex.IsDigit c := by
  obtain ⟨n, hn, rfl⟩ := Hex.exists_digit_of_mem_word h
  exact Hex.isDigit_digit hn

/-- The digits of an id are enough for its number. -/
theorem capacity_eq (width : Nat) : Hex.capacity (2 * width) = Bytes.capacity width := by
  induction width with
  | zero => rfl
  | succ width ih =>
    rw [Nat.mul_succ, Hex.capacity, Hex.capacity, ih, Bytes.capacity, ← Nat.mul_assoc]

/-- **Different ids have different texts.** -/
theorem hex_injective : Function.Injective (@hex kind) := by
  intro a b h
  have hdigits : a.digits = b.digits := by
    simpa [hex] using congrArg String.toList h
  have hnumbers := congrArg Hex.number? hdigits
  rw [digits, digits, Hex.number?_word, Hex.number?_word, capacity_eq, Nat.mod_eq_of_lt a.isLt,
    Nat.mod_eq_of_lt b.isLt] at hnumbers
  cases a
  cases b
  simpa using hnumbers

theorem not_head?_hex (id : Id kind) : id.hex.toList.head? ≠ some '_' := by
  intro h
  have hmem : '_' ∈ id.digits := by
    rw [hex, String.toList_ofList] at h
    exact List.mem_of_mem_head? h
  exact absurd (isDigit_of_mem_digits hmem) (by decide)

end Id

end Telemetry
