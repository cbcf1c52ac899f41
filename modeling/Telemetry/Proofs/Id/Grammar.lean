import Telemetry.Proofs.Id
import Telemetry.Proofs.Text.Boundary
import Telemetry.Table

/-!
# The texts of ids

A text is read as an id exactly if it has as many hexadecimal digits as an id is shown with, in
either case, and then it is shown as the same digits in lower case (`Id.parse_eq_ok_iff`).  Reading
goes by characters, but reading the bytes of the text by position comes to the same, never looks
beyond the text, and finds the bytes of the id (`Id.readBytes?_utf8`).

Ids are shown as the digits of their bytes, which are the digits of their number with zeros in front
(`Id.digits_eq_ofBytes`, `Id.digits_eq_leftpad`).  All of them have the same number of digits, so the
order of the texts is that of the numbers (`Id.compareBytes_hex`), as is the order of the bytes
(`Id.compare_bytes`).  The main statement is `Id.text_of_kind`.
-/

namespace Telemetry

namespace Hex

/-! ### Digits of either case -/

/-- Nothing but digits of either case has a value. -/
theorem isDigitOfEitherCase_of_value? {c : Char} {k : Nat} (h : value? c = some k) :
    IsDigitOfEitherCase c := by
  have hlt : c.toNat < 128 := by
    rw [value?] at h
    split_ifs at h with hdecimal hlower hupper
    · exact Nat.lt_of_le_of_lt hdecimal.2 (by decide)
    · exact Nat.lt_of_le_of_lt hlower.2 (by decide)
    · exact Nat.lt_of_le_of_lt hupper.2 (by decide)
  have hall : ∀ n < 128, (value? (Char.ofNat n)).isSome → IsDigitOfEitherCase (Char.ofNat n) := by
    decide
  have hdigit := hall c.toNat hlt
  rw [Char.ofNat_toNat, h] at hdigit
  exact hdigit rfl

/-- A digit has the value of its lower-case form. -/
theorem value?_toLower {c : Char} (h : IsDigitOfEitherCase c) : value? c.toLower = value? c := by
  obtain ⟨k, hk, hvalue, hdigit⟩ := exists_value? h
  rw [← hdigit, value?_digit hk, hvalue]

theorem toLower_of_isDigit {c : Char} (h : IsDigit c) : c.toLower = c := by
  have hall : ∀ c ∈ "0123456789abcdef".toList, c.toLower = c :=
    @of_decide_eq_true _ (List.decidableBAll (fun c : Char => c.toLower = c) _) (by decide)
  exact hall c h

theorem IsDigit.ofEitherCase {c : Char} (h : IsDigit c) : IsDigitOfEitherCase c := by
  have hsplit : "0123456789abcdefABCDEF".toList =
      "0123456789abcdef".toList ++ "ABCDEF".toList := by decide
  rw [IsDigitOfEitherCase, hsplit]
  exact List.mem_append_left _ h

theorem toNat_lt_of_isDigitOfEitherCase {c : Char} (h : IsDigitOfEitherCase c) :
    c.toNat < 128 := by
  have hall : ∀ c ∈ "0123456789abcdefABCDEF".toList, c.toNat < 128 :=
    @of_decide_eq_true _ (List.decidableBAll (fun c : Char => c.toNat < 128) _) (by decide)
  exact hall c h

/-- A number is read from digits only. -/
theorem isDigitOfEitherCase_of_number? {text : List Char} {before n : Nat}
    (h : text.foldlM (fun n c => (value? c).map (16 * n + ·)) before = some n) :
    ∀ c ∈ text, IsDigitOfEitherCase c := by
  induction text generalizing before with
  | nil => exact List.forall_mem_nil _
  | cons c text ih =>
    rw [List.foldlM_cons, Option.bind_eq_bind, Option.bind_eq_some_iff] at h
    obtain ⟨_, hvalue, hrest⟩ := h
    obtain ⟨k, hk, -⟩ := Option.map_eq_some_iff.mp hvalue
    exact List.forall_mem_cons.mpr ⟨isDigitOfEitherCase_of_value? hk, ih hrest⟩

/-! ### Pairs of digits -/

/-- Bytes are read from digits only. -/
theorem isDigitOfEitherCase_of_toBytes? {text : List Char} {bytes : Bytes}
    (h : toBytes? text = some bytes) : ∀ c ∈ text, IsDigitOfEitherCase c := by
  fun_induction toBytes? text generalizing bytes with
  | case1 => exact List.forall_mem_nil _
  | case2 => cases h
  | case3 hi lo rest high low _ hrest hlo hhi ih =>
    exact List.forall_mem_cons.mpr ⟨isDigitOfEitherCase_of_value? hhi,
      List.forall_mem_cons.mpr ⟨isDigitOfEitherCase_of_value? hlo, ih hrest⟩⟩
  | case4 => cases h

/-- Bytes are read from digits of either case as from lower-case ones. -/
theorem toBytes?_map_toLower {text : List Char} (h : ∀ c ∈ text, IsDigitOfEitherCase c) :
    toBytes? (text.map Char.toLower) = toBytes? text := by
  induction text using toBytes?.induct with
  | case1 => rfl
  | case2 => rfl
  | case3 hi lo rest _ _ _ _ _ _ ih | case4 hi lo rest _ ih =>
    obtain ⟨hhi, hlo, hrest⟩ := by simpa only [List.forall_mem_cons] using h
    rw [List.map_cons, List.map_cons, toBytes?, toBytes?, value?_toLower hhi, value?_toLower hlo,
      ih hrest]

/-- The character whose code is the byte. -/
def byteChar (b : UInt8) : Char :=
  Char.ofNat b.toNat

theorem toNat_byteChar (b : UInt8) : (byteChar b).toNat = b.toNat := by
  have := b.toNat_lt
  rw [byteChar, Char.ofNat, dif_pos (Or.inl (by omega))]
  rfl

/-- The bytes whose digits stand in a text from a position on.  There is no answer at all if a byte
of the text is asked for that it does not have. -/
def readFrom? (text : Bytes) (i : Nat) : Nat → Option (Option Bytes)
  | 0 => some (some [])
  | count + 1 =>
    match text[i]?, text[i + 1]? with
    | some hi, some lo =>
      match value? (byteChar hi), value? (byteChar lo) with
      | some high, some low =>
        (readFrom? text (i + 2) count).map (Option.map (UInt8.ofNat (16 * high + low) :: ·))
      | _, _ => some none
    | _, _ => none

/-- **Reading by position within a text** comes to reading the pairs of digits one by one. -/
theorem readFrom?_append (front text : Bytes) {count : Nat} (h : text.length = 2 * count) :
    readFrom? (front ++ text) front.length count =
      some (toBytes? (text.map byteChar)) := by
  induction count generalizing front text with
  | zero =>
    rw [List.length_eq_zero_iff.mp h]
    rfl
  | succ count ih =>
    obtain _ | ⟨hi, _ | ⟨lo, rest⟩⟩ := text
    · cases h
    · simp at h
      omega
    have hhi : (front ++ hi :: lo :: rest)[front.length]? = some hi := by simp
    have hlo : (front ++ hi :: lo :: rest)[front.length + 1]? = some lo := by
      rw [List.getElem?_append_right (Nat.le_succ _)]
      simp
    have hrest : readFrom? (front ++ hi :: lo :: rest) (front.length + 2) count =
        some (toBytes? (rest.map byteChar)) := by
      have hsplit : front ++ hi :: lo :: rest = (front ++ [hi, lo]) ++ rest := by simp
      rw [hsplit, ← ih (front ++ [hi, lo]) rest (by simp at h; omega), List.length_append]
      rfl
    rw [readFrom?, hhi, hlo, hrest, List.map_cons, List.map_cons, toBytes?]
    dsimp only
    cases value? (byteChar hi) <;> cases value? (byteChar lo) <;>
      cases toBytes? (rest.map byteChar) <;> rfl

end Hex

namespace Bytes

/-- In numbers that have the same number of digits, the first digits decide the order. -/
theorem compare_add_mul {base r₁ r₂ : Nat} (h₁ : r₁ < base) (h₂ : r₂ < base) (q₁ q₂ : Nat) :
    compare (r₁ + base * q₁) (r₂ + base * q₂) = (compare q₁ q₂).then (compare r₁ r₂) := by
  have hstep {r r' q q' : Nat} (hr : r < base) (hq : q < q') : r + base * q < r' + base * q' := by
    have hmul : base * (q + 1) ≤ base * q' := Nat.mul_le_mul_left base hq
    rw [Nat.mul_succ] at hmul
    omega
  rcases Nat.lt_trichotomy q₁ q₂ with hlt | rfl | hgt
  · rw [Nat.compare_eq_lt.mpr hlt, Nat.compare_eq_lt.mpr (hstep h₁ hlt)]
    rfl
  · rw [Nat.compare_eq_eq.mpr rfl, Ordering.eq_then]
    simp only [compare, compareOfLessAndEq, Nat.add_lt_add_iff_right, Nat.add_right_cancel_iff]
  · rw [Nat.compare_eq_gt.mpr hgt, Nat.compare_eq_gt.mpr (hstep h₂ hgt)]
    rfl

theorem compare_eq_compare_toNat (a b : UInt8) : compare a b = compare a.toNat b.toNat := by
  simp only [compare, compareOfLessAndEq, UInt8.lt_iff_toNat_lt, UInt8.toNat_inj]

/-- **Bytes in a fixed width have the order of their numbers.** -/
theorem compare_bigEndian (width n m : Nat) :
    compare (bigEndian width n) (bigEndian width m) =
      compare (n % capacity width) (m % capacity width) := by
  induction width with
  | zero => simp [bigEndian, capacity, Nat.mod_one]
  | succ width ih =>
    have hpos := capacity_pos width
    have hbyte (k : Nat) : (UInt8.ofNat k).toNat = k % 256 := UInt8.toNat_ofNat'
    rw [bigEndian, bigEndian, List.compare_cons_cons, compare_eq_compare_toNat, hbyte, hbyte, ih,
      capacity, Nat.mul_comm 256, Nat.mod_mul, Nat.mod_mul,
      compare_add_mul (Nat.mod_lt _ hpos) (Nat.mod_lt _ hpos)]

end Bytes

namespace Hex

/-! ### Words -/

/-- A digit that is shown has one byte. -/
theorem utf8EncodeChar_digit {k : Nat} (h : k < 16) :
    String.utf8EncodeChar (digit k) = [UInt8.ofNat (digit k).toNat] := by
  have hall : ∀ k < 16, String.utf8EncodeChar (digit k) = [UInt8.ofNat (digit k).toNat] := by
    decide
  exact hall k h

/-- **Digits in a fixed width have the order of their numbers.** -/
theorem compare_utf8_word (width n m : Nat) :
    compare (Text.utf8 (String.ofList (word width n))) (Text.utf8 (String.ofList (word width m))) =
      compare (n % capacity width) (m % capacity width) := by
  induction width with
  | zero => simp [word, capacity, Nat.mod_one]
  | succ width ih =>
    have hpos := capacity_pos width
    have hdigits : ∀ a < 16, ∀ b < 16,
        compare (UInt8.ofNat (digit a).toNat) (UInt8.ofNat (digit b).toNat) = compare a b := by
      decide
    have hlt (k : Nat) : k % 16 < 16 := Nat.mod_lt k (by decide)
    rw [word, word, Text.utf8_ofList_cons, Text.utf8_ofList_cons, utf8EncodeChar_digit (hlt _),
      utf8EncodeChar_digit (hlt _), List.singleton_append, List.singleton_append,
      List.compare_cons_cons, hdigits _ (hlt _) _ (hlt _), ih, capacity, Nat.mul_comm 16,
      Nat.mod_mul, Nat.mod_mul, Bytes.compare_add_mul (Nat.mod_lt _ hpos) (Nat.mod_lt _ hpos)]

/-- The digits of bytes are those of their number. -/
theorem ofBytes_bigEndian (width n : Nat) :
    ofBytes (Bytes.bigEndian width n) = word (2 * width) n := by
  induction width with
  | zero => rfl
  | succ width ih =>
    have hbyte : (UInt8.ofNat (n / Bytes.capacity width)).toNat = n / Bytes.capacity width % 256 :=
      UInt8.toNat_ofNat'
    have hhigh : n / Bytes.capacity width % 256 / 16 % 16 =
        n / (16 * Bytes.capacity width) % 16 := by
      rw [Nat.mul_comm, ← Nat.div_div_eq_div_mul]
      omega
    have hlow : n / Bytes.capacity width % 256 / 1 % 16 = n / Bytes.capacity width % 16 := by
      omega
    have hsplit : ofBytes (Bytes.bigEndian (width + 1) n) =
        word 2 (UInt8.ofNat (n / Bytes.capacity width)).toNat ++ ofBytes (Bytes.bigEndian width n) :=
      rfl
    have hpair (k : Nat) : word 2 k = [digit (k / 16 % 16), digit (k / 1 % 16)] := rfl
    rw [hsplit, hbyte, hpair, hhigh, hlow, ih, Nat.mul_succ, word, word, capacity, Id.capacity_eq]
    rfl

/-- The last digit of a word is that of the number, and the others are those of what is before. -/
theorem word_succ (width n : Nat) : word (width + 1) n = word width (n / 16) ++ [digit (n % 16)] := by
  induction width with
  | zero => simp [word, capacity]
  | succ width ih =>
    rw [word, ih, word, List.cons_append, capacity, Nat.div_div_eq_div_mul]

theorem word_zero (width : Nat) : word width 0 = List.replicate width '0' := by
  induction width with
  | zero => rfl
  | succ width ih =>
    rw [word, ih, Nat.zero_div]
    rfl

/-- **A word is the number with zeros in front**, if the number has no more digits. -/
theorem word_eq_leftpad {width n : Nat} (hpos : 0 < width) (h : n < capacity width) :
    word width n = (Nat.toDigits 16 n).leftpad width '0' := by
  have hsnoc (k : Nat) (front : List Char) (last : Char) :
      (front ++ [last]).leftpad (k + 1) '0' = front.leftpad k '0' ++ [last] := by
    simp [List.leftpad]
  induction width, hpos using Nat.le_induction generalizing n with
  | base =>
    rw [capacity, capacity] at h
    rw [Nat.toDigits_of_lt_base (by omega), word_succ, Nat.mod_eq_of_lt (by omega)]
    rfl
  | succ width hpos ih =>
    rw [word_succ]
    by_cases hlt : n < 16
    · rw [Nat.toDigits_of_lt_base hlt, Nat.div_eq_of_lt hlt, word_zero, Nat.mod_eq_of_lt hlt]
      rfl
    · rw [Nat.toDigits_of_base_le (by decide) (by omega), hsnoc, ih]
      · rfl
      · rw [capacity] at h
        omega

end Hex

namespace Id

variable {kind : IdKind}

/-! ### Reading -/

/-- The text has the form of an id: as many digits as an id is shown with, in either case. -/
def IsText (kind : IdKind) (text : String) : Prop :=
  text.length = 2 * kind.width ∧ Hex.IsTextOfEitherCase text

instance (kind : IdKind) (text : String) : Decidable (IsText kind text) :=
  inferInstanceAs (Decidable (_ ∧ _))

/-- **A text of the form of an id is read as one**, which is shown as the same digits in lower
case. -/
theorem IsText.exists_parse {text : String} (h : IsText kind text) :
    ∃ id : Id kind, Id.parse text = .ok id ∧ id.hex = Text.asciiLower text :=
  Id.exists_parse h.1 h.2

/-- What is read as an id has the form of one. -/
theorem isText_of_parse? {text : String} {id : Id kind} (h : Id.parse? text.toList = some id) :
    IsText kind text := by
  unfold Id.parse? at h
  split_ifs at h with hlength
  refine ⟨String.length_toList ▸ hlength, ?_⟩
  cases hnumber : Hex.number? text.toList with
  | none => simp [hnumber] at h
  | some n => exact Hex.isDigitOfEitherCase_of_number? hnumber

theorem parse_eq_ok {text : String} {id : Id kind} :
    Id.parse text = .ok id ↔ Id.parse? text.toList = some id := by
  unfold Id.parse
  cases Id.parse? text.toList with
  | none => exact iff_of_false nofun nofun
  | some _ => rw [Except.ok.injEq, Option.some.injEq]

/-- **A text is read as an id exactly if it has the form of one**, and then as the id that is shown
as the same digits in lower case. -/
theorem parse_eq_ok_iff {text : String} {id : Id kind} :
    Id.parse text = .ok id ↔ IsText kind text ∧ id.hex = Text.asciiLower text := by
  constructor
  · intro h
    have htext : IsText kind text := isText_of_parse? (parse_eq_ok.mp h)
    obtain ⟨read, hread, hhex⟩ := htext.exists_parse
    obtain rfl : id = read := Except.ok.inj (h.symm.trans hread)
    exact ⟨htext, hhex⟩
  · rintro ⟨htext, hhex⟩
    obtain ⟨read, hread, hsame⟩ := htext.exists_parse
    rw [hread, hex_injective (hsame.trans hhex.symm)]

/-- Any other text is named in the error. -/
theorem parse_eq_error_iff {text : String} :
    (Id.parse text : Except Error (Id kind)) =
        .error (.badRequest s!"invalid {kind.noun} '{text}'") ↔ ¬IsText kind text := by
  rw [← not_iff_not, not_not]
  constructor
  · intro h
    cases hparse : (Id.parse? text.toList : Option (Id kind)) with
    | none => exact absurd (by rw [Id.parse, hparse]) h
    | some id => exact isText_of_parse? hparse
  · intro htext herror
    obtain ⟨id, hid, -⟩ := htext.exists_parse
    rw [hid] at herror
    cases herror

/-! ### Showing -/

theorem digits_eq_ofBytes (id : Id kind) : id.digits = Hex.ofBytes id.bytes :=
  (Hex.ofBytes_bigEndian kind.width id.number).symm

theorem digits_eq_leftpad (id : Id kind) :
    id.digits = (Nat.toDigits 16 id.number).leftpad (2 * kind.width) '0' := by
  have hpos : 0 < 2 * kind.width := by cases kind <;> decide
  exact Hex.word_eq_leftpad hpos (capacity_eq kind.width ▸ id.isLt)

theorem isText_hex (id : Id kind) : IsText kind id.hex := by
  refine ⟨?_, fun c hc => ?_⟩
  · rw [hex, String.length_ofList, digits, Hex.length_word]
  · rw [hex, String.toList_ofList] at hc
    exact (isDigit_of_mem_digits hc).ofEitherCase

theorem asciiLower_hex (id : Id kind) : Text.asciiLower id.hex = id.hex := by
  have hlower : id.digits.map Char.toLower = id.digits.map fun c => c :=
    List.map_congr_left fun c hc => Hex.toLower_of_isDigit (isDigit_of_mem_digits hc)
  rw [Text.asciiLower, hex, String.toList_ofList, hlower, List.map_id']

/-- **What is shown is read back.** -/
theorem parse_hex (id : Id kind) : Id.parse id.hex = .ok id :=
  parse_eq_ok_iff.mpr ⟨isText_hex id, (asciiLower_hex id).symm⟩

/-! ### Reading bytes -/

/-- Reads the bytes of an id from the bytes of a text, which are looked up by position.  There is no
answer at all if one is looked up that the text does not have. -/
def readBytes? (kind : IdKind) (text : Bytes) : Option (Option Bytes) :=
  if text.length = 2 * kind.width then Hex.readFrom? text 0 kind.width else some none

/-- The bytes of digits are their characters. -/
theorem map_utf8_of_digits {text : String} (h : Hex.IsTextOfEitherCase text) :
    (Text.utf8 text).map Hex.byteChar = text.toList := by
  have hchar {c : Char} (hc : c ∈ text.toList) : Hex.byteChar (UInt8.ofNat c.toNat) = c := by
    have hlt := Hex.toNat_lt_of_isDigitOfEitherCase (h c hc)
    rw [Hex.byteChar, UInt8.toNat_ofNat', Nat.mod_eq_of_lt (by omega), Char.ofNat_toNat]
  have hchars : (text.toList.map fun c => UInt8.ofNat c.toNat).map Hex.byteChar =
      text.toList := by
    rw [List.map_map]
    exact (List.map_congr_left fun c hc => hchar hc).trans (List.map_id' _)
  have hbytes : Text.utf8 text = text.toList.map fun c => UInt8.ofNat c.toNat := by
    have hsmall : ∀ b ∈ text.toList.map fun c => UInt8.ofNat c.toNat, b.toNat < 128 := by
      rw [List.forall_mem_map]
      intro c hc
      have hlt := Hex.toNat_lt_of_isDigitOfEitherCase (h c hc)
      rw [UInt8.toNat_ofNat']
      omega
    have hutf8 : Text.utf8 (String.ofList
        ((text.toList.map fun c => UInt8.ofNat c.toNat).map Hex.byteChar)) =
          text.toList.map fun c => UInt8.ofNat c.toNat := Text.utf8_ofNat hsmall
    rwa [hchars, String.ofList_toList] at hutf8
  rw [hbytes, hchars]

/-- A character that is no digit has a byte that is none. -/
theorem digits_of_map_utf8 {text : String}
    (h : ∀ c ∈ (Text.utf8 text).map Hex.byteChar, Hex.IsDigitOfEitherCase c) :
    Hex.IsTextOfEitherCase text := by
  intro c hc
  obtain ⟨first, others, hencoded, -, hself, -⟩ := Text.exists_utf8EncodeChar_eq c
  have hmem : first ∈ Text.utf8 text := by
    rw [Text.utf8_eq_flatMap, List.mem_flatMap]
    exact ⟨c, hc, hencoded ▸ List.mem_cons_self⟩
  have hdigit := h _ (List.mem_map_of_mem hmem)
  have hlt := Hex.toNat_lt_of_isDigitOfEitherCase hdigit
  rw [Hex.toNat_byteChar] at hlt
  rwa [Hex.byteChar, hself hlt, Char.ofNat_toNat] at hdigit

/-- **Reading the bytes of a text comes to reading its characters.** -/
theorem readBytes?_utf8 (text : String) :
    readBytes? kind (Text.utf8 text) =
      some ((Id.parse? text.toList : Option (Id kind)).map Id.bytes) := by
  have hnone (h : ¬IsText kind text) : (Id.parse? text.toList : Option (Id kind)) = none :=
    Option.eq_none_iff_forall_ne_some.mpr fun _ hid => h (isText_of_parse? hid)
  have hread : readBytes? kind (Text.utf8 text) =
      some (if (Text.utf8 text).length = 2 * kind.width then
        Hex.toBytes? ((Text.utf8 text).map Hex.byteChar) else none) := by
    rw [readBytes?, apply_ite some]
    exact ite_congr rfl (fun hlength => Hex.readFrom?_append [] _ hlength) fun _ => rfl
  rw [hread]
  by_cases hdigits : Hex.IsTextOfEitherCase text
  · have hlength : (Text.utf8 text).length = text.length := by
      rw [← String.length_toList, ← map_utf8_of_digits hdigits, List.length_map]
    rw [map_utf8_of_digits hdigits, hlength]
    by_cases hcount : text.length = 2 * kind.width
    · have hform : IsText kind text := ⟨hcount, hdigits⟩
      obtain ⟨id, hid, hhex⟩ := hform.exists_parse
      have hlower : id.digits = text.toList.map Char.toLower := by
        simpa [hex, Text.asciiLower] using congrArg String.toList hhex
      rw [if_pos hcount, parse_eq_ok.mp hid, ← Hex.toBytes?_map_toLower hdigits, ← hlower,
        digits_eq_ofBytes, Hex.toBytes?_ofBytes, Option.map_some]
    · rw [if_neg hcount, hnone fun h => hcount h.1, Option.map_none]
  · have hbytes : Hex.toBytes? ((Text.utf8 text).map Hex.byteChar) = none :=
      Option.eq_none_iff_forall_ne_some.mpr fun _ hbytes =>
        hdigits (digits_of_map_utf8 (Hex.isDigitOfEitherCase_of_toBytes? hbytes))
    rw [hbytes, ite_self, hnone fun h => hdigits h.2, Option.map_none]

/-! ### Order -/

theorem compare_bytes (a b : Id kind) : compare a.bytes b.bytes = order a b := by
  rw [bytes, bytes, Bytes.compare_bigEndian, Nat.mod_eq_of_lt a.isLt, Nat.mod_eq_of_lt b.isLt, order]

theorem compareBytes_hex (a b : Id kind) : Text.compareBytes a.hex b.hex = order a b := by
  rw [Text.compareBytes, hex, hex, digits, digits, Hex.compare_utf8_word, capacity_eq,
    Nat.mod_eq_of_lt a.isLt, Nat.mod_eq_of_lt b.isLt, order]

/-- Ids that ascend are shown as texts that ascend. -/
theorem pairwise_map_hex {ids : List (Id kind)} (h : ids.Pairwise fun a b => order a b = .lt) :
    (ids.map hex).Pairwise fun s t => Text.compareBytes s t = .lt := by
  rw [List.pairwise_map]
  exact h.imp fun {a b} hlt => (compareBytes_hex a b).trans hlt

/-- **The texts of ids.**  Whatever the ids name, each is read back from the text it is shown as,
and a text is read exactly if it has as many hexadecimal digits, of either case, as ids of its kind
have; then it is shown as the same text in lower case, and any other text is named in the error.
Reading the bytes of a text by position comes to the same and never looks beyond the text, whatever
its characters.  Both printers, of the digits of bytes and of a number with zeros in front, show the
same.  Ids have the order of their bytes, and that of their texts, so that the keys of a table are
shown as ascending texts. -/
theorem text_of_kind (kind : IdKind) :
    (∀ id : Id kind, Id.parse id.hex = .ok id) ∧
    (∀ text, (∃ id : Id kind, Id.parse text = .ok id) ↔
      text.length = 2 * kind.width ∧ Hex.IsTextOfEitherCase text) ∧
    (∀ text, (Id.parse text : Except Error (Id kind)) =
        .error (.badRequest s!"invalid {kind.noun} '{text}'") ↔ ¬IsText kind text) ∧
    (∀ text, ∀ id : Id kind, Id.parse text = .ok id ↔
      IsText kind text ∧ id.hex = Text.asciiLower text) ∧
    (∀ text, readBytes? kind (Text.utf8 text) =
      some ((Id.parse? text.toList : Option (Id kind)).map Id.bytes)) ∧
    (∀ id : Id kind, id.digits = Hex.ofBytes id.bytes ∧
      id.digits = (Nat.toDigits 16 id.number).leftpad (2 * kind.width) '0') ∧
    (∀ a b : Id kind, compare a.bytes b.bytes = order a b ∧
      Text.compareBytes a.hex b.hex = order a b) ∧
    ∀ (α : Type) (table : Table (@order kind) α),
      (table.keys.map hex).Pairwise fun s t => Text.compareBytes s t = .lt := by
  refine ⟨parse_hex, fun text => ⟨?_, ?_⟩, fun text => parse_eq_error_iff,
    fun text id => parse_eq_ok_iff, readBytes?_utf8,
    fun id => ⟨digits_eq_ofBytes id, digits_eq_leftpad id⟩,
    fun a b => ⟨compare_bytes a b, compareBytes_hex a b⟩,
    fun α table => pairwise_map_hex table.ascending⟩
  · rintro ⟨id, hid⟩
    exact (parse_eq_ok_iff.mp hid).1
  · rintro ⟨hlength, hdigits⟩
    obtain ⟨id, hid, -⟩ := IsText.exists_parse ⟨hlength, hdigits⟩
    exact ⟨id, hid⟩

end Id

end Telemetry
