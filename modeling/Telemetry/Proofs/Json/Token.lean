import Telemetry.Json.Doc
import Telemetry.Proofs.Double.Literal

/-!
# Strings and numbers are read back

A string is read back from its literal as it was before it was escaped (`string?_literal`), and a
number from its text (`number?_unsignedText`) where no digit, point or exponent can follow.  After
a part of a document comes a comma, a closing bracket or nothing (`Ends`), so that is the case.
-/

namespace Telemetry

namespace Json

/-! ### Strings -/

theorem pieces_quote (rest : Input) : pieces (some '"' :: rest) = some ([], rest) := by
  rw [pieces.eq_def]
  rfl

theorem pieces_escape {e x : Char} (he : e ≠ 'u') (hx : escape? e = some x) (rest : Input) :
    pieces (some '\\' :: some e :: rest) =
      (pieces rest).map fun (ps, tail) => (.char x :: ps, tail) := by
  rw [pieces.eq_def]
  simp [he, hx]

theorem pieces_unit {a b c d : Char} {n : Nat} (h : Hex.number? [a, b, c, d] = some n)
    (rest : Input) :
    pieces (some '\\' :: some 'u' :: some a :: some b :: some c :: some d :: rest) =
      (pieces rest).map fun (ps, tail) => (.unit n :: ps, tail) := by
  rw [pieces.eq_def]
  simp [h]

theorem pieces_char {c : Char} (hquote : c ≠ '"') (hbackslash : c ≠ '\\')
    (hcontrol : ¬ c.toNat < 0x20) (rest : Input) :
    pieces (some c :: rest) = (pieces rest).map fun (ps, tail) => (.char c :: ps, tail) := by
  rw [pieces.eq_def]
  simp only [hquote, hbackslash, hcontrol, if_false]

theorem characters_unit {n : Nat} (h : n < 0xD800) (rest : List Piece) :
    characters (.unit n :: rest) = (characters rest).map (Char.ofNat n :: ·) := by
  rw [characters.eq_def]
  simp [h]

theorem number?_escape {n : Nat} (h : n < 0x20) :
    Hex.number? ['0', '0', (n / 16).digitChar, (n % 16).digitChar] = some n := by
  have hall : ∀ n < 0x20,
      Hex.number? ['0', '0', (n / 16).digitChar, (n % 16).digitChar] = some n := by decide
  exact hall n h

/-- The piece that the escaped form of a character is read as. -/
def pieceOf (c : Char) : Piece :=
  if c.toNat < 0x20 ∧ c ≠ '\r' ∧ c ≠ '\n' ∧ c ≠ '\t' then .unit c.toNat else .char c

/-- A character is read back as one piece, however it is escaped. -/
theorem pieces_escapedChar (c : Char) (rest : Input) :
    pieces ((Doc.escapedChar c).map some ++ rest) =
      (pieces rest).map fun (ps, tail) => (pieceOf c :: ps, tail) := by
  by_cases hquote : c = '"'
  · subst hquote
    exact pieces_escape (by decide) rfl rest
  by_cases hbackslash : c = '\\'
  · subst hbackslash
    exact pieces_escape (by decide) rfl rest
  by_cases hreturn : c = '\r'
  · subst hreturn
    exact pieces_escape (by decide) rfl rest
  by_cases hnewline : c = '\n'
  · subst hnewline
    exact pieces_escape (by decide) rfl rest
  by_cases htab : c = '\t'
  · subst htab
    exact pieces_escape (by decide) rfl rest
  by_cases hcontrol : c.toNat < 0x20
  · have hescaped : Doc.escapedChar c =
        ['\\', 'u', '0', '0', (c.toNat / 16).digitChar, (c.toNat % 16).digitChar] := by
      simp [Doc.escapedChar, *]
    have hpiece : pieceOf c = .unit c.toNat := by simp [pieceOf, *]
    rw [hescaped, hpiece]
    exact pieces_unit (number?_escape hcontrol) rest
  · have hescaped : Doc.escapedChar c = [c] := by simp [Doc.escapedChar, *]
    have hpiece : pieceOf c = .char c := by simp [pieceOf, *]
    rw [hescaped, hpiece]
    exact pieces_char hquote hbackslash hcontrol rest

theorem pieces_flatMap_escapedChar (s : List Char) (rest : Input) :
    pieces ((s.flatMap Doc.escapedChar).map some ++ rest) =
      (pieces rest).map fun (ps, tail) => (s.map pieceOf ++ ps, tail) := by
  induction s with
  | nil => simp
  | cons c s ih =>
    rw [List.flatMap_cons, List.map_append, List.append_assoc, pieces_escapedChar, ih,
      Option.map_map]
    rfl

theorem characters_map_pieceOf (s : List Char) : characters (s.map pieceOf) = some s := by
  induction s with
  | nil => rfl
  | cons c s ih =>
    rw [List.map_cons, pieceOf]
    split
    · rw [characters_unit (by omega), ih, Char.ofNat_toNat]
      rfl
    · rw [characters, ih]
      rfl

/-- **A string is read back as it was before it was escaped.** -/
theorem string?_literal (s : String) (rest : Input) :
    string? ((s.toList.flatMap Doc.escapedChar).map some ++ some '"' :: rest) =
      some (some s, rest) := by
  rw [string?, pieces_flatMap_escapedChar, pieces_quote]
  simp [characters_map_pieceOf, String.ofList_toList]

/-! ### Numbers -/

/-- The input does not go on with a digit. -/
def NoDigit (input : Input) : Prop :=
  ∀ c tail, input = some c :: tail → c.isDigit = false

/-- Nothing is left of the input, or a comma or a closing bracket comes next. -/
def Ends (input : Input) : Prop :=
  ∀ c tail, input = some c :: tail → c = ',' ∨ c = ']' ∨ c = '\x7d'

theorem NoDigit.cons {c : Char} (h : c.isDigit = false) (tail : Input) :
    NoDigit (some c :: tail) := by
  intro d rest heq
  obtain rfl := Option.some.inj (List.cons.inj heq).1
  exact h

theorem Ends.cons {c : Char} (h : c = ',' ∨ c = ']' ∨ c = '\x7d') (tail : Input) :
    Ends (some c :: tail) := by
  intro d rest heq
  obtain rfl := Option.some.inj (List.cons.inj heq).1
  exact h

theorem Ends.noDigit {input : Input} (h : Ends input) : NoDigit input := by
  intro c tail heq
  rcases h c tail heq with rfl | rfl | rfl <;> rfl

theorem isDigit_iff {c : Char} : c.isDigit = true ↔ '0' ≤ c ∧ c ≤ '9' := by
  simp [Char.isDigit, Char.le_def]

theorem digits_append {ds : List Char} (h : ∀ c ∈ ds, c.isDigit) {rest : Input}
    (hrest : NoDigit rest) : digits (ds.map some ++ rest) = (ds, rest) := by
  induction ds with
  | nil =>
    rw [List.map_nil, List.nil_append]
    unfold digits
    split
    · rename_i c tail
      rw [if_neg]
      rw [← isDigit_iff, hrest c tail rfl]
      exact Bool.false_ne_true
    · rfl
  | cons c ds ih =>
    have hc := isDigit_iff.mp (h c List.mem_cons_self)
    rw [List.map_cons, List.cons_append, digits, if_pos hc,
      ih fun d hd => h d (List.mem_cons_of_mem _ hd)]

theorem whole?_append {n : NumberLiteral} (h : n.IsProper) {rest : Input} (hrest : NoDigit rest) :
    whole? (n.whole.map some ++ rest) = some (n.whole, rest) := by
  rw [whole?, digits_append h.whole.2 hrest]
  have hne := h.whole.1
  have hzero := h.noLeadingZero
  split
  · simp_all
  · simp_all
  · simp_all

theorem fraction?_append {ds : List Char} (h : NumberLiteral.IsDigits ds) {rest : Input}
    (hrest : NoDigit rest) :
    fraction? (some '.' :: (ds.map some ++ rest)) = some (some ds, rest) := by
  obtain ⟨c, more, rfl⟩ := List.exists_cons_of_ne_nil h.1
  rw [fraction?, digits_append h.2 hrest]

theorem fraction?_eq_none {input : Input} (h : ∀ tail, input ≠ some '.' :: tail) :
    fraction? input = some (none, input) := by
  unfold fraction?
  split
  · exact absurd rfl (h _)
  · rfl

theorem exponentSign_cons (negative : Bool) (rest : Input) :
    exponentSign (some (if negative then '-' else '+') :: rest) = (negative, rest) := by
  cases negative <;> rfl

theorem exponent?_append {negative : Bool} {ds : List Char} (h : NumberLiteral.IsDigits ds)
    {rest : Input} (hrest : NoDigit rest) :
    exponent? (some 'e' :: some (if negative then '-' else '+') :: (ds.map some ++ rest)) =
      some (some (negative, ds), rest) := by
  obtain ⟨c, more, rfl⟩ := List.exists_cons_of_ne_nil h.1
  have hdigits := digits_append h.2 hrest
  unfold exponent?
  split
  case h_1 heq =>
    obtain rfl := (List.cons.inj heq).2
    simp only [exponentSign_cons, hdigits]
  all_goals simp_all

theorem exponent?_eq_none {input : Input} (h : Ends input) :
    exponent? input = some (none, input) := by
  unfold exponent?
  dsimp only
  split
  · exact absurd (h _ _ rfl) (by decide)
  · exact absurd (h _ _ rfl) (by decide)
  · rfl

theorem exponent?_exponentText {exponent : Option (Bool × List Char)}
    (h : ∀ negative digits, exponent = some (negative, digits) → NumberLiteral.IsDigits digits)
    {rest : Input} (hrest : Ends rest) :
    exponent? ((NumberLiteral.exponentText exponent).map some ++ rest) = some (exponent, rest) := by
  cases exponent with
  | none => exact exponent?_eq_none hrest
  | some e => exact exponent?_append (h _ _ rfl) hrest.noDigit

/-- What comes after the digits before an exponent. -/
theorem noDigit_exponentText (exponent : Option (Bool × List Char)) {rest : Input}
    (hrest : Ends rest) :
    NoDigit ((NumberLiteral.exponentText exponent).map some ++ rest) ∧
      ∀ tail, (NumberLiteral.exponentText exponent).map some ++ rest ≠ some '.' :: tail := by
  cases exponent with
  | none =>
    refine ⟨hrest.noDigit, fun tail heq => ?_⟩
    exact absurd (hrest _ _ heq) (by decide)
  | some e =>
    refine ⟨.cons (by decide) _, fun tail heq => ?_⟩
    exact absurd (Option.some.inj (List.cons.inj heq).1) (by decide)

/-- **A proper number literal is read back.** -/
theorem number?_unsignedText {n : NumberLiteral} (h : n.IsProper) {rest : Input}
    (hrest : Ends rest) :
    number? n.negative (n.unsignedText.map some ++ rest) = some (.number n, rest) := by
  obtain ⟨hexponent, hpoint⟩ := noDigit_exponentText n.exponent hrest
  -- what is read after the digits before the point
  have hfraction : fraction? ((NumberLiteral.fractionText n.fraction).map some ++
      ((NumberLiteral.exponentText n.exponent).map some ++ rest)) =
      some (n.fraction, (NumberLiteral.exponentText n.exponent).map some ++ rest) ∧
      NoDigit ((NumberLiteral.fractionText n.fraction).map some ++
        ((NumberLiteral.exponentText n.exponent).map some ++ rest)) := by
    cases hcase : n.fraction with
    | none => exact ⟨fraction?_eq_none hpoint, hexponent⟩
    | some ds => exact ⟨fraction?_append (h.fraction ds hcase) hexponent, .cons (by decide) _⟩
  rw [NumberLiteral.unsignedText, List.map_append, List.map_append, List.append_assoc,
    List.append_assoc, number?, whole?_append h hfraction.2]
  simp only [Option.bind_eq_bind, Option.bind_some, hfraction.1,
    exponent?_exponentText h.exponent hrest]

end Json

end Telemetry
