import Mathlib.Data.List.Forall2
import Telemetry.Proofs.Json.Token

/-!
# Documents are read back

The text of a document is a JSON text, and a reader of JSON finds in it the tree of the document
(`readChars?_text`): the members under the names they are written with, and every string as it was
before it was escaped.  `Reads text value` says this of one part of a text.  It holds of arrays and
objects if it holds of their items and members, whatever these texts are.
-/

namespace Telemetry

namespace Json

/-! ### Values -/

theorem skipSpace_cons {c : Char} (h : isSpace c = false) (rest : Input) :
    skipSpace (some c :: rest) = some c :: rest := by
  simp [skipSpace, h]

/-- The text is one of the value: it is read back before a comma, a closing bracket or nothing, and
two steps for each of its characters are enough. -/
structure Reads (text : List Char) (value : Json) : Prop where
  /-- The text is not empty and cannot be taken for the end of an array. -/
  starts : ∃ c tail, text = c :: tail ∧ isSpace c = false ∧ c ≠ ']'
  read : ∀ fuel rest, 2 * text.length ≤ fuel → Ends rest →
    value? fuel (text.map some ++ rest) = some (value, rest)

/-- The first step of reading a value goes by the first character. -/
theorem reads_cons {c : Char} {tail : List Char} {value : Json} (hspace : isSpace c = false)
    (hbracket : c ≠ ']')
    (h : ∀ fuel rest, 2 * tail.length < fuel → Ends rest →
      value? (fuel + 1) (some c :: (tail.map some ++ rest)) = some (value, rest)) :
    Reads (c :: tail) value where
  starts := ⟨c, tail, rfl, hspace, hbracket⟩
  read fuel rest hfuel hrest := by
    rw [List.length_cons] at hfuel
    cases fuel with
    | zero => omega
    | succ fuel => exact h fuel rest (by omega) hrest

theorem reads_bool (b : Bool) : Reads (Doc.bool b).text (.bool b) := by
  cases b with
  | true =>
    refine reads_cons (by decide) (by decide) fun fuel rest _ _ => ?_
    rw [value?, skipSpace_cons (by decide)]
    simp [word?]
  | false =>
    refine reads_cons (by decide) (by decide) fun fuel rest _ _ => ?_
    rw [value?, skipSpace_cons (by decide)]
    simp [word?]

theorem reads_literal (s : String) : Reads (Doc.literal s.toList) (.string (some s)) := by
  have hcons : Doc.literal s.toList = '"' :: (s.toList.flatMap Doc.escapedChar ++ ['"']) := rfl
  rw [hcons]
  refine reads_cons (by decide) (by decide) fun fuel rest _ _ => ?_
  rw [value?, skipSpace_cons (by decide), List.map_append, List.append_assoc]
  change (string? (_ ++ some '"' :: rest)).map _ = _
  rw [string?_literal]
  rfl

theorem isSpace_of_isDigit {c : Char} (h : c.isDigit = true) : isSpace c = false := by
  cases hcase : isSpace c with
  | false => rfl
  | true =>
    simp only [isSpace, Bool.or_eq_true, beq_iff_eq] at hcase
    rcases hcase with ((rfl | rfl) | rfl) | rfl <;> cases h

/-- A digit begins a number. -/
theorem value?_of_isDigit {c : Char} (h : c.isDigit = true) (fuel : Nat) (rest : Input) :
    value? (fuel + 1) (some c :: rest) = number? false (some c :: rest) := by
  rw [value?, skipSpace_cons (isSpace_of_isDigit h)]
  split <;> simp_all

theorem reads_number {n : NumberLiteral} (h : n.IsProper) : Reads n.text (.number n) := by
  rw [NumberLiteral.text]
  cases hsign : n.negative with
  | true =>
    refine reads_cons (by decide) (by decide) fun fuel rest _ hrest => ?_
    rw [value?, skipSpace_cons (by decide)]
    have hnumber := number?_unsignedText h hrest
    rw [hsign] at hnumber
    exact hnumber
  | false =>
    obtain ⟨c, digits, hwhole⟩ := List.exists_cons_of_ne_nil h.whole.1
    have hc : c.isDigit = true := h.whole.2 c (by rw [hwhole]; exact List.mem_cons_self)
    have hbracket : c ≠ ']' := by
      rintro rfl
      cases hc
    have hcons : n.unsignedText = c :: (digits ++ NumberLiteral.fractionText n.fraction ++
        NumberLiteral.exponentText n.exponent) := by
      rw [NumberLiteral.unsignedText, hwhole]
      rfl
    rw [if_neg Bool.false_ne_true, List.nil_append, hcons]
    refine reads_cons (isSpace_of_isDigit hc) hbracket fun fuel rest _ hrest => ?_
    have hnumber := number?_unsignedText h hrest
    rw [hsign, hcons] at hnumber
    rw [value?_of_isDigit hc]
    exact hnumber

/-! ### Arrays and objects -/

/-- The text is one of a member: a string literal and, after a colon, a text of the value. -/
def ReadsMember (text : List Char) (member : Option String × Json) : Prop :=
  ∃ name value, text = Doc.memberText (Doc.literal name.toList) value ∧
    member.1 = some name ∧ Reads value member.2

theorem withCommas_cons {text : List Char} {more : List (List Char)} (h : more ≠ []) :
    Doc.withCommas (text :: more) = text ++ ',' :: Doc.withCommas more := by
  cases more with
  | nil => exact absurd rfl h
  | cons next more => rfl

theorem withCommas_concat {texts : List (List Char)} (h : texts ≠ []) (text : List Char) :
    Doc.withCommas (texts ++ [text]) = Doc.withCommas texts ++ ',' :: text := by
  induction texts with
  | nil => exact absurd rfl h
  | cons first more ih =>
    by_cases hmore : more = []
    · subst hmore
      rfl
    · rw [List.cons_append, withCommas_cons (List.append_ne_nil_of_left_ne_nil hmore _),
        withCommas_cons hmore, ih hmore, List.append_assoc, List.cons_append]

theorem items?_withCommas {texts : List (List Char)} {values : List Json}
    (h : List.Forall₂ Reads texts values) (hne : texts ≠ []) (fuel : Nat)
    (hfuel : 2 * (Doc.withCommas texts).length < fuel) (rest : Input) :
    items? fuel ((Doc.withCommas texts).map some ++ some ']' :: rest) = some (values, rest) := by
  induction h generalizing fuel with
  | nil => exact absurd rfl hne
  | @cons text value texts values hread hmore ih =>
    cases fuel with
    | zero => omega
    | succ fuel =>
      by_cases hlast : texts = []
      · subst hlast
        cases hmore
        have hvalue := hread.read fuel (some ']' :: rest) (by
          rw [Doc.withCommas] at hfuel
          omega) (.cons (by decide) _)
        rw [Doc.withCommas, items?, hvalue]
        simp only [Option.bind_eq_bind, Option.bind_some,
          skipSpace_cons (show isSpace ']' = false by decide)]
      · rw [withCommas_cons hlast, List.length_append, List.length_cons] at hfuel
        have hvalue := hread.read fuel
          (some ',' :: ((Doc.withCommas texts).map some ++ some ']' :: rest)) (by omega)
          (.cons (by decide) _)
        have hitems := ih hlast fuel (by omega)
        rw [withCommas_cons hlast, List.map_append, List.map_cons, List.append_assoc,
          List.cons_append, items?, hvalue]
        simp only [Option.bind_eq_bind, Option.bind_some,
          skipSpace_cons (show isSpace ',' = false by decide), hitems]

/-- A member is read up to what follows it. -/
theorem members?_memberText (name : String) {text : List Char} {value : Json}
    (h : Reads text value) (fuel : Nat) (hfuel : 2 * text.length ≤ fuel) {rest : Input}
    (hrest : Ends rest) :
    members? (fuel + 1) ((Doc.memberText (Doc.literal name.toList) text).map some ++ rest) =
      match skipSpace rest with
      | some ',' :: rest => do
        let (members, rest) ← members? fuel rest
        some ((some name, value) :: members, rest)
      | some '\x7d' :: rest => some ([(some name, value)], rest)
      | _ => none := by
  have hcons : (Doc.memberText (Doc.literal name.toList) text).map some ++ rest =
      some '"' :: ((name.toList.flatMap Doc.escapedChar).map some ++
        some '"' :: some ':' :: (text.map some ++ rest)) := by
    simp [Doc.memberText, Doc.literal]
  rw [hcons, members?, skipSpace_cons (by decide)]
  change (string? _).bind _ = _
  rw [string?_literal, Option.bind_some]
  dsimp only
  rw [skipSpace_cons (by decide)]
  change (value? _ _).bind _ = _
  rw [h.read fuel rest hfuel hrest]
  rfl

theorem members?_withCommas {texts : List (List Char)} {members : List (Option String × Json)}
    (h : List.Forall₂ ReadsMember texts members) (hne : texts ≠ []) (fuel : Nat)
    (hfuel : 2 * (Doc.withCommas texts).length < fuel) (rest : Input) :
    members? fuel ((Doc.withCommas texts).map some ++ some '\x7d' :: rest) =
      some (members, rest) := by
  induction h generalizing fuel with
  | nil => exact absurd rfl hne
  | @cons text member texts members hread hmore ih =>
    obtain ⟨name, text, rfl, hname, hread⟩ := hread
    have hlength : text.length ≤ (Doc.memberText (Doc.literal name.toList) text).length := by
      rw [Doc.memberText, List.length_append, List.length_cons]
      omega
    cases fuel with
    | zero => omega
    | succ fuel =>
      by_cases hlast : texts = []
      · subst hlast
        cases hmore
        rw [Doc.withCommas] at hfuel
        rw [Doc.withCommas, members?_memberText name hread fuel (by omega) (.cons (by decide) _),
          skipSpace_cons (by decide), ← hname]
        rfl
      · rw [withCommas_cons hlast, List.length_append, List.length_cons] at hfuel
        have hmembers := ih hlast fuel (by omega)
        rw [withCommas_cons hlast, List.map_append, List.map_cons, List.append_assoc,
          List.cons_append, members?_memberText name hread fuel (by omega) (.cons (by decide) _),
          skipSpace_cons (by decide), ← hname]
        change (members? _ _).bind _ = _
        rw [hmembers]
        rfl

/-- The first character of texts with commas between them is that of the first text. -/
theorem exists_withCommas (c : Char) (tail : List Char) (more : List (List Char)) :
    ∃ rest, Doc.withCommas ((c :: tail) :: more) = c :: rest := by
  cases more with
  | nil => exact ⟨tail, rfl⟩
  | cons next more => exact ⟨tail ++ ',' :: Doc.withCommas (next :: more), rfl⟩

theorem value?_bracket {c : Char} (hspace : isSpace c = false) (hbracket : c ≠ ']') (fuel : Nat)
    (rest : Input) :
    value? (fuel + 1) (some '[' :: some c :: rest) =
      (items? fuel (some c :: rest)).map fun (values, rest) => (.array values, rest) := by
  rw [value?, skipSpace_cons (by decide)]
  split
  case h_2 heq =>
    obtain rfl := (List.cons.inj heq).2
    rw [skipSpace_cons hspace]
    split
    · rename_i hcons
      exact absurd (Option.some.inj (List.cons.inj hcons).1) hbracket
    · rfl
  all_goals simp_all

theorem value?_brace (fuel : Nat) (rest : Input) :
    value? (fuel + 1) (some '\x7b' :: some '"' :: rest) =
      (members? fuel (some '"' :: rest)).map fun (members, rest) => (.object members, rest) := by
  rw [value?, skipSpace_cons (by decide)]
  rfl

theorem reads_array {texts : List (List Char)} {values : List Json}
    (h : List.Forall₂ Reads texts values) :
    Reads ('[' :: Doc.withCommas texts ++ [']']) (.array values) := by
  rw [List.cons_append]
  refine reads_cons (by decide) (by decide) fun fuel rest hfuel _ => ?_
  rw [List.length_append, List.length_singleton] at hfuel
  rw [List.map_append, List.append_assoc]
  cases h with
  | nil => rfl
  | @cons text value texts values hread hmore =>
    have hitems := items?_withCommas (.cons hread hmore) (List.cons_ne_nil _ _) fuel (by omega) rest
    obtain ⟨c, tail, rfl, hspace, hbracket⟩ := hread.starts
    obtain ⟨more, hcons⟩ := exists_withCommas c tail texts
    rw [hcons, List.map_cons, List.cons_append] at hitems ⊢
    rw [value?_bracket hspace hbracket]
    exact congrArg (Option.map _) hitems

theorem reads_object {texts : List (List Char)} {members : List (Option String × Json)}
    (h : List.Forall₂ ReadsMember texts members) :
    Reads (Doc.objectText texts) (.object members) := by
  rw [Doc.objectText, List.cons_append]
  refine reads_cons (by decide) (by decide) fun fuel rest hfuel _ => ?_
  rw [List.length_append, List.length_singleton] at hfuel
  rw [List.map_append, List.append_assoc]
  cases h with
  | nil => rfl
  | @cons text member texts members hread hmore =>
    have hmembers := members?_withCommas (.cons hread hmore) (List.cons_ne_nil _ _) fuel
      (by omega) rest
    obtain ⟨name, value, rfl, -, -⟩ := hread
    obtain ⟨more, hcons⟩ := exists_withCommas '"'
      (name.toList.flatMap Doc.escapedChar ++ ['"'] ++ ':' :: value) texts
    rw [show Doc.memberText (Doc.literal name.toList) value = '"' ::
      (name.toList.flatMap Doc.escapedChar ++ ['"'] ++ ':' :: value) from rfl] at hmembers ⊢
    rw [hcons, List.map_cons, List.cons_append] at hmembers ⊢
    rw [value?_brace]
    exact congrArg (Option.map _) hmembers

/-- **A text of a value is read whole.** -/
theorem Reads.readChars? {text : List Char} {value : Json} (h : Reads text value) :
    readChars? (text.map some) = some value := by
  have hread := h.read (2 * (text.map some).length + 2) [] (by rw [List.length_map]; omega)
    (fun c tail heq => absurd heq (List.cons_ne_nil _ _).symm)
  rw [List.append_nil] at hread
  rw [Json.readChars?, hread]
  rfl

end Json

namespace Doc

/-- What is written without escapes needs none. -/
def IsPlain (s : String) : Prop :=
  ∀ c ∈ s.toList, c ≠ '"' ∧ c ≠ '\\' ∧ 0x20 ≤ c.toNat

instance (s : String) : Decidable (IsPlain s) :=
  List.decidableBAll (fun c => c ≠ '"' ∧ c ≠ '\\' ∧ 0x20 ≤ c.toNat) s.toList

theorem verbatim_eq_literal {s : String} (h : IsPlain s) : verbatim s = literal s.toList := by
  have hescaped : ∀ c ∈ s.toList, escapedChar c = [c] := by
    intro c hc
    obtain ⟨hquote, hbackslash, hcontrol⟩ := h c hc
    have hreturn : c ≠ '\r' := by
      rintro rfl
      exact absurd hcontrol (by decide)
    have hnewline : c ≠ '\n' := by
      rintro rfl
      exact absurd hcontrol (by decide)
    have htab : c ≠ '\t' := by
      rintro rfl
      exact absurd hcontrol (by decide)
    simp [escapedChar, *]
  have hsame : s.toList.flatMap escapedChar = s.toList := by
    rw [List.flatMap_congr hescaped, List.flatMap_singleton']
  rw [verbatim, literal, hsame]

mutual

/-- Tags and what stands under them are plain, at any depth. -/
def HasPlainTags : Doc → Prop
  | .tagged parts => ∀ part ∈ parts, IsPlain part.1 ∧ IsPlain part.2
  | .array items => ItemsHavePlainTags items
  | .map members => MembersHavePlainTags members
  | _ => True

/-- Every item has plain tags. -/
def ItemsHavePlainTags : List Doc → Prop
  | [] => True
  | item :: more => HasPlainTags item ∧ ItemsHavePlainTags more

/-- Every member has plain tags. -/
def MembersHavePlainTags : List (String × Doc) → Prop
  | [] => True
  | (_, doc) :: more => HasPlainTags doc ∧ MembersHavePlainTags more

end

/-- The name that is written in place of a double that is no number. -/
def doubleName? (x : Double) : Option String :=
  if x.isNaN then some "NaN"
  else if x.isInfinite then some (if x.isNegative then "-Inf" else "+Inf")
  else none

/-- What a double is read back as. -/
def doubleTree (x : Double) : Json :=
  match doubleName? x with
  | some name => .string (some name)
  | none => .number x.literal

/-- What a part of a tagged object is read back as. -/
def partTree (part : String × String) : Option String × Json :=
  (some part.1, .string (some part.2))

mutual

/-- The tree of a document. -/
def tree : Doc → Json
  | .bool b => .bool b
  | .double x => doubleTree x
  | .string s => .string (some s)
  | .tagged parts => .object (parts.map partTree)
  | .array items => .array (itemTrees items)
  | .map members => .object (memberTrees members)

/-- The trees of the items of an array. -/
def itemTrees : List Doc → List Json
  | [] => []
  | item :: more => tree item :: itemTrees more

/-- The members of an object under the names they are written with. -/
def memberTrees : List (String × Doc) → List (Option String × Json)
  | [] => []
  | (name, doc) :: more =>
    (some (String.ofList (escapedName name.toList)), tree doc) :: memberTrees more

end

theorem doubleText_of_doubleName? {x : Double} {name : String} (h : doubleName? x = some name) :
    doubleText x = literal name.toList := by
  have hplain : ∀ word ∈ ["NaN", "-Inf", "+Inf"], IsPlain word := by decide
  unfold doubleName? at h
  unfold doubleText
  split_ifs at h ⊢ <;> cases h
  · exact verbatim_eq_literal (hplain _ (by decide))
  · exact verbatim_eq_literal (hplain _ (by decide))
  · exact verbatim_eq_literal (hplain _ (by decide))

theorem doubleText_of_doubleName?_eq_none {x : Double} (h : doubleName? x = none) :
    doubleText x = x.finiteText := by
  unfold doubleName? at h
  unfold doubleText
  split_ifs at h ⊢
  rfl

/-- A double without a name is finite. -/
theorem isFinite_of_doubleName?_eq_none {x : Double} (h : doubleName? x = none) : x.IsFinite := by
  unfold doubleName? at h
  split_ifs at h with hnan hinfinite
  simp only [Double.isNaN, Double.isInfinite, Bool.and_eq_true, beq_iff_eq, bne_iff_ne]
    at hnan hinfinite
  intro hbits
  by_cases hfraction : x.fractionBits = 0
  · exact hinfinite ⟨hbits, hfraction⟩
  · exact hnan ⟨hbits, hfraction⟩

theorem reads_doubleText (x : Double) : Json.Reads (doubleText x) (doubleTree x) := by
  unfold doubleTree
  split
  · rename_i name hname
    rw [doubleText_of_doubleName? hname]
    exact Json.reads_literal name
  · rename_i hnone
    rw [doubleText_of_doubleName?_eq_none hnone, ← Double.text_literal]
    exact Json.reads_number (Double.isProper_literal x)

theorem readsMember_part {part : String × String} (htag : IsPlain part.1)
    (hbody : IsPlain part.2) :
    Json.ReadsMember (memberText (verbatim part.1) (verbatim part.2)) (partTree part) := by
  rw [verbatim_eq_literal htag, verbatim_eq_literal hbody]
  exact ⟨part.1, literal part.2.toList, rfl, rfl, Json.reads_literal part.2⟩

theorem readsMember_escapedName (name : String) {text : List Char} {value : Json}
    (h : Json.Reads text value) :
    Json.ReadsMember (memberText (literal (escapedName name.toList)) text)
      (some (String.ofList (escapedName name.toList)), value) := by
  refine ⟨String.ofList (escapedName name.toList), text, ?_, rfl, h⟩
  rw [String.toList_ofList]

mutual

/-- The text of a document is one of its tree. -/
theorem reads_text : ∀ {doc : Doc}, doc.HasPlainTags → Json.Reads doc.text doc.tree
  | .bool b, _ => Json.reads_bool b
  | .double x, _ => reads_doubleText x
  | .string s, _ => Json.reads_literal s
  | .tagged parts, h => by
    refine Json.reads_object (List.forall₂_map_left_iff.mpr (List.forall₂_map_right_iff.mpr ?_))
    exact List.forall₂_same.mpr fun part hpart => readsMember_part (h part hpart).1 (h part hpart).2
  | .array _, h => Json.reads_array (reads_itemTexts h)
  | .map _, h => Json.reads_object (readsMember_memberTexts h)

theorem reads_itemTexts : ∀ {items : List Doc}, ItemsHavePlainTags items →
    List.Forall₂ Json.Reads (itemTexts items) (itemTrees items)
  | [], _ => .nil
  | _ :: _, h => .cons (reads_text h.1) (reads_itemTexts h.2)

theorem readsMember_memberTexts : ∀ {members : List (String × Doc)},
    MembersHavePlainTags members →
      List.Forall₂ Json.ReadsMember (memberTexts members) (memberTrees members)
  | [], _ => .nil
  | (name, _) :: _, h =>
    .cons (readsMember_escapedName name (reads_text h.1)) (readsMember_memberTexts h.2)

end

/-- **A document is read back from its text.** -/
theorem readChars?_text {doc : Doc} (h : doc.HasPlainTags) :
    Json.readChars? (doc.text.map some) = some doc.tree :=
  (reads_text h).readChars?

end Doc

end Telemetry
