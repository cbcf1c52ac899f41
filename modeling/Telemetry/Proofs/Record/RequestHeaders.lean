import Telemetry.Proofs.Record.Faithful

/-!
# Request metadata is a normal form of headers

Headers are kept under their names in lower case, the values of one name in order of arrival, and
the length of the body is left out (`Headers.get?_ofList`).  So two lists of headers have one normal
form exactly if they agree: every name but `content-length` has the same values in the same order,
whatever the case of the names and whatever stands between them (`Headers.ofList_eq_iff`).

What that means for a single header is an equivalence each: leaving it out is not noticed exactly if
it gives the length of the body (`Headers.agree_insert_iff`), giving it another name exactly if the
name differs by case only (`Headers.agree_rename_iff`), and moving it past the next one exactly if
their names differ or their values do not (`Headers.agree_swap_iff`).  The main statement is
`RequestMeta.normal_form_of_headers`.
-/

namespace Telemetry

namespace Text

theorem sameIgnoringCase_iff {s t : String} :
    sameIgnoringCase s t = true ↔ asciiLower s = asciiLower t :=
  beq_iff_eq

theorem toLower_toLower (c : Char) : c.toLower.toLower = c.toLower := by
  by_cases hupper : c.val ≥ 'A'.val ∧ c.val ≤ 'Z'.val
  · have hlower : c.toLower.val = c.val + ('a'.val - 'A'.val) :=
      congrArg Char.val (dif_pos hupper)
    have hfirst : 65 ≤ c.toNat := UInt32.le_iff_toNat_le.mp hupper.1
    have hlast : c.toNat ≤ 90 := UInt32.le_iff_toNat_le.mp hupper.2
    have habove : ¬(c.toLower.val ≥ 'A'.val ∧ c.toLower.val ≤ 'Z'.val) := by
      rintro ⟨-, hle⟩
      rw [UInt32.le_iff_toNat_le, hlower, UInt32.toNat_add] at hle
      change (c.toNat + 32) % 2 ^ 32 ≤ 90 at hle
      omega
    exact dif_neg habove
  · have hself : c.toLower = c := dif_neg hupper
    rw [hself, hself]

/-- What is lower-case stays as it is. -/
theorem asciiLower_asciiLower (s : String) : asciiLower (asciiLower s) = asciiLower s := by
  rw [asciiLower, asciiLower, String.toList_ofList, List.map_map]
  congr 1
  exact List.map_congr_left fun c _ => toLower_toLower c

end Text

namespace Headers

/-- The values of the headers with a name in any case, in order of arrival. -/
def valuesOf (name : String) (headers : List (String × String)) : List String :=
  (headers.filter fun header => Text.sameIgnoringCase header.1 name).map Prod.snd

/-- The header gives the length of the body. -/
def IsLength (header : String × String) : Prop :=
  Text.sameIgnoringCase header.1 "content-length" = true

/-- Values are kept under the name: it is lower-case, and not that of the length of the body. -/
def IsKept (name : String) : Prop :=
  Text.asciiLower name = name ∧ name ≠ "content-length"

instance (name : String) : Decidable (IsKept name) :=
  inferInstanceAs (Decidable (_ ∧ _))

/-- The headers have the same values in the same order under every name that is kept. -/
def Agree (headers others : List (String × String)) : Prop :=
  ∀ name, IsKept name → valuesOf name headers = valuesOf name others

/-! ### What is stored under a name -/

section Stored

variable (headers : List (String × String))

/-- Headers as they are put into the table, under lower-case names and without the length. -/
def named : List (String × String) :=
  (headers.map fun header => (Text.asciiLower header.1, header.2)).filter fun header =>
    header.1 != "content-length"

theorem isKept_of_mem_named {header : String × String} (h : header ∈ named headers) :
    IsKept header.1 := by
  rw [named, List.mem_filter, List.mem_map] at h
  obtain ⟨⟨header, -, rfl⟩, hlength⟩ := h
  exact ⟨Text.asciiLower_asciiLower header.1, bne_iff_ne.mp hlength⟩

/-- The headers that are put under a name are those that have it in any case. -/
theorem map_filter_named {name : String} (h : IsKept name) :
    ((named headers).filter fun header => header.1 = name).map Prod.snd =
      valuesOf name headers := by
  obtain ⟨hlower, hne⟩ := h
  have hsame (header : String × String) :
      (decide (Text.asciiLower header.1 = name) && (Text.asciiLower header.1 != "content-length")) =
        Text.sameIgnoringCase header.1 name := by
    rw [Bool.eq_iff_iff, Text.sameIgnoringCase_iff, hlower, Bool.and_eq_true, decide_eq_true_iff,
      bne_iff_ne]
    exact ⟨And.left, fun heq => ⟨heq, heq ▸ hne⟩⟩
  rw [valuesOf, named, List.filter_filter, List.filter_map, List.map_map]
  exact congrArg (List.map Prod.snd) (List.filter_congr fun header _ => hsame header)

/-- Values that are put under one name stand behind each other. -/
theorem foldl_append_values (own : List (String × String)) (before : List String) :
    own.foldl (fun old header => some (Option.getD old [] ++ [header.2])) (some before) =
      some (before ++ own.map Prod.snd) := by
  induction own generalizing before with
  | nil => simp
  | cons header own ih =>
    rw [List.foldl_cons, Option.getD_some, ih, List.append_assoc, List.map_cons,
      List.singleton_append]

/-- **A stored name has all values of the headers with that name**, and a name without any is not
stored. -/
theorem get?_ofList (name : String) :
    (ofList headers).get? name =
      if IsKept name ∧ valuesOf name headers ≠ [] then some (valuesOf name headers) else none := by
  have hget : (ofList headers).get? name =
      ((named headers).filter fun header => header.1 = name).foldl
        (fun old header => some (Option.getD old [] ++ [header.2])) none :=
    Table.get?_ofPairs (fun value old => Option.getD old [] ++ [value]) (named headers) name
  rw [hget]
  by_cases hkept : IsKept name
  · rw [← map_filter_named headers hkept]
    cases (named headers).filter fun header => header.1 = name with
    | nil => simp
    | cons header own =>
      rw [List.foldl_cons, Option.getD_none, List.nil_append, foldl_append_values]
      simp [hkept]
  · have hnone : ((named headers).filter fun header => header.1 = name) = [] := by
      rw [List.filter_eq_nil_iff]
      intro header hheader hname
      exact hkept (of_decide_eq_true hname ▸ isKept_of_mem_named headers hheader)
    rw [hnone, if_neg fun h => hkept h.1]
    rfl

theorem getD_get?_ofList {name : String} (h : IsKept name) :
    ((ofList headers).get? name).getD [] = valuesOf name headers := by
  rw [get?_ofList]
  by_cases hvalues : valuesOf name headers = [] <;> simp [h, hvalues]

/-- **Headers have one normal form exactly if they agree.** -/
theorem ofList_eq_iff (others : List (String × String)) :
    ofList headers = ofList others ↔ Agree headers others := by
  constructor
  · intro h name hkept
    rw [← getD_get?_ofList headers hkept, h, getD_get?_ofList others hkept]
  · intro h
    apply Table.ext
    intro name
    rw [get?_ofList, get?_ofList]
    by_cases hkept : IsKept name
    · rw [h name hkept]
    · rw [if_neg fun h => hkept h.1, if_neg fun h => hkept h.1]

end Stored

/-! ### Single headers -/

section Single

variable (front back : List (String × String))

theorem valuesOf_append (name : String) :
    valuesOf name (front ++ back) = valuesOf name front ++ valuesOf name back := by
  rw [valuesOf, List.filter_append, List.map_append, valuesOf, valuesOf]

theorem valuesOf_cons (name : String) (header : String × String) :
    valuesOf name (header :: back) =
      if Text.asciiLower header.1 = Text.asciiLower name then header.2 :: valuesOf name back
      else valuesOf name back := by
  rw [valuesOf, List.filter_cons]
  by_cases hsame : Text.sameIgnoringCase header.1 name = true
  · rw [if_pos hsame, if_pos (Text.sameIgnoringCase_iff.mp hsame), List.map_cons, valuesOf]
  · rw [if_neg hsame, if_neg (mt Text.sameIgnoringCase_iff.mpr hsame), valuesOf]

/-- Where a header is put among others does not matter to names that it does not have. -/
theorem valuesOf_insert_of_ne {name : String} {header : String × String}
    (h : Text.asciiLower header.1 ≠ Text.asciiLower name) :
    valuesOf name (front ++ header :: back) = valuesOf name (front ++ back) := by
  rw [valuesOf_append, valuesOf_cons, if_neg h, valuesOf_append]

/-- A header is one more value of its name. -/
theorem length_valuesOf_insert {name : String} {header : String × String}
    (h : Text.asciiLower header.1 = Text.asciiLower name) :
    (valuesOf name (front ++ header :: back)).length = (valuesOf name (front ++ back)).length + 1 := by
  rw [valuesOf_append, valuesOf_cons, if_pos h, valuesOf_append, List.length_append,
    List.length_append, List.length_cons, Nat.add_assoc]

/-- A header that does not give the length of the body is kept under its name in lower case. -/
theorem isKept_asciiLower (header : String × String) (h : ¬IsLength header) :
    IsKept (Text.asciiLower header.1) :=
  ⟨Text.asciiLower_asciiLower header.1, fun hlength => h (Text.sameIgnoringCase_iff.mpr hlength)⟩

/-- A header that gives the length of the body is kept under no name. -/
theorem IsLength.ne_of_isKept {name : String} {header : String × String} (h : IsLength header)
    (hkept : IsKept name) : Text.asciiLower header.1 ≠ Text.asciiLower name := by
  intro hsame
  have hlength : Text.asciiLower header.1 = "content-length" := Text.sameIgnoringCase_iff.mp h
  exact hkept.2 (by rw [← hkept.1, ← hsame, hlength])

/-- **A header more or less is noticed, unless it gives the length of the body.** -/
theorem agree_insert_iff (header : String × String) :
    Agree (front ++ header :: back) (front ++ back) ↔ IsLength header := by
  constructor
  · intro h
    by_contra hlength
    have hvalues := h _ (isKept_asciiLower _ hlength)
    have hcount := length_valuesOf_insert front back (Text.asciiLower_asciiLower header.1).symm
    rw [hvalues] at hcount
    omega
  · intro hlength name hkept
    exact valuesOf_insert_of_ne front back (hlength.ne_of_isKept hkept)

/-- A header that does not give the length of the body is missed under its name if it gets another
one. -/
theorem not_agree_rename {name other value : String} (hlength : ¬IsLength (name, value))
    (hne : Text.asciiLower other ≠ Text.asciiLower name) :
    ¬Agree (front ++ (name, value) :: back) (front ++ (other, value) :: back) := by
  intro h
  obtain ⟨lower, hlower⟩ : ∃ lower, lower = Text.asciiLower name := ⟨_, rfl⟩
  have hkept : IsKept lower := hlower ▸ isKept_asciiLower (name, value) hlength
  have hcount : (valuesOf lower (front ++ (name, value) :: back)).length =
      (valuesOf lower (front ++ back)).length + 1 :=
    length_valuesOf_insert front back (by rw [hkept.1, hlower])
  have hmissing : valuesOf lower (front ++ (other, value) :: back) = valuesOf lower (front ++ back) :=
    valuesOf_insert_of_ne front back (by rwa [hkept.1, hlower])
  rw [h lower hkept, hmissing] at hcount
  omega

/-- **Another name for a header is noticed, unless it differs by case only.** -/
theorem agree_rename_iff (name other value : String) :
    Agree (front ++ (name, value) :: back) (front ++ (other, value) :: back) ↔
      Text.sameIgnoringCase name other = true := by
  rw [Text.sameIgnoringCase_iff]
  constructor
  · intro h
    by_contra hne
    -- at most one of the two names is that of the length
    by_cases hlength : IsLength (name, value)
    · have hother : ¬IsLength (other, value) := fun hother =>
        hne ((Text.sameIgnoringCase_iff.mp hlength).trans (Text.sameIgnoringCase_iff.mp hother).symm)
      exact not_agree_rename front back hother hne fun kept hkept => (h kept hkept).symm
    · exact not_agree_rename front back hlength (Ne.symm hne) h
  · intro hsame kept _
    rw [valuesOf_append, valuesOf_append, valuesOf_cons, valuesOf_cons, hsame]

/-- **The order of two headers is noticed if they share a name and have different values**, and no
other order is. -/
theorem agree_swap_iff (first second : String × String) :
    Agree (front ++ first :: second :: back) (front ++ second :: first :: back) ↔
      Text.sameIgnoringCase first.1 second.1 = false ∨ first.2 = second.2 ∨ IsLength first := by
  rw [Bool.eq_false_iff, ne_eq, Text.sameIgnoringCase_iff]
  constructor
  · intro h
    by_contra hnone
    obtain ⟨hsame, hvalue, hlength⟩ : Text.asciiLower first.1 = Text.asciiLower second.1 ∧
        first.2 ≠ second.2 ∧ ¬IsLength first := by
      simpa [not_or] using hnone
    have hlower := Text.asciiLower_asciiLower first.1
    have hvalues := h _ (isKept_asciiLower _ hlength)
    simp only [valuesOf_append, valuesOf_cons, hlower, ← hsame, if_true] at hvalues
    exact hvalue (List.cons.inj (List.append_cancel_left hvalues)).1
  · intro h name hkept
    simp only [valuesOf_append, valuesOf_cons]
    by_cases hfirst : Text.asciiLower first.1 = Text.asciiLower name <;>
      by_cases hsecond : Text.asciiLower second.1 = Text.asciiLower name
    · -- both are values of one name that is kept, so they are the same
      have hvalue : first.2 = second.2 := by
        rcases h with hne | hvalue | hlength
        · exact absurd (hfirst.trans hsecond.symm) hne
        · exact hvalue
        · exact absurd hfirst (hlength.ne_of_isKept hkept)
      simp only [hfirst, hsecond, if_true, hvalue]
    all_goals simp only [hfirst, hsecond, if_true, if_false]

end Single

end Headers

open Headers in
/-- **Request metadata is a normal form of headers.**  Whatever the transport and the sender, two
lists of headers make the same metadata, and the same JSON, exactly if every lower-case name but
`content-length` has the same values in the same order in both, names being taken in any case; and
then the metadata has the same id.  So one more header is noticed exactly if it does not give the
length of the body, another name for a header exactly if it differs by more than case, and another
order of two headers exactly if these have the same name, not that of the length, and different
values.  No name is stored without values. -/
theorem RequestMeta.normal_form_of_headers (transport : Transport) (peer : String) :
    (∀ headers others,
      (withHeaders transport peer headers = withHeaders transport peer others ↔
        ∀ name, Text.asciiLower name = name → name ≠ "content-length" →
          valuesOf name headers = valuesOf name others) ∧
      ((withHeaders transport peer headers).toDoc.render =
          (withHeaders transport peer others).toDoc.render ↔ Agree headers others) ∧
      (Agree headers others →
        (withHeaders transport peer headers).id = (withHeaders transport peer others).id)) ∧
    (∀ front back header,
      withHeaders transport peer (front ++ header :: back) =
        withHeaders transport peer (front ++ back) ↔ IsLength header) ∧
    (∀ front back name other value,
      withHeaders transport peer (front ++ (name, value) :: back) =
        withHeaders transport peer (front ++ (other, value) :: back) ↔
          Text.sameIgnoringCase name other = true) ∧
    (∀ front back first second,
      withHeaders transport peer (front ++ first :: second :: back) =
        withHeaders transport peer (front ++ second :: first :: back) ↔
          Text.sameIgnoringCase first.1 second.1 = false ∨ first.2 = second.2 ∨ IsLength first) ∧
    ∀ headers stored, (withHeaders transport peer headers).headers = some stored →
      ∀ name values, stored.get? name = some values →
        values ≠ [] ∧ IsKept name ∧ values = valuesOf name headers := by
  have hiff (headers others : List (String × String)) :
      withHeaders transport peer headers = withHeaders transport peer others ↔
        Agree headers others := by
    rw [← ofList_eq_iff, withHeaders, withHeaders, RequestMeta.mk.injEq, Option.some.injEq]
    exact ⟨fun h => h.2.2, fun h => ⟨rfl, rfl, h⟩⟩
  have hplain (r : RequestMeta) : r.toDoc.HasPlainTags :=
    (RequestMeta.shows_toDoc (U := fun _ => True) fun _ _ => trivial).plain
  refine ⟨fun headers others => ⟨?_, ?_, fun h => ?_⟩, fun front back header => ?_,
    fun front back name other value => ?_, fun front back first second => ?_,
    fun headers stored hstored name values hvalues => ?_⟩
  · rw [hiff]
    exact ⟨fun h name hlower hne => h name ⟨hlower, hne⟩, fun h name hkept => h name hkept.1 hkept.2⟩
  · rw [RequestMeta.faithful_toDoc.render_eq_iff hplain, hiff]
  · rw [(hiff headers others).mpr h]
  · rw [hiff, agree_insert_iff]
  · rw [hiff, agree_rename_iff]
  · rw [hiff, agree_swap_iff]
  · obtain rfl := Option.some.inj hstored
    rw [get?_ofList, Option.ite_none_right_eq_some] at hvalues
    obtain ⟨⟨hkept, hne⟩, hvalues⟩ := hvalues
    obtain rfl := Option.some.inj hvalues
    exact ⟨hne, hkept, rfl⟩

end Telemetry
