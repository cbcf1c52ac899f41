import Telemetry.Proofs.Value.Envelope

/-!
# Values are read back

The canonical text of a value tells it apart from all values that are not alike to it, and from the
text a value is read back that is alike to it (`render_eq_iff_alike`).

The reader goes by the tree of the text.  An object of one member is a tagged value if its name is a
tag.  No entry of a map can be taken for one: a key with an underscore in front is written with one
underscore more, and no tag begins with two.
-/

namespace Telemetry

/-! ### Names of members -/

namespace Doc

/-- The name that is written as the given text.  A text with one underscore in front is a tag. -/
def unescapedName? : List Char → Option (List Char)
  | '_' :: '_' :: rest => some ('_' :: rest)
  | '_' :: _ => none
  | name => some name

theorem unescapedName?_escapedName (name : List Char) :
    unescapedName? (escapedName name) = some name := by
  unfold escapedName
  split
  · rfl
  · rename_i hname
    unfold unescapedName?
    split
    · exact absurd rfl (hname _)
    · exact absurd rfl (hname _)
    · rfl

end Doc

namespace Value

/-- No tag is the name of a member. -/
theorem untagged?_escapedName (name body : List Char) :
    untagged? (String.ofList (Doc.escapedName name)) body = none := by
  have hne : ∀ tag : String, Doc.unescapedName? tag.toList = none →
      String.ofList (Doc.escapedName name) ≠ tag := by
    rintro _ htag rfl
    rw [String.toList_ofList, Doc.unescapedName?_escapedName] at htag
    cases htag
  rw [untagged?, if_neg (hne _ (by decide)), if_neg (hne _ (by decide)), if_neg (hne _ (by decide)),
    if_neg (hne _ (by decide))]

/-! ### Reading values -/

/-- The value under the tag of an object that has one tag and nothing else. -/
def ofMembers? : List (Option String × Json) → Option Value
  | [(some tag, .string (some body))] => untagged? tag body.toList
  | _ => none

mutual

/-- The value that a tree stands for. -/
noncomputable def ofJson? : Json → Option Value
  | .null => none
  | .bool b => some (.bool b)
  | .number n => (Double.ofLiteral? n).map .double
  | .string s => s.map .string
  | .array items => (itemsOfJson? items).map .array
  | .object members => (ofMembers? members).or ((entriesOfJson? members).map .map)

/-- The values that the items of an array stand for. -/
noncomputable def itemsOfJson? : List Json → Option (List Value)
  | [] => some []
  | item :: more => do
    let v ← ofJson? item
    let vs ← itemsOfJson? more
    some (v :: vs)

/-- The entries that the members of an object stand for. -/
noncomputable def entriesOfJson? : List (Option String × Json) → Option (List (String × Value))
  | [] => some []
  | (name, item) :: more => do
    let name ← name
    let key ← Doc.unescapedName? name.toList
    let v ← ofJson? item
    let entries ← entriesOfJson? more
    some ((String.ofList key, v) :: entries)

end

/-- The value that a text stands for. -/
noncomputable def ofText? (text : String) : Option Value :=
  (Json.readChars? (text.toList.map some)).bind ofJson?

/-! ### The text of what is shown -/

theorem toDoc_ofUInt (n : UInt64) : (ofUInt n).toDoc = (Value.uint n).toDoc := by
  unfold ofUInt
  split
  · rename_i h
    have htext : toString (Int64.ofInt n.toNat).toInt = toString n.toNat := by
      rw [toInt_ofInt_toNat h]
      rfl
    rw [toDoc, toDoc, Doc.int, Doc.uint, htext]
  · rfl

theorem text_ofDouble (x : Double) : (ofDouble x).toDoc.text = (Value.double x).toDoc.text := by
  unfold ofDouble
  split
  · rename_i name hname
    exact (Doc.doubleText_of_doubleName? hname).symm
  · rfl

mutual

/-- What is shown of a value has the text of the value. -/
theorem text_shown : ∀ v : Value, v.shown.toDoc.text = v.toDoc.text
  | .bool _ => rfl
  | .int _ => rfl
  | .uint n => congrArg Doc.text (toDoc_ofUInt n)
  | .timestamp _ => rfl
  | .flags _ => rfl
  | .double x => text_ofDouble x
  | .string _ => rfl
  | .bytes _ => rfl
  | .array items =>
    congrArg (fun texts => '[' :: Doc.withCommas texts ++ [']']) (itemTexts_itemsShown items)
  | .map entries => congrArg Doc.objectText (memberTexts_entriesShown entries)

theorem itemTexts_itemsShown : ∀ vs : List Value,
    Doc.itemTexts (itemDocs (itemsShown vs)) = Doc.itemTexts (itemDocs vs)
  | [] => rfl
  | v :: vs => congrArg₂ List.cons (text_shown v) (itemTexts_itemsShown vs)

theorem memberTexts_entriesShown : ∀ entries : List (String × Value),
    Doc.memberTexts (entryDocs (entriesShown entries)) = Doc.memberTexts (entryDocs entries)
  | [] => rfl
  | (k, v) :: rest =>
    congrArg₂ (fun text texts => Doc.memberText (Doc.literal (Doc.escapedName k.toList)) text ::
      texts) (text_shown v) (memberTexts_entriesShown rest)

end

/-! ### Values and their texts -/

theorem ofJson?_envelope {tag body : String} {v : Value}
    (h : untagged? tag body.toList = some v) : ofJson? (Doc.envelope tag body).tree = some v := by
  have hmembers : ofMembers? [Doc.partTree (tag, body)] = some v := h
  change (ofMembers? [Doc.partTree (tag, body)]).or _ = _
  rw [hmembers, Option.some_or]

theorem ofJson?_flags (f : UInt32) : ofJson? (Doc.flags f).tree = some (.flags f) := by
  refine ofJson?_envelope ?_
  rw [String.toList_ofList]
  exact untagged?_flags f

theorem ofJson?_bytes (b : Bytes) : ofJson? (Doc.bytes b).tree = some (.bytes b) := by
  refine ofJson?_envelope ?_
  rw [String.toList_ofList]
  exact untagged?_bytes b

theorem ofJson?_doubleTree (x : Double) : ofJson? (Doc.doubleTree x) = some (ofDouble x) := by
  unfold Doc.doubleTree ofDouble
  cases hname : Doc.doubleName? x with
  | some name => rfl
  | none =>
    rw [ofJson?, Double.ofLiteral?_literal (Doc.isFinite_of_doubleName?_eq_none hname)]
    rfl

/-- The members of a map are no tagged value. -/
theorem ofMembers?_memberTrees (members : List (String × Doc)) :
    ofMembers? (Doc.memberTrees members) = none := by
  unfold ofMembers?
  split
  · rename_i tag body heq
    cases members with
    | nil => cases heq
    | cons member more =>
      have htag : String.ofList (Doc.escapedName member.1.toList) = tag :=
        Option.some.inj (congrArg Prod.fst (List.cons.inj heq).1)
      rw [← htag, untagged?_escapedName]
  · rfl

mutual

/-- A value is read back from its tree, as what is shown of it. -/
theorem ofJson?_tree : ∀ v : Value, ofJson? v.toDoc.tree = some v.shown
  | .bool _ => rfl
  | .int n => ofJson?_envelope (untagged?_int n)
  | .uint n => ofJson?_envelope (untagged?_uint n)
  | .timestamp t => ofJson?_envelope (untagged?_timestamp t)
  | .flags f => ofJson?_flags f
  | .double x => ofJson?_doubleTree x
  | .string _ => rfl
  | .bytes b => ofJson?_bytes b
  | .array items => by
    rw [toDoc, Doc.tree, ofJson?, itemsOfJson?_itemTrees items]
    rfl
  | .map entries => by
    rw [toDoc, Doc.tree, ofJson?, ofMembers?_memberTrees, Option.none_or,
      entriesOfJson?_memberTrees entries]
    rfl

theorem itemsOfJson?_itemTrees : ∀ vs : List Value,
    itemsOfJson? (Doc.itemTrees (itemDocs vs)) = some (itemsShown vs)
  | [] => rfl
  | v :: vs => by
    rw [itemDocs, Doc.itemTrees, itemsOfJson?, ofJson?_tree v, itemsOfJson?_itemTrees vs]
    rfl

theorem entriesOfJson?_memberTrees : ∀ entries : List (String × Value),
    entriesOfJson? (Doc.memberTrees (entryDocs entries)) = some (entriesShown entries)
  | [] => rfl
  | (k, v) :: rest => by
    rw [entryDocs, Doc.memberTrees, entriesOfJson?, ofJson?_tree v, entriesOfJson?_memberTrees rest,
      Option.bind_eq_bind, Option.bind_some, String.toList_ofList, Doc.unescapedName?_escapedName]
    change some ((String.ofList k.toList, v.shown) :: entriesShown rest) = _
    rw [String.ofList_toList]
    rfl

end

mutual

theorem hasPlainTags_toDoc : ∀ v : Value, v.toDoc.HasPlainTags
  | .bool _ => trivial
  | .int n => Doc.hasPlainTags_int n
  | .uint n => Doc.hasPlainTags_uint n
  | .timestamp t => Doc.hasPlainTags_timestamp t
  | .flags f => Doc.hasPlainTags_flags f
  | .double _ => trivial
  | .string _ => trivial
  | .bytes b => Doc.hasPlainTags_bytes b
  | .array items => itemsHavePlainTags_itemDocs items
  | .map entries => membersHavePlainTags_entryDocs entries

theorem itemsHavePlainTags_itemDocs : ∀ vs : List Value, Doc.ItemsHavePlainTags (itemDocs vs)
  | [] => trivial
  | v :: vs => ⟨hasPlainTags_toDoc v, itemsHavePlainTags_itemDocs vs⟩

theorem membersHavePlainTags_entryDocs : ∀ entries : List (String × Value),
    Doc.MembersHavePlainTags (entryDocs entries)
  | [] => trivial
  | (_, v) :: rest => ⟨hasPlainTags_toDoc v, membersHavePlainTags_entryDocs rest⟩

end

/-- A reader of the text of a value finds what is shown of the value. -/
theorem ofText?_render (v : Value) : ofText? v.toDoc.render = some v.shown := by
  rw [ofText?, Doc.render, String.toList_ofList, Doc.readChars?_text (hasPlainTags_toDoc v),
    Option.bind_some, ofJson?_tree]

/-- **Nothing is lost or confused in a text.**  Values have one text exactly if they are alike, and
from the text of a value a value is read back that is alike to it. -/
theorem render_eq_iff_alike :
    (∀ v w : Value, v.toDoc.render = w.toDoc.render ↔ Alike v w) ∧
      ∀ v : Value, ∃ w, ofText? v.toDoc.render = some w ∧ Alike v w := by
  refine ⟨fun v w => ?_, fun v => ⟨v.shown, ofText?_render v, alike_shown v⟩⟩
  rw [alike_iff]
  constructor
  · intro h
    have hv := ofText?_render v
    rw [h, ofText?_render w] at hv
    exact (Option.some.inj hv).symm
  · intro h
    rw [Doc.render, Doc.render, ← text_shown v, ← text_shown w, h]

end Value

end Telemetry
