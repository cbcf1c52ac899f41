import Telemetry.Proofs.Value.Layout

/-!
# Documents that tell what they were made of

Two documents have one text exactly if they have one tree (`Doc.text_eq_iff`).  So what a text tells
is a matter of trees, and a way to make documents is *faithful* up to a relation if two of them have
one tree exactly when they were made of related things (`Doc.Faithful`).

Records are put together from members, of which some are left out.  `Doc.FaithfulMembers` says the
same of a list of members, and there is one law for each way to put members together.  Members can
be told apart because no name is used twice (`FaithfulMembers.append`), and a member may be left out
only where what it would hold is known from that (`FaithfulMembers.memberIf`).
-/

namespace Telemetry

/-! ### Texts and trees -/

namespace Json

mutual

/-- The text of a document with the given tree. -/
def text : Json → List Char
  | .null => ['n', 'u', 'l', 'l']
  | .bool b => (Doc.bool b).text
  | .number n => n.text
  | .string s => Doc.literal (s.getD "").toList
  | .array items => '[' :: Doc.withCommas (itemTexts items) ++ [']']
  | .object members => Doc.objectText (memberTexts members)

/-- The texts of the items of an array. -/
def itemTexts : List Json → List (List Char)
  | [] => []
  | item :: more => text item :: itemTexts more

/-- The texts of the members of an object. -/
def memberTexts : List (Option String × Json) → List (List Char)
  | [] => []
  | (name, value) :: more =>
    Doc.memberText (Doc.literal (name.getD "").toList) (text value) :: memberTexts more

end

end Json

namespace Doc

theorem text_doubleTree (x : Double) : (doubleTree x).text = doubleText x := by
  unfold doubleTree
  cases hname : doubleName? x with
  | some name => exact (doubleText_of_doubleName? hname).symm
  | none =>
    rw [doubleText_of_doubleName?_eq_none hname, ← Double.text_literal]
    rfl

theorem memberTexts_map_partTree {parts : List (String × String)}
    (h : ∀ part ∈ parts, IsPlain part.1 ∧ IsPlain part.2) :
    Json.memberTexts (parts.map partTree) =
      parts.map fun part => memberText (verbatim part.1) (verbatim part.2) := by
  induction parts with
  | nil => rfl
  | cons part parts ih =>
    rw [List.forall_mem_cons] at h
    rw [List.map_cons, List.map_cons, ← ih h.2, verbatim_eq_literal h.1.1,
      verbatim_eq_literal h.1.2]
    rfl

mutual

/-- The text of a document is known from its tree. -/
theorem text_tree : ∀ {doc : Doc}, doc.HasPlainTags → doc.tree.text = doc.text
  | .bool _, _ => rfl
  | .double x, _ => text_doubleTree x
  | .string _, _ => rfl
  | .tagged _, h => congrArg objectText (memberTexts_map_partTree h)
  | .array _, h =>
    congrArg (fun texts => '[' :: withCommas texts ++ [']']) (itemTexts_itemTrees h)
  | .map _, h => congrArg objectText (memberTexts_memberTrees h)

theorem itemTexts_itemTrees : ∀ {items : List Doc}, ItemsHavePlainTags items →
    Json.itemTexts (itemTrees items) = itemTexts items
  | [], _ => rfl
  | _ :: _, h => congrArg₂ List.cons (text_tree h.1) (itemTexts_itemTrees h.2)

theorem memberTexts_memberTrees : ∀ {members : List (String × Doc)},
    MembersHavePlainTags members →
      Json.memberTexts (memberTrees members) = memberTexts members
  | [], _ => rfl
  | (name, _) :: _, h => by
    rw [memberTrees, Json.memberTexts, memberTexts, text_tree h.1, memberTexts_memberTrees h.2,
      Option.getD_some, String.toList_ofList]

end

/-- **Documents have one text exactly if they have one tree.** -/
theorem text_eq_iff {d e : Doc} (hd : d.HasPlainTags) (he : e.HasPlainTags) :
    d.text = e.text ↔ d.tree = e.tree := by
  constructor
  · intro h
    have hread := readChars?_text hd
    rw [h, readChars?_text he] at hread
    exact (Option.some.inj hread).symm
  · intro h
    rw [← text_tree hd, ← text_tree he, h]

theorem render_eq_iff {d e : Doc} (hd : d.HasPlainTags) (he : e.HasPlainTags) :
    d.render = e.render ↔ d.tree = e.tree := by
  rw [render, render, String.ofList_inj, text_eq_iff hd he]

/-! ### Faithful documents -/

variable {α β : Type}

/-- Two documents have one tree exactly if what they were made of is related. -/
def Faithful (toDoc : α → Doc) (R : α → α → Prop) : Prop :=
  ∀ a b, (toDoc a).tree = (toDoc b).tree ↔ R a b

namespace Faithful

variable {toDoc : α → Doc} {R S : α → α → Prop}

theorem congr (h : Faithful toDoc R) (hRS : ∀ a b, R a b ↔ S a b) : Faithful toDoc S :=
  fun a b => (h a b).trans (hRS a b)

/-- What is made of a part of a thing tells about the part. -/
theorem comap (h : Faithful toDoc R) (f : β → α) :
    Faithful (fun b => toDoc (f b)) fun b c => R (f b) (f c) :=
  fun b c => h (f b) (f c)

/-- What has one text was made of related things. -/
theorem render_eq_iff (h : Faithful toDoc R) (hplain : ∀ a, (toDoc a).HasPlainTags) (a b : α) :
    (toDoc a).render = (toDoc b).render ↔ R a b := by
  rw [Doc.render_eq_iff (hplain a) (hplain b), h a b]

theorem array (h : Faithful toDoc R) :
    Faithful (fun as => .array (as.map toDoc)) (List.Forall₂ R) := by
  intro as bs
  rw [tree, tree, itemTrees_eq_map, itemTrees_eq_map, Json.array.injEq, List.map_map, List.map_map,
    ← List.forall₂_eq_eq_eq, List.forall₂_map_left_iff, List.forall₂_map_right_iff]
  exact ⟨.imp fun a b => (h a b).mp, .imp fun a b => (h a b).mpr⟩

end Faithful

theorem faithful_bool : Faithful .bool Eq :=
  fun a b => by rw [tree, tree, Json.bool.injEq]

theorem faithful_string : Faithful .string Eq :=
  fun s t => by rw [tree, tree, Json.string.injEq, Option.some.injEq]

/-- Envelopes of one tag tell their bodies, so they are faithful if their bodies are. -/
theorem faithful_envelope (tag : String) {body : α → String} (h : Function.Injective body) :
    Faithful (fun a => envelope tag (body a)) Eq := by
  intro a b
  have htrees : (envelope tag (body a)).tree = (envelope tag (body b)).tree ↔ body a = body b := by
    simp [envelope, tree, partTree]
  rw [htrees, h.eq_iff]

/-- An object with names that are told apart tells the names and what stands under them. -/
theorem faithful_map {κ : Type} {name : κ → String} {toDoc : α → Doc} {R : α → α → Prop}
    (hname : Function.Injective name) (h : Faithful toDoc R) :
    Faithful (fun entries : List (κ × α) =>
        .map (entries.map fun entry => (name entry.1, toDoc entry.2)))
      (List.Forall₂ fun e f => e.1 = f.1 ∧ R e.2 f.2) := by
  intro es fs
  rw [tree, tree, memberTrees_eq_map, memberTrees_eq_map, Json.object.injEq, List.map_map,
    List.map_map, ← List.forall₂_eq_eq_eq, List.forall₂_map_left_iff, List.forall₂_map_right_iff]
  have hentry (e f : κ × α) :
      (some (shownName (name e.1)), (toDoc e.2).tree) =
        ((some (shownName (name f.1)), (toDoc f.2).tree) : Option String × Json) ↔
      e.1 = f.1 ∧ R e.2 f.2 := by
    rw [Prod.mk.injEq, Option.some.injEq, shownName_injective.eq_iff, hname.eq_iff, h e.2 f.2]
  exact ⟨.imp fun e f => (hentry e f).mp, .imp fun e f => (hentry e f).mpr⟩

/-- A table tells its ids and what stands under them. -/
theorem faithful_table {kind : IdKind} {toDoc : α → Doc} {R : α → α → Prop}
    (h : Faithful toDoc R) :
    Faithful (fun t : Table (@Id.order kind) α =>
        .map (t.entries.map fun entry => (entry.1.hex, toDoc entry.2)))
      fun t u => List.Forall₂ (fun e f => e.1 = f.1 ∧ R e.2 f.2) t.entries u.entries :=
  (faithful_map Id.hex_injective h).comap Table.entries

/-! ### Faithful members -/

theorem memberTrees_append (members others : List (String × Doc)) :
    memberTrees (members ++ others) = memberTrees members ++ memberTrees others := by
  rw [memberTrees_eq_map, memberTrees_eq_map, memberTrees_eq_map, List.map_append]

/-- Members of one name each stand where they stand among members of other names. -/
theorem append_eq_append_iff_of_mem {names : List String}
    {members members' others others' : List (String × Doc)}
    (hmembers : ∀ member ∈ members, member.1 ∈ names)
    (hmembers' : ∀ member ∈ members', member.1 ∈ names)
    (hothers : ∀ member ∈ others, member.1 ∉ names)
    (hothers' : ∀ member ∈ others', member.1 ∉ names) :
    memberTrees (members ++ others) = memberTrees (members' ++ others') ↔
      memberTrees members = memberTrees members' ∧ memberTrees others = memberTrees others' := by
  have hfilter {front back : List (String × Doc)} (hfront : ∀ member ∈ front, member.1 ∈ names)
      (hback : ∀ member ∈ back, member.1 ∉ names) :
      (memberTrees (front ++ back)).filter
          (·.1 ∈ names.map fun name => some (shownName name)) = memberTrees front := by
    have hmem (member : String × Doc) :
        some (shownName member.1) ∈ names.map (fun name => some (shownName name)) ↔
          member.1 ∈ names := by
      rw [List.mem_map]
      constructor
      · rintro ⟨name, hname, heq⟩
        rwa [← shownName_injective (Option.some.inj heq)]
      · exact fun h => ⟨_, h, rfl⟩
    rw [memberTrees_append, List.filter_append, List.filter_eq_self.mpr, List.filter_eq_nil_iff.mpr,
      List.append_nil]
    · rw [memberTrees_eq_map]
      refine List.forall_mem_map.mpr fun member hmember => ?_
      rw [decide_eq_true_eq, hmem]
      exact hback member hmember
    · rw [memberTrees_eq_map]
      refine List.forall_mem_map.mpr fun member hmember => ?_
      rw [decide_eq_true_eq, hmem]
      exact hfront member hmember
  constructor
  · intro h
    have hfront : memberTrees members = memberTrees members' := by
      rw [← hfilter hmembers hothers, h, hfilter hmembers' hothers']
    rw [memberTrees_append, memberTrees_append, hfront] at h
    exact ⟨hfront, List.append_cancel_left h⟩
  · rintro ⟨hfront, hback⟩
    rw [memberTrees_append, memberTrees_append, hfront, hback]

/-- Members under the given names, such that two lists of them have the same trees exactly if what
they were made of is related. -/
structure FaithfulMembers (names : List String) (members : α → List (String × Doc))
    (R : α → α → Prop) : Prop where
  mem_names : ∀ a, ∀ member ∈ members a, member.1 ∈ names
  trees_eq_iff : ∀ a b, memberTrees (members a) = memberTrees (members b) ↔ R a b

/-- A list with a member of another name has another tree. -/
theorem FaithfulMembers.tree_ne {names : List String} {members : α → List (String × Doc)}
    {R : α → α → Prop} (h : FaithfulMembers names members R) {others : List (String × Doc)}
    {name : String} (hname : name ∈ others.map Prod.fst) (hmissing : name ∉ names) (a : α) :
    (Doc.map (members a)).tree ≠ (Doc.map others).tree := by
  intro htree
  rw [tree, tree, Json.object.injEq, memberTrees_eq_map, memberTrees_eq_map] at htree
  obtain ⟨other, hother, rfl⟩ := List.mem_map.mp hname
  have hmem : (some (shownName other.1), other.2.tree) ∈
      (members a).map fun member => (some (shownName member.1), member.2.tree) := by
    rw [htree]
    exact List.mem_map_of_mem (f := fun member : String × Doc =>
      (some (shownName member.1), member.2.tree)) hother
  obtain ⟨member, hmember, heq⟩ := List.mem_map.mp hmem
  rw [← shownName_injective (Option.some.inj (congrArg Prod.fst heq))] at hmissing
  exact hmissing (h.mem_names a member hmember)

/-- A record tells what its members do. -/
theorem FaithfulMembers.record {names : List String} {members : α → List (String × Doc)}
    {R : α → α → Prop} (h : FaithfulMembers names members R) :
    Faithful (fun a => .map (members a)) R := by
  intro a b
  rw [tree, tree, Json.object.injEq]
  exact h.trees_eq_iff a b

namespace FaithfulMembers

variable {names more : List String} {members others : α → List (String × Doc)}
  {R S : α → α → Prop} {toDoc : α → Doc}

theorem congr (h : FaithfulMembers names members R) (hRS : ∀ a b, R a b ↔ S a b) :
    FaithfulMembers names members S :=
  ⟨h.mem_names, fun a b => (h.trees_eq_iff a b).trans (hRS a b)⟩

theorem comap (h : FaithfulMembers names members R) (f : β → α) :
    FaithfulMembers names (fun b => members (f b)) fun b c => R (f b) (f c) :=
  ⟨fun b => h.mem_names (f b), fun b c => h.trees_eq_iff (f b) (f c)⟩

/-- **Members of different names do not mix.** -/
theorem append (h : FaithfulMembers names members R) (hmore : FaithfulMembers more others S)
    (hdisjoint : ∀ name ∈ more, name ∉ names) :
    FaithfulMembers (names ++ more) (fun a => members a ++ others a)
      fun a b => R a b ∧ S a b where
  mem_names a := List.forall_mem_append.mpr
    ⟨fun member hmember => List.mem_append_left _ (h.mem_names a member hmember),
      fun member hmember => List.mem_append_right _ (hmore.mem_names a member hmember)⟩
  trees_eq_iff a b := by
    have hothers (c : α) : ∀ member ∈ others c, member.1 ∉ names := fun member hmember =>
      hdisjoint _ (hmore.mem_names c member hmember)
    rw [append_eq_append_iff_of_mem (h.mem_names a) (h.mem_names b) (hothers a) (hothers b),
      h.trees_eq_iff, hmore.trees_eq_iff]

/-- A member that is always there. -/
theorem member (name : String) (h : Faithful toDoc R) :
    FaithfulMembers [name] (fun a => [(name, toDoc a)]) R where
  mem_names a := by simp
  trees_eq_iff a b := by
    have hsingle (doc : Doc) : memberTrees [(name, doc)] = [(some (shownName name), doc.tree)] :=
      rfl
    rw [hsingle, hsingle, ← h a b]
    simp

/-- **A member that is left out of some documents.**  Things of which one has the member are not
related to things of which one has not, and those that have no member are all related. -/
theorem memberIf {Q : α → α → Prop} (name : String) {present : α → Bool} (h : Faithful toDoc Q)
    (hpresent : ∀ a b, present a = true → present b = true → (Q a b ↔ R a b))
    (hsame : ∀ a b, R a b → present a = present b)
    (habsent : ∀ a b, present a = false → present b = false → R a b) :
    FaithfulMembers [name] (fun a => Doc.memberIf (present a) name (toDoc a)) R where
  mem_names a := by
    unfold Doc.memberIf
    split <;> simp
  trees_eq_iff a b := by
    have hapart : present a ≠ present b → ¬ R a b := fun hne hR => hne (hsame a b hR)
    cases ha : present a <;> cases hb : present b <;> rw [ha, hb] at hapart
    · exact iff_of_true rfl (habsent a b ha hb)
    · exact iff_of_false (List.cons_ne_nil _ _).symm (hapart Bool.false_ne_true)
    · exact iff_of_false (List.cons_ne_nil _ _) (hapart Bool.false_ne_true.symm)
    · exact ((member name h).trees_eq_iff a b).trans (hpresent a b ha hb)

/-- A member that is left out if it would hold the usual value. -/
theorem memberUnless [BEq β] [LawfulBEq β] (name : String) (field : α → β) (usual : β)
    {toDoc : β → Doc} (h : Faithful toDoc Eq) :
    FaithfulMembers [name] (fun a => Doc.memberIf (field a != usual) name (toDoc (field a)))
      fun a b => field a = field b :=
  memberIf name (h.comap field) (fun _ _ _ _ => .rfl) (fun a b hab => by rw [hab]) fun a b ha hb => by
    rw [bne_eq_false_iff_eq] at ha hb
    rw [ha, hb]

/-- A member that is left out if there would be nothing in it. -/
theorem memberUnlessEmpty {Q : β → β → Prop} (name : String) (field : α → List β)
    {toDoc : List β → Doc} (h : Faithful toDoc (List.Forall₂ Q)) :
    FaithfulMembers [name] (fun a => Doc.memberIf (!(field a).isEmpty) name (toDoc (field a)))
      fun a b => List.Forall₂ Q (field a) (field b) :=
  memberIf name (h.comap field) (fun _ _ _ _ => .rfl)
    (fun a b hab => by
      generalize field a = as, field b = bs at hab
      cases hab <;> rfl)
    fun a b ha hb => by
      rw [Bool.not_eq_false', List.isEmpty_iff] at ha hb
      rw [ha, hb]
      exact .nil

/-- A member that is there if there is a value for it. -/
theorem member? {Q : β → β → Prop} (name : String) (field : α → Option β) {toDoc : β → Doc}
    (h : Faithful toDoc Q) :
    FaithfulMembers [name] (fun a => Doc.member? name toDoc (field a))
      fun a b => Option.Rel Q (field a) (field b) where
  mem_names a := by
    cases field a <;> simp [Doc.member?]
  trees_eq_iff a b := by
    cases field a with
    | none =>
      cases field b with
      | none => exact iff_of_true rfl .none
      | some y => exact iff_of_false (List.cons_ne_nil _ _).symm nofun
    | some x =>
      cases field b with
      | none => exact iff_of_false (List.cons_ne_nil _ _) nofun
      | some y =>
        refine ((member name h).trees_eq_iff x y).trans ⟨.some, ?_⟩
        rintro ⟨hQ⟩
        exact hQ

end FaithfulMembers

end Doc

end Telemetry
