import Telemetry.Proofs.Json.Layout

/-!
# Documents of a layout

`Doc.Shows` says of a document that its tree is laid out in a given way and that it is read back
from its text.  It holds of arrays, tables, maps and records if it holds of what is in them; for the
members of a record this is `Doc.Fills`, which follows the way documents are put together.

The text of such a document stands on one line: what would break it is escaped
(`Doc.onOneLine_text`).
-/

namespace Telemetry

namespace Doc

/-! ### Texts on one line -/

/-- The text has no control characters, so none that breaks the line. -/
def OnOneLine (text : List Char) : Prop :=
  ∀ c ∈ text, 0x20 ≤ c.toNat

instance (text : List Char) : Decidable (OnOneLine text) :=
  List.decidableBAll (fun c : Char => 0x20 ≤ c.toNat) text

namespace OnOneLine

variable {a b : List Char} {c : Char}

theorem append (ha : OnOneLine a) (hb : OnOneLine b) : OnOneLine (a ++ b) :=
  List.forall_mem_append.mpr ⟨ha, hb⟩

theorem cons (hc : 0x20 ≤ c.toNat) (ha : OnOneLine a) : OnOneLine (c :: a) :=
  List.forall_mem_cons.mpr ⟨hc, ha⟩

theorem digits (h : ∀ c ∈ a, c.isDigit) : OnOneLine a :=
  fun c hc => (plain_of_isDigit (h c hc)).2.2

end OnOneLine

theorem onOneLine_escapedChar (c : Char) : OnOneLine (escapedChar c) := by
  unfold escapedChar
  split_ifs with hquote hbackslash hreturn hnewline htab hcontrol
  · decide
  · decide
  · decide
  · decide
  · decide
  · have hhigh : 0x20 ≤ (Nat.digitChar (c.toNat / 16)).toNat := (plain_digit (by omega)).2.2
    have hlow : 0x20 ≤ (Nat.digitChar (c.toNat % 16)).toNat := (plain_digit (by omega)).2.2
    have hprefix : OnOneLine ['\\', 'u', '0', '0'] := by decide
    exact hprefix.append (.cons hhigh (.cons hlow (List.forall_mem_nil _)))
  · exact .cons (not_lt.mp hcontrol) (List.forall_mem_nil _)

theorem onOneLine_literal (s : List Char) : OnOneLine (literal s) := by
  have hescaped : OnOneLine (s.flatMap escapedChar) := by
    intro d hd
    obtain ⟨c, -, hd⟩ := List.mem_flatMap.mp hd
    exact onOneLine_escapedChar c d hd
  exact .append (.cons (by decide) hescaped) (by decide)

theorem onOneLine_withCommas {texts : List (List Char)} (h : ∀ text ∈ texts, OnOneLine text) :
    OnOneLine (withCommas texts) := by
  induction texts with
  | nil => exact List.forall_mem_nil _
  | cons text more ih =>
    rw [List.forall_mem_cons] at h
    cases more with
    | nil => exact h.1
    | cons next more => exact h.1.append (.cons (by decide) (ih h.2))

theorem onOneLine_objectText {texts : List (List Char)} (h : ∀ text ∈ texts, OnOneLine text) :
    OnOneLine (objectText texts) :=
  .append (.cons (by decide) (onOneLine_withCommas h)) (by decide)

theorem onOneLine_memberText {name value : List Char} (hname : OnOneLine name)
    (hvalue : OnOneLine value) : OnOneLine (memberText name value) :=
  hname.append (.cons (by decide) hvalue)

theorem onOneLine_numberText {n : NumberLiteral} (h : n.IsProper) : OnOneLine n.text := by
  have hfraction : OnOneLine (NumberLiteral.fractionText n.fraction) := by
    cases hdigits : n.fraction with
    | none => exact List.forall_mem_nil _
    | some digits => exact .cons (by decide) (.digits (h.fraction digits hdigits).2)
  have hexponent : OnOneLine (NumberLiteral.exponentText n.exponent) := by
    cases hdigits : n.exponent with
    | none => exact List.forall_mem_nil _
    | some exponent =>
      obtain ⟨negative, digits⟩ := exponent
      refine .cons (by decide) (.cons ?_ (.digits (h.exponent negative digits hdigits).2))
      cases negative <;> decide
  have hsign : OnOneLine (if n.negative then ['-'] else []) := by
    cases n.negative <;> decide
  exact hsign.append ((OnOneLine.append (.digits h.whole.2) hfraction).append hexponent)

theorem onOneLine_doubleText (x : Double) : OnOneLine (doubleText x) := by
  cases hname : doubleName? x with
  | some name =>
    rw [doubleText_of_doubleName? hname]
    exact onOneLine_literal _
  | none =>
    rw [doubleText_of_doubleName?_eq_none hname, ← Double.text_literal]
    exact onOneLine_numberText (Double.isProper_literal x)

mutual

/-- **The text of a document stands on one line.** -/
theorem onOneLine_text : ∀ {doc : Doc}, doc.HasPlainTags → OnOneLine doc.text
  | .bool true, _ => by decide
  | .bool false, _ => by decide
  | .double x, _ => onOneLine_doubleText x
  | .string s, _ => onOneLine_literal s.toList
  | .tagged parts, h => by
    refine onOneLine_objectText (List.forall_mem_map.mpr fun part hpart => ?_)
    obtain ⟨htag, hbody⟩ := h part hpart
    change OnOneLine (memberText (verbatim part.1) (verbatim part.2))
    rw [verbatim_eq_literal htag, verbatim_eq_literal hbody]
    exact onOneLine_memberText (onOneLine_literal _) (onOneLine_literal _)
  | .array _, h =>
    .append (.cons (by decide) (onOneLine_withCommas (onOneLine_itemTexts h))) (by decide)
  | .map _, h => onOneLine_objectText (onOneLine_memberTexts h)

theorem onOneLine_itemTexts : ∀ {items : List Doc}, ItemsHavePlainTags items →
    ∀ text ∈ itemTexts items, OnOneLine text
  | [], _ => List.forall_mem_nil _
  | _ :: _, h => List.forall_mem_cons.mpr ⟨onOneLine_text h.1, onOneLine_itemTexts h.2⟩

theorem onOneLine_memberTexts : ∀ {members : List (String × Doc)},
    MembersHavePlainTags members → ∀ text ∈ memberTexts members, OnOneLine text
  | [], _ => List.forall_mem_nil _
  | _ :: _, h => List.forall_mem_cons.mpr
    ⟨onOneLine_memberText (onOneLine_literal _) (onOneLine_text h.1), onOneLine_memberTexts h.2⟩

end

/-! ### What a document shows -/

/-- A document is read back from the bytes of its text. -/
theorem read?_render {doc : Doc} (h : doc.HasPlainTags) :
    Json.read? (Text.utf8 doc.render) = some doc.tree := by
  rw [Json.read?, Bytes.chars_utf8, render, String.toList_ofList]
  exact readChars?_text h

theorem itemTrees_eq_map (items : List Doc) : itemTrees items = items.map tree := by
  induction items with
  | nil => rfl
  | cons item more ih => rw [itemTrees, List.map_cons, ih]

theorem memberTrees_eq_map (members : List (String × Doc)) :
    memberTrees members = members.map fun member => (some (shownName member.1), member.2.tree) := by
  induction members with
  | nil => rfl
  | cons member more ih => rw [memberTrees, List.map_cons, ih, shownName]

theorem itemsHavePlainTags_iff {items : List Doc} :
    ItemsHavePlainTags items ↔ ∀ item ∈ items, item.HasPlainTags := by
  induction items with
  | nil => exact iff_of_true trivial (List.forall_mem_nil _)
  | cons item more ih => rw [ItemsHavePlainTags, ih, List.forall_mem_cons]

theorem membersHavePlainTags_iff {members : List (String × Doc)} :
    MembersHavePlainTags members ↔ ∀ member ∈ members, member.2.HasPlainTags := by
  induction members with
  | nil => exact iff_of_true trivial (List.forall_mem_nil _)
  | cons member more ih => rw [MembersHavePlainTags, ih, List.forall_mem_cons]

/-- The document is read back from its text, and its tree is laid out in the given way. -/
structure Shows (U : List String → Prop) (layout : Layout) (doc : Doc) : Prop where
  plain : doc.HasPlainTags
  conforms : doc.tree.Conforms U layout

variable {U : List String → Prop} {layout : Layout}

theorem shows_bool (b : Bool) : Shows U .bool (.bool b) :=
  ⟨trivial, .bool b⟩

theorem shows_string (s : String) : Shows U .string (.string s) :=
  ⟨trivial, .string s⟩

theorem shows_double (x : Double) : Shows U .double (.double x) where
  plain := trivial
  conforms := by
    rw [tree, doubleTree]
    split
    · rename_i name hname
      refine .noNumber ?_
      unfold doubleName? at hname
      split_ifs at hname <;> cases hname <;> decide
    · exact .number _

theorem Shows.value {doc : Doc} (h : Shows U layout doc) (hlayout : layout ∈ Layout.values) :
    Shows U .value doc :=
  ⟨h.plain, .value hlayout h.conforms⟩

theorem Shows.oneOf {doc : Doc} (h : Shows U layout doc) {choices : List Layout}
    (hlayout : layout ∈ choices) : Shows U (.oneOf choices) doc :=
  ⟨h.plain, .oneOf hlayout h.conforms⟩

theorem shows_array {items : List Doc} (h : ∀ item ∈ items, Shows U layout item) :
    Shows U (.array layout) (.array items) where
  plain := itemsHavePlainTags_iff.mpr fun item hitem => (h item hitem).plain
  conforms := by
    rw [tree, itemTrees_eq_map]
    exact .array (List.forall_mem_map.mpr fun item hitem => (h item hitem).conforms)

theorem shows_table {kind : IdKind} {α : Type} (toDoc : α → Doc)
    {table : Table (@Id.order kind) α} (h : table.All fun _ a => Shows U layout (toDoc a)) :
    Shows U (.table kind layout)
      (.map (table.entries.map fun entry => (entry.1.hex, toDoc entry.2))) where
  plain := membersHavePlainTags_iff.mpr (List.forall_mem_map.mpr fun entry hentry =>
    (h.of_mem_entries hentry).plain)
  conforms := by
    rw [tree, memberTrees_eq_map, List.map_map]
    refine .table table.keys table.ascending ?_ (List.forall_mem_map.mpr fun entry hentry =>
      (h.of_mem_entries hentry).conforms)
    rw [List.map_map, Table.keys, List.map_map]
    refine List.map_congr_left fun entry _ => ?_
    exact congrArg some (shownName_eq_self entry.1.not_head?_hex)

theorem shows_map {members : List (String × Doc)} (hkeys : U (members.map Prod.fst))
    (h : ∀ member ∈ members, Shows U layout member.2) : Shows U (.map layout) (.map members) where
  plain := membersHavePlainTags_iff.mpr fun member hmember => (h member hmember).plain
  conforms := by
    rw [tree, memberTrees_eq_map]
    refine .map (members.map Prod.fst) hkeys ?_ (List.forall_mem_map.mpr fun member hmember =>
      (h member hmember).conforms)
    rw [List.map_map, List.map_map]
    rfl

/-! ### Records -/

/-- The members are some of the fields in their order, each with what belongs into it. -/
inductive Fills (U : List String → Prop) : List (String × Layout) → List (String × Doc) → Prop where
  | nil : Fills U [] []
  | skip {field : String × Layout} {fields : List (String × Layout)}
      {members : List (String × Doc)} : Fills U fields members → Fills U (field :: fields) members
  | take {name : String} {layout : Layout} {doc : Doc} {fields : List (String × Layout)}
      {members : List (String × Doc)} : Shows U layout doc → Fills U fields members →
      Fills U ((name, layout) :: fields) ((name, doc) :: members)

namespace Fills

variable {fields more : List (String × Layout)} {members others : List (String × Doc)}
  {name : String} {doc : Doc}

theorem append (h : Fills U fields members) (hmore : Fills U more others) :
    Fills U (fields ++ more) (members ++ others) := by
  induction h with
  | nil => exact hmore
  | skip _ ih => exact .skip ih
  | take hdoc _ ih => exact .take hdoc ih

theorem member (h : Shows U layout doc) : Fills U (Layout.field name layout) [(name, doc)] :=
  .take h .nil

/-- Several members that are always there. -/
theorem cons (h : Shows U layout doc) (hmore : Fills U more others) :
    Fills U (Layout.field name layout ++ more) ((name, doc) :: others) :=
  .take h hmore

theorem memberIf {present : Bool} (h : Shows U layout doc) :
    Fills U (Layout.field name layout) (memberIf present name doc) := by
  cases present with
  | true => exact .take h .nil
  | false => exact .skip .nil

theorem member? {α : Type} {toDoc : α → Doc} {o : Option α}
    (h : ∀ a, o = some a → Shows U layout (toDoc a)) :
    Fills U (Layout.field name layout) (Doc.member? name toDoc o) := by
  cases o with
  | none => exact .skip .nil
  | some a => exact .take (h a rfl) .nil

theorem plain (h : Fills U fields members) : ∀ member ∈ members, member.2.HasPlainTags := by
  induction h with
  | nil => exact List.forall_mem_nil _
  | skip _ ih => exact ih
  | take hdoc _ ih => exact List.forall_mem_cons.mpr ⟨hdoc.plain, ih⟩

theorem exists_present (h : Fills U fields members) :
    ∃ present : List (String × Layout), present.Sublist fields ∧
      members.map Prod.fst = present.map Prod.fst ∧
      ∀ pair ∈ present.zip members, Shows U pair.1.2 pair.2.2 := by
  induction h with
  | nil => exact ⟨[], .slnil, rfl, List.forall_mem_nil _⟩
  | skip _ ih =>
    obtain ⟨present, hsublist, hnames, hshows⟩ := ih
    exact ⟨present, hsublist.cons _, hnames, hshows⟩
  | @take name layout doc fields members hdoc _ ih =>
    obtain ⟨present, hsublist, hnames, hshows⟩ := ih
    refine ⟨(name, layout) :: present, hsublist.cons_cons _, congrArg (name :: ·) hnames, ?_⟩
    exact List.forall_mem_cons.mpr ⟨hdoc, hshows⟩

end Fills

/-- A record shows what its members do. -/
theorem shows_record {fields : List (String × Layout)} {members : List (String × Doc)}
    (hkeys : (fields.map Prod.fst).all (· ∈ Layout.recordKeys)) (h : Fills U fields members) :
    Shows U (.record fields) (.map members) where
  plain := membersHavePlainTags_iff.mpr h.plain
  conforms := by
    obtain ⟨present, hsublist, hnames, hshows⟩ := h.exists_present
    -- names of fields do not begin with an underscore, so they are shown as they are
    have hshown : ∀ field ∈ present, shownName field.1 = field.1 := by
      intro field hfield
      have hname := List.mem_map_of_mem (f := Prod.fst) (hsublist.subset hfield)
      have hkey : field.1 ∈ Layout.recordKeys :=
        of_decide_eq_true (List.all_eq_true.mp hkeys field.1 hname)
      exact shownName_eq_self (Json.not_head?_of_mem_recordKeys hkey)
    rw [tree, memberTrees_eq_map]
    refine .record present hsublist ?_ ?_
    · have hall : members.map (fun member => some (shownName member.1)) =
          (present.map Prod.fst).map (fun name => some (shownName name)) := by
        rw [← hnames, List.map_map]
        rfl
      rw [List.map_map]
      refine hall.trans ?_
      rw [List.map_map]
      exact List.map_congr_left fun field hfield => congrArg some (hshown field hfield)
    · rw [List.zip_map_right]
      exact List.forall_mem_map.mpr fun pair hpair => (hshows pair hpair).conforms

end Doc

end Telemetry
