import Telemetry.Proofs.Json.Names
import Telemetry.Proofs.Table

/-!
# Layouts of JSON trees

A layout says what a tree looks like: which members a record may have, and in which order; that the
members of a table are named by ids and those of a map by keys from outside; which envelopes there
are, and what stands in them.  `Json.Conforms` says that a tree is laid out in some way.

A layout is proper if its records use each name once and no names but those of `Layout.recordKeys`.
Then every object in a tree, at any depth, has one of four forms (`Json.Conforms.everyObject`), and
each form has its names to itself: envelopes the tags (`Json.HasForm.isEnvelope_of_isTag`), and none
of them repeats a name (`Json.HasForm.nodup`).
-/

namespace Telemetry

namespace Json

/-! ### Objects at any depth -/

/-- The members of every object in a tree have the property, at any depth. -/
inductive EveryObject (P : List (Option String × Json) → Prop) : Json → Prop where
  | null : EveryObject P .null
  | bool (b : Bool) : EveryObject P (.bool b)
  | number (n : NumberLiteral) : EveryObject P (.number n)
  | string (s : Option String) : EveryObject P (.string s)
  | array {items : List Json} : (∀ item ∈ items, EveryObject P item) → EveryObject P (.array items)
  | object {members : List (Option String × Json)} : P members →
      (∀ member ∈ members, EveryObject P member.2) → EveryObject P (.object members)

theorem EveryObject.mono {P Q : List (Option String × Json) → Prop} {tree : Json}
    (h : tree.EveryObject P) (hPQ : ∀ members, P members → Q members) : tree.EveryObject Q := by
  induction h with
  | null => exact .null
  | bool b => exact .bool b
  | number n => exact .number n
  | string s => exact .string s
  | array _ ih => exact .array ih
  | object hmembers _ ih => exact .object (hPQ _ hmembers) ih

/-! ### Envelopes -/

/-- Decimal digits. -/
def IsDecimal (text : List Char) : Prop :=
  text ≠ [] ∧ ∀ c ∈ text, c.isDigit

/-- Decimal digits, in front of which a minus sign may stand. -/
def IsInteger (text : List Char) : Prop :=
  IsDecimal text ∨ ∃ digits, text = '-' :: digits ∧ IsDecimal digits

/-- Lower-case hexadecimal digits. -/
def IsHex (text : List Char) : Prop :=
  ∀ c ∈ text, Hex.IsDigit c

/-- As many lower-case hexadecimal digits. -/
def IsHexOf (length : Nat) (text : List Char) : Prop :=
  text.length = length ∧ IsHex text

/-- What an envelope holds. -/
inductive EnvelopeKind where
  | int
  | timestamp
  | flags
  | bytes
  | request
  | resource
  | scope
  | span
  | spanRef

/-- The tags of an envelope and what stands under them. -/
def EnvelopeKind.parts : EnvelopeKind → List (String × (List Char → Prop))
  | .int => [("_int", IsInteger)]
  | .timestamp => [("_ts", IsDecimal)]
  | .flags => [("_flg", fun text => text ≠ [] ∧ IsHex text)]
  | .bytes => [("_byt", fun text => text.length % 2 = 0 ∧ IsHex text)]
  | .request => [("_req", IsHexOf 16)]
  | .resource => [("_res", IsHexOf 16)]
  | .scope => [("_scope", IsHexOf 16)]
  | .span => [("_span", IsHexOf 16)]
  | .spanRef => [("_span", IsHexOf 16), ("_trace", IsHexOf 32)]

/-- The members are those of an envelope: the tags in their order, and under each a string. -/
def IsEnvelope (kind : EnvelopeKind) (members : List (Option String × Json)) : Prop :=
  List.Forall₂ (fun part member => ∃ text : String,
    member = (some part.1, .string (some text)) ∧ part.2 text.toList) kind.parts members

theorem EnvelopeKind.nodup (kind : EnvelopeKind) : (kind.parts.map Prod.fst).Nodup := by
  cases kind <;> decide

end Json

/-! ### Layouts -/

/-- What a tree looks like. -/
inductive Layout where
  | bool
  | double
  | string
  | envelope (kind : Json.EnvelopeKind)
  /-- Any attribute value. -/
  | value
  | array (item : Layout)
  /-- An object with ids as names. -/
  | table (kind : IdKind) (entry : Layout)
  /-- An object with names from outside. -/
  | map (entry : Layout)
  /-- An object with some of the given members in the given order. -/
  | record (fields : List (String × Layout))
  | oneOf (choices : List Layout)

namespace Layout

/-- A field of a record. -/
def field (name : String) (layout : Layout) : List (String × Layout) :=
  [(name, layout)]

/-- What attribute values look like. -/
def values : List Layout :=
  [.bool, .double, .string, .envelope .int, .envelope .timestamp, .envelope .flags,
    .envelope .bytes, .array .value, .map .value]

/-- The names of fields. -/
def recordKeys : List String :=
  ["attr", "attr.dropped", "body", "bounds", "buckets", "cnt", "conflict", "desc", "end", "event",
    "events", "events.dropped", "exemplars", "flags", "headers", "kind", "links", "links.dropped",
    "log", "max", "meta", "metric", "metrics", "min", "mono", "name", "neg", "neg.off", "parent",
    "peer", "pos", "pos.off", "pts", "q", "quantiles", "req", "request", "requests", "res",
    "resource", "resources", "scale", "schema", "scope", "scopes", "sev", "sev.text", "span",
    "start", "state", "status", "status.msg", "streams", "sum", "tempo", "time", "time.obs",
    "time.start", "trace", "transport", "type", "unit", "v", "val", "value", "version", "zeros",
    "zeros.thre"]

mutual

/-- Every record uses each of its names once, and all of them are names of fields. -/
def isProper : Layout → Bool
  | .array item => isProper item
  | .table _ entry => isProper entry
  | .map entry => isProper entry
  | .record fields =>
    decide (fields.map Prod.fst).Nodup && (fields.map Prod.fst).all (· ∈ recordKeys) &&
      fieldsAreProper fields
  | .oneOf choices => choicesAreProper choices
  | _ => true

/-- Every field has a proper layout. -/
def fieldsAreProper : List (String × Layout) → Bool
  | [] => true
  | (_, layout) :: more => isProper layout && fieldsAreProper more

/-- Every choice is proper. -/
def choicesAreProper : List Layout → Bool
  | [] => true
  | layout :: more => isProper layout && choicesAreProper more

end

theorem isProper_record {fields : List (String × Layout)} :
    (record fields).isProper ↔ (fields.map Prod.fst).Nodup ∧
      (∀ name ∈ fields.map Prod.fst, name ∈ recordKeys) ∧ fieldsAreProper fields := by
  simp only [isProper, Bool.and_eq_true, decide_eq_true_eq, List.all_eq_true, and_assoc]

theorem isProper_of_mem_fields {fields : List (String × Layout)} (h : fieldsAreProper fields)
    {field : String × Layout} (hfield : field ∈ fields) : field.2.isProper := by
  induction fields with
  | nil => cases hfield
  | cons first more ih =>
    rw [fieldsAreProper, Bool.and_eq_true] at h
    rcases List.mem_cons.mp hfield with rfl | hfield
    · exact h.1
    · exact ih h.2 hfield

theorem isProper_of_mem_choices {choices : List Layout} (h : choicesAreProper choices)
    {layout : Layout} (hlayout : layout ∈ choices) : layout.isProper := by
  induction choices with
  | nil => cases hlayout
  | cons first more ih =>
    rw [choicesAreProper, Bool.and_eq_true] at h
    rcases List.mem_cons.mp hlayout with rfl | hlayout
    · exact h.1
    · exact ih h.2 hlayout

theorem isProper_of_mem_values {layout : Layout} (h : layout ∈ values) : layout.isProper :=
  have hvalues : choicesAreProper values := by decide
  isProper_of_mem_choices hvalues h

end Layout

namespace Json

variable {U : List String → Prop}

/-- The tree is laid out in the given way, and the keys of all its maps have `U`. -/
inductive Conforms (U : List String → Prop) : Layout → Json → Prop where
  | bool (b : Bool) : Conforms U .bool (.bool b)
  | number (n : NumberLiteral) : Conforms U .double (.number n)
  | noNumber {name : String} : name ∈ ["NaN", "-Inf", "+Inf"] →
      Conforms U .double (.string (some name))
  | string (s : String) : Conforms U .string (.string (some s))
  | envelope {kind : EnvelopeKind} {members : List (Option String × Json)} :
      IsEnvelope kind members → Conforms U (.envelope kind) (.object members)
  | value {layout : Layout} {tree : Json} : layout ∈ Layout.values → Conforms U layout tree →
      Conforms U .value tree
  | oneOf {choices : List Layout} {layout : Layout} {tree : Json} : layout ∈ choices →
      Conforms U layout tree → Conforms U (.oneOf choices) tree
  | array {item : Layout} {items : List Json} : (∀ tree ∈ items, Conforms U item tree) →
      Conforms U (.array item) (.array items)
  /-- The ids ascend. -/
  | table {kind : IdKind} {entry : Layout} (ids : List (Id kind))
      {members : List (Option String × Json)} :
      ids.Pairwise (fun a b => Id.order a b = .lt) →
      members.map Prod.fst = ids.map (fun id => some id.hex) →
      (∀ member ∈ members, Conforms U entry member.2) →
      Conforms U (.table kind entry) (.object members)
  | map {entry : Layout} (keys : List String) {members : List (Option String × Json)} :
      U keys → members.map Prod.fst = keys.map (fun key => some (Doc.shownName key)) →
      (∀ member ∈ members, Conforms U entry member.2) → Conforms U (.map entry) (.object members)
  /-- The fields that are there are in the order of the layout. -/
  | record {fields : List (String × Layout)} (present : List (String × Layout))
      {members : List (Option String × Json)} :
      present.Sublist fields → members.map Prod.fst = present.map (fun field => some field.1) →
      (∀ pair ∈ present.zip members, Conforms U pair.1.2 pair.2.2) →
      Conforms U (.record fields) (.object members)

theorem Conforms.mono {U' : List String → Prop} {layout : Layout} {tree : Json}
    (h : tree.Conforms U layout) (hU : ∀ keys, U keys → U' keys) : tree.Conforms U' layout := by
  induction h with
  | bool b => exact .bool b
  | number n => exact .number n
  | noNumber hname => exact .noNumber hname
  | string s => exact .string s
  | envelope hmembers => exact .envelope hmembers
  | value hlayout _ ih => exact .value hlayout ih
  | oneOf hlayout _ ih => exact .oneOf hlayout ih
  | array _ ih => exact .array ih
  | table ids hids hnames _ ih => exact .table ids hids hnames ih
  | map keys hkeys hnames _ ih => exact .map keys (hU keys hkeys) hnames ih
  | record present hpresent hnames _ ih => exact .record present hpresent hnames ih

/-! ### Forms of objects -/

/-- The members are those of an envelope, of a record, of a table or of a map. -/
inductive HasForm (U : List String → Prop) (members : List (Option String × Json)) : Prop where
  | envelope (kind : EnvelopeKind) : IsEnvelope kind members → HasForm U members
  | record (names : List String) : names.Nodup → (∀ name ∈ names, name ∈ Layout.recordKeys) →
      members.map Prod.fst = names.map some → HasForm U members
  | table {kind : IdKind} (ids : List (Id kind)) : ids.Nodup →
      members.map Prod.fst = ids.map (fun id => some id.hex) → HasForm U members
  | map (keys : List String) : U keys →
      members.map Prod.fst = keys.map (fun key => some (Doc.shownName key)) → HasForm U members

theorem IsEnvelope.eq_string {kind : EnvelopeKind} {members : List (Option String × Json)}
    (h : IsEnvelope kind members) {member : Option String × Json} (hmember : member ∈ members) :
    ∃ text : String, member.2 = .string (some text) := by
  unfold IsEnvelope at h
  generalize kind.parts = parts at h
  induction h with
  | nil => cases hmember
  | cons hfirst _ ih =>
    rcases List.mem_cons.mp hmember with rfl | hmember
    · obtain ⟨text, rfl, -⟩ := hfirst
      exact ⟨text, rfl⟩
    · exact ih hmember

theorem IsEnvelope.names {kind : EnvelopeKind} {members : List (Option String × Json)}
    (h : IsEnvelope kind members) :
    members.map Prod.fst = (kind.parts.map Prod.fst).map some := by
  rw [List.map_map, ← List.forall₂_eq_eq_eq, List.forall₂_map_left_iff, List.forall₂_map_right_iff]
  refine h.flip.imp ?_
  rintro member part ⟨text, rfl, -⟩
  rfl

theorem exists_mem_zip {α β γ : Type} {f : α → γ} {g : β → γ} {as : List α} {bs : List β}
    (h : bs.map g = as.map f) {b : β} (hb : b ∈ bs) : ∃ a ∈ as, (a, b) ∈ as.zip bs := by
  induction bs generalizing as with
  | nil => cases hb
  | cons first bs ih =>
    cases as with
    | nil => cases h
    | cons a as =>
      rcases List.mem_cons.mp hb with rfl | hb
      · exact ⟨a, List.mem_cons_self, List.mem_cons_self⟩
      · obtain ⟨x, hx, hzip⟩ := ih (List.cons.inj h).2 hb
        exact ⟨x, List.mem_cons_of_mem _ hx, List.mem_cons_of_mem _ hzip⟩

/-- **Every object in a tree of a proper layout has one of the four forms.** -/
theorem Conforms.everyObject {layout : Layout} {tree : Json} (h : tree.Conforms U layout)
    (hproper : layout.isProper) : tree.EveryObject (HasForm U) := by
  induction h with
  | bool b => exact .bool b
  | number n => exact .number n
  | noNumber => exact .string _
  | string s => exact .string _
  | envelope hmembers =>
    refine .object (.envelope _ hmembers) fun member hmember => ?_
    -- there are only strings under tags, so nothing has to be said of what they hold
    obtain ⟨text, htext⟩ := hmembers.eq_string hmember
    rw [htext]
    exact .string _
  | value hlayout _ ih => exact ih (Layout.isProper_of_mem_values hlayout)
  | oneOf hlayout _ ih =>
    rw [Layout.isProper] at hproper
    exact ih (Layout.isProper_of_mem_choices hproper hlayout)
  | array _ ih =>
    rw [Layout.isProper] at hproper
    exact .array fun tree htree => ih tree htree hproper
  | table ids hids hnames _ ih =>
    rw [Layout.isProper] at hproper
    have hnodup : ids.Nodup := Table.nodup_of_ascending hids
    exact .object (.table ids hnodup hnames) fun member hmember => ih member hmember hproper
  | map keys hkeys hnames _ ih =>
    rw [Layout.isProper] at hproper
    exact .object (.map keys hkeys hnames) fun member hmember => ih member hmember hproper
  | @record fields present members hpresent hnames _ ih =>
    obtain ⟨hnodup, hkeys, hfields⟩ := Layout.isProper_record.mp hproper
    have hsublist := hpresent.map Prod.fst
    refine .object (.record (present.map Prod.fst) (hsublist.nodup hnodup)
      (fun name hname => hkeys name (hsublist.subset hname)) ?_) fun member hmember => ?_
    · rw [hnames, List.map_map]
      rfl
    · obtain ⟨field, hfield, hpair⟩ := exists_mem_zip hnames hmember
      exact ih _ hpair (Layout.isProper_of_mem_fields hfields (hpresent.subset hfield))

variable {members : List (Option String × Json)}

/-- **No form repeats a name**, if no map repeats a key. -/
theorem HasForm.nodup (h : HasForm U members) (hU : ∀ keys, U keys → keys.Nodup) :
    (members.map Prod.fst).Nodup := by
  cases h with
  | envelope kind hmembers =>
    rw [hmembers.names]
    exact kind.nodup.map (Option.some_injective _)
  | record names hnodup _ hnames =>
    rw [hnames]
    exact hnodup.map (Option.some_injective _)
  | table ids hnodup hnames =>
    rw [hnames]
    exact hnodup.map fun a b h => Id.hex_injective (Option.some.inj h)
  | map keys hkeys hnames =>
    rw [hnames]
    exact (hU keys hkeys).map fun a b h => Doc.shownName_injective (Option.some.inj h)

/-- No name of a field begins with an underscore. -/
theorem not_head?_of_mem_recordKeys {name : String} (h : name ∈ Layout.recordKeys) :
    name.toList.head? ≠ some '_' := by
  have hall : ∀ name ∈ Layout.recordKeys, name.toList.head? ≠ some '_' := by decide
  exact hall name h

theorem not_isTag_of_head? {name : String} (h : name.toList.head? ≠ some '_') :
    ¬Doc.IsTag name := by
  rintro ⟨rest, hrest, -⟩
  rw [hrest] at h
  exact h rfl

/-- **Only envelopes have tags.** -/
theorem HasForm.isEnvelope_of_isTag (h : HasForm U members) {name : String}
    (hname : some name ∈ members.map Prod.fst) (htag : Doc.IsTag name) :
    ∃ kind, IsEnvelope kind members := by
  cases h with
  | envelope kind hmembers => exact ⟨kind, hmembers⟩
  | record names _ hkeys hnames =>
    rw [hnames, List.mem_map] at hname
    obtain ⟨_, hmem, hsome⟩ := hname
    obtain rfl := Option.some.inj hsome
    exact absurd htag (not_isTag_of_head? (not_head?_of_mem_recordKeys (hkeys _ hmem)))
  | table ids _ hnames =>
    rw [hnames, List.mem_map] at hname
    obtain ⟨id, -, hsome⟩ := hname
    obtain rfl := Option.some.inj hsome
    exact absurd htag (not_isTag_of_head? id.not_head?_hex)
  | map keys _ hnames =>
    rw [hnames, List.mem_map] at hname
    obtain ⟨key, -, hsome⟩ := hname
    obtain rfl := Option.some.inj hsome
    exact absurd htag (Doc.not_isTag_shownName key)

/-- What a member of an object can be named that is no envelope: like a field, with an id, or with
a name from outside as it is shown. -/
inductive IsName (K : String → Prop) : String → Prop where
  | field {name : String} : name ∈ Layout.recordKeys → IsName K name
  | id {kind : IdKind} (id : Id kind) : IsName K id.hex
  | key {key : String} : K key → IsName K (Doc.shownName key)

/-- **Any other object names its members in one of three ways.** -/
theorem HasForm.isName (h : HasForm U members) {K : String → Prop}
    (hU : ∀ keys, U keys → ∀ key ∈ keys, K key) :
    (∃ kind, IsEnvelope kind members) ∨
      ∀ member ∈ members, ∃ name, member.1 = some name ∧ IsName K name := by
  have hnamed {names : List String} (hnames : members.map Prod.fst = names.map some)
      (hall : ∀ name ∈ names, IsName K name) :
      ∀ member ∈ members, ∃ name, member.1 = some name ∧ IsName K name := by
    intro member hmember
    have hmem := List.mem_map_of_mem (f := Prod.fst) hmember
    rw [hnames, List.mem_map] at hmem
    obtain ⟨name, hname, hsome⟩ := hmem
    exact ⟨name, hsome.symm, hall name hname⟩
  cases h with
  | envelope kind hmembers => exact .inl ⟨kind, hmembers⟩
  | record names _ hkeys hnames =>
    exact .inr (hnamed hnames fun name hname => .field (hkeys name hname))
  | table ids _ hnames =>
    rw [← Function.comp_def, ← List.map_map] at hnames
    refine .inr (hnamed hnames fun name hname => ?_)
    obtain ⟨id, -, rfl⟩ := List.mem_map.mp hname
    exact .id id
  | map keys hkeys hnames =>
    rw [← Function.comp_def, ← List.map_map] at hnames
    refine .inr (hnamed hnames fun name hname => ?_)
    obtain ⟨key, hkey, rfl⟩ := List.mem_map.mp hname
    exact .key (hU keys hkeys key hkey)

end Json

end Telemetry
