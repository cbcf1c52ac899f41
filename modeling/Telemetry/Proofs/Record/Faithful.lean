import Mathlib.Tactic.MkIffOfInductiveProp
import Telemetry.Proofs.Record.Layouts
import Telemetry.Proofs.Value.Faithful

/-!
# Texts of requests, resources, scopes and spans

A record leaves out members that would hold a usual value, and nothing is lost by that: records of
one type have one text exactly if they agree in every field (`recordText_eq_iff`).  Fields agree if
they are equal, except that attributes may differ by values that are alike, which the text of a
value does not tell apart either.
-/

namespace Telemetry

open Doc (Faithful FaithfulMembers faithful_string faithful_count faithful_timestamp faithful_flags
  faithful_id faithful_spanRef)

/-! ### Requests -/

theorem Transport.name_injective : Function.Injective name := by
  rintro (_ | _) (_ | _) h
  · rfl
  · exact absurd h (by decide)
  · exact absurd h (by decide)
  · rfl

namespace Headers

/-- The values of one name, which are written as a string if there is exactly one. -/
def valuesDoc : List String → Doc
  | [value] => .string value
  | values => .array (values.map .string)

theorem faithful_valuesDoc : Faithful valuesDoc Eq := by
  have harray := faithful_string.array
  rw [List.forall₂_eq_eq_eq] at harray
  rintro (_ | ⟨v, _ | ⟨v', vs⟩⟩) (_ | ⟨w, _ | ⟨w', ws⟩⟩)
  · exact harray [] []
  · exact iff_of_false nofun nofun
  · exact harray [] (w :: w' :: ws)
  · exact iff_of_false nofun nofun
  · rw [List.cons.injEq, and_iff_left rfl]
    exact faithful_string v w
  · exact iff_of_false nofun nofun
  · exact harray (v :: v' :: vs) []
  · exact iff_of_false nofun nofun
  · exact harray (v :: v' :: vs) (w :: w' :: ws)

theorem faithful_toDoc : Faithful toDoc Eq := by
  have hdoc : toDoc = fun headers : Headers =>
      .map (headers.entries.map fun entry => (entry.1, valuesDoc entry.2)) := by
    refine funext fun headers => congrArg Doc.map (List.map_congr_left ?_)
    rintro ⟨name, _ | ⟨value, _ | ⟨next, more⟩⟩⟩ - <;> rfl
  have hentries := (Doc.faithful_map Function.injective_id faithful_valuesDoc).comap
    fun headers : Headers => headers.entries
  rw [hdoc]
  refine hentries.congr fun a b => ?_
  simp only [← Prod.ext_iff, List.forall₂_eq_eq_eq]
  cases a
  cases b
  rw [Table.mk.injEq]

end Headers

theorem optionRel_eq_iff {α : Type} {o p : Option α} : Option.Rel Eq o p ↔ o = p := by
  constructor
  · intro h
    cases h with
    | some h => rw [h]
    | none => rfl
  · rintro rfl
    cases o with
    | some a => exact .some rfl
    | none => exact .none

theorem RequestMeta.faithful_toDoc : Faithful toDoc Eq := by
  have hmembers := (FaithfulMembers.member "transport" (faithful_string.comap fun r : RequestMeta =>
      r.transport.name))
    |>.append (.memberUnless "peer" peer "" faithful_string) (by decide)
    |>.append (.member? "headers" headers Headers.faithful_toDoc) (by decide)
  refine hmembers.record.congr fun a b => ?_
  rw [Transport.name_injective.eq_iff, optionRel_eq_iff]
  cases a
  cases b
  simp only [RequestMeta.mk.injEq, and_assoc]

/-! ### Resources and scopes -/

theorem faithful_attributeMembers {α : Type} (attr : α → Attributes) (dropped : α → UInt32) :
    FaithfulMembers ["attr", "attr.dropped"] (fun a => attributeMembers (attr a) (dropped a))
      fun a b => (attr a).Alike (attr b) ∧ dropped a = dropped b :=
  (FaithfulMembers.memberUnlessEmpty "attr" attr Attributes.faithful_toDoc).append
    (.memberUnless "attr.dropped" dropped 0 faithful_count) (by decide)

/-- The resources agree in every field. -/
@[mk_iff]
structure Resource.Alike (a b : Resource) : Prop where
  attr : a.attr.Alike b.attr
  dropped : a.dropped = b.dropped
  schema : a.schema = b.schema

theorem Resource.faithful_toDoc : Faithful toDoc Alike := by
  have hmembers := (faithful_attributeMembers attr dropped)
    |>.append (.memberUnless "schema" schema "" faithful_string) (by decide)
  refine hmembers.record.congr fun a b => ?_
  rw [alike_iff, and_assoc]

/-- The scopes agree in every field. -/
@[mk_iff]
structure Scope.Alike (a b : Scope) : Prop where
  name : a.name = b.name
  version : a.version = b.version
  attr : a.attr.Alike b.attr
  dropped : a.dropped = b.dropped
  schema : a.schema = b.schema

theorem Scope.faithful_toDoc : Faithful toDoc Alike := by
  have hmembers := (FaithfulMembers.memberUnless "name" name "" faithful_string)
    |>.append (.memberUnless "version" version "" faithful_string) (by decide)
    |>.append (faithful_attributeMembers attr dropped) (by decide)
    |>.append (.memberUnless "schema" schema "" faithful_string) (by decide)
  refine hmembers.record.congr fun a b => ?_
  rw [alike_iff]
  simp only [and_assoc]

/-! ### Spans -/

/-- The events agree in every field. -/
@[mk_iff]
structure SpanEvent.Alike (a b : SpanEvent) : Prop where
  name : a.name = b.name
  time : a.time = b.time
  attr : a.attr.Alike b.attr
  dropped : a.dropped = b.dropped

theorem SpanEvent.faithful_toDoc : Faithful toDoc Alike := by
  have hmembers := (FaithfulMembers.member "name" (faithful_string.comap name))
    |>.append (.memberUnless "time" time 0 faithful_timestamp) (by decide)
    |>.append (faithful_attributeMembers attr dropped) (by decide)
  refine hmembers.record.congr fun a b => ?_
  rw [alike_iff]
  simp only [and_assoc]

/-- The links agree in every field. -/
@[mk_iff]
structure SpanLink.Alike (a b : SpanLink) : Prop where
  target : a.target = b.target
  attr : a.attr.Alike b.attr
  dropped : a.dropped = b.dropped
  state : a.state = b.state

theorem SpanLink.faithful_toDoc : Faithful toDoc Alike := by
  have hmembers := (FaithfulMembers.member "span" (faithful_spanRef.comap target))
    |>.append (faithful_attributeMembers attr dropped) (by decide)
    |>.append (.memberUnless "state" state "" faithful_string) (by decide)
  refine hmembers.record.congr fun a b => ?_
  rw [alike_iff]
  simp only [and_assoc]

theorem Id.eq_zero_of_isPresent {kind : IdKind} {id : Id kind} (h : id.isPresent = false) :
    id = .zero := by
  cases id
  simpa [isPresent, zero] using h

theorem Origin.faithful_members : FaithfulMembers ["req", "res", "scope"] members Eq := by
  have hmembers := (FaithfulMembers.member "req" (faithful_id.comap request))
    |>.append (.append (.member "res" (faithful_id.comap resource))
      (.member "scope" (faithful_id.comap scope)) (by decide)) (by decide)
  refine hmembers.congr fun a b => ?_
  cases a
  cases b
  rw [Origin.mk.injEq]

theorem SpanSummary.faithful_members :
    FaithfulMembers ["parent", "name", "status", "start", "end"] members Eq := by
  -- no parent is written as none, which is the zero id
  have hparent : FaithfulMembers ["parent"]
      (fun s : SpanSummary => Doc.memberIf s.parent.isPresent "parent" s.parent.toDoc)
      fun a b => a.parent = b.parent :=
    .memberIf "parent" (faithful_id.comap parent) (fun _ _ _ _ => .rfl) (fun a b h => by rw [h])
      fun a b ha hb => by rw [Id.eq_zero_of_isPresent ha, Id.eq_zero_of_isPresent hb]
  have hmembers := hparent
    |>.append (.member "name" (faithful_string.comap name)) (by decide)
    |>.append (.memberUnless "status" status "" faithful_string) (by decide)
    |>.append (.append (.member "start" (faithful_timestamp.comap start))
      (.member "end" (faithful_timestamp.comap finish)) (by decide)) (by decide)
  refine hmembers.congr fun a b => ?_
  cases a
  cases b
  simp only [SpanSummary.mk.injEq, and_assoc]

/-- The spans agree in every field. -/
@[mk_iff]
structure Span.Alike (a b : Span) : Prop where
  origin : a.origin = b.origin
  summary : a.summary = b.summary
  kind : a.kind = b.kind
  statusMessage : a.statusMessage = b.statusMessage
  attr : a.attr.Alike b.attr
  dropped : a.dropped = b.dropped
  state : a.state = b.state
  flags : a.flags = b.flags
  events : List.Forall₂ SpanEvent.Alike a.events b.events
  eventsDropped : a.eventsDropped = b.eventsDropped
  links : List.Forall₂ SpanLink.Alike a.links b.links
  linksDropped : a.linksDropped = b.linksDropped

theorem Span.faithful_toDoc : Faithful toDoc Alike := by
  have hmembers := (Origin.faithful_members.comap origin)
    |>.append (SpanSummary.faithful_members.comap summary) (by decide)
    |>.append (.member "kind" (faithful_string.comap kind)) (by decide)
    |>.append (.memberUnless "status.msg" statusMessage "" faithful_string) (by decide)
    |>.append (faithful_attributeMembers attr dropped) (by decide)
    |>.append (.memberUnless "state" state "" faithful_string) (by decide)
    |>.append (.memberUnless "flags" flags usualFlags faithful_flags) (by decide)
    |>.append (.memberUnlessEmpty "events" events SpanEvent.faithful_toDoc.array) (by decide)
    |>.append (.memberUnless "events.dropped" eventsDropped 0 faithful_count) (by decide)
    |>.append (.memberUnlessEmpty "links" links SpanLink.faithful_toDoc.array) (by decide)
    |>.append (.memberUnless "links.dropped" linksDropped 0 faithful_count) (by decide)
  refine hmembers.record.congr fun a b => ?_
  rw [alike_iff]
  simp only [and_assoc]

/-- **The text of a record loses nothing.**  Requests, resources, scopes, events, links and spans
have one text exactly if they agree in every field, whatever members are left out. -/
theorem recordText_eq_iff :
    (∀ a b : RequestMeta, a.toDoc.render = b.toDoc.render ↔ a = b) ∧
      (∀ a b : Resource, a.toDoc.render = b.toDoc.render ↔ a.Alike b) ∧
      (∀ a b : Scope, a.toDoc.render = b.toDoc.render ↔ a.Alike b) ∧
      (∀ a b : SpanEvent, a.toDoc.render = b.toDoc.render ↔ a.Alike b) ∧
      (∀ a b : SpanLink, a.toDoc.render = b.toDoc.render ↔ a.Alike b) ∧
      ∀ a b : Span, a.toDoc.render = b.toDoc.render ↔ a.Alike b := by
  refine ⟨RequestMeta.faithful_toDoc.render_eq_iff fun r => ?_,
    Resource.faithful_toDoc.render_eq_iff fun r => ?_,
    Scope.faithful_toDoc.render_eq_iff fun c => ?_,
    SpanEvent.faithful_toDoc.render_eq_iff fun e => ?_,
    SpanLink.faithful_toDoc.render_eq_iff fun l => ?_,
    Span.faithful_toDoc.render_eq_iff fun s => ?_⟩
  · exact (RequestMeta.shows_toDoc (U := fun _ => True) fun _ _ => trivial).plain
  · exact (Resource.shows_toDoc (U := fun _ => True) fun _ _ => trivial).plain
  · exact (Scope.shows_toDoc (U := fun _ => True) fun _ _ => trivial).plain
  · exact (SpanEvent.shows_toDoc (U := fun _ => True) fun _ _ => trivial).plain
  · exact (SpanLink.shows_toDoc (U := fun _ => True) fun _ _ => trivial).plain
  · exact (Span.shows_toDoc (U := fun _ => True) fun _ _ => trivial).plain

end Telemetry
