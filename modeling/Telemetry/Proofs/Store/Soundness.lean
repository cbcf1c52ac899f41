import Telemetry.Proofs.Record.Maps
import Telemetry.Proofs.Store.Run

/-!
# What the tables hold in every state

Every key is the digest of what is stored under it, and neither a trace nor a stream is ever empty
(`Store.IsSound`).  Where all attribute maps are made from pairs or by putting values at keys, every
map that is stored ascends, at any depth (`Store.AllMaps`).  Each of the two is kept by every step.

Whatever is done to a store is a step or a whole call, and a call does what its steps do
(`Operation.apply_eq_applyAll`).  So both hold after any operations, and `tables_after_operations`
adds that an interned record stays under its id until a reset.
-/

namespace Telemetry

/-! ### Keys and entries -/

/-- The metric belongs under the id, its streams under theirs, and no stream is empty. -/
structure Metric.IsSound (id : MetricId) (m : Metric) : Prop where
  identity : m.identity.id = id
  streams : m.streams.All fun id stream =>
    Attributes.streamId stream.attr = id ∧ stream.points ≠ []

namespace Metric

theorem isSound_new (identity : MetricIdentity) (description : String) (metadata : Attributes) :
    (new identity description metadata).IsSound identity.id where
  identity := rfl
  streams := Table.all_empty _

theorem streams_mergeHeader (m : Metric) (description : String) (metadata : Attributes) :
    (m.mergeHeader description metadata).streams = m.streams := by
  unfold mergeHeader
  split <;> rfl

theorem metadata_mergeHeader (m : Metric) (description : String) (metadata : Attributes) :
    (m.mergeHeader description metadata).metadata = m.metadata := by
  unfold mergeHeader
  split <;> rfl

theorem IsSound.mergeHeader {id : MetricId} {m : Metric} (h : m.IsSound id) (description : String)
    (metadata : Attributes) : (m.mergeHeader description metadata).IsSound id where
  identity := by rw [Store.identity_mergeHeader, h.identity]
  streams := by
    rw [streams_mergeHeader]
    exact h.streams

theorem IsSound.pushPoint {id : MetricId} {m : Metric} (h : m.IsSound id) (attr : Attributes)
    (point : Point) : (m.pushPoint attr point).IsSound id where
  identity := h.identity
  streams := h.streams.upsert ⟨rfl, List.cons_ne_nil _ _⟩ fun _ hstream =>
    ⟨hstream.1, List.append_ne_nil_of_right_ne_nil _ (List.cons_ne_nil _ _)⟩

end Metric

namespace Store

/-- Every key is the digest of what is stored under it, and no trace and no stream is empty. -/
structure IsSound (s : Store) : Prop where
  requests : s.requests.All fun id r => r.id = id
  resources : s.resources.All fun id r => r.id = id
  scopes : s.scopes.All fun id c => c.id = id
  traces : s.traces.All fun _ trace => trace.size ≠ 0
  metrics : s.metrics.All Metric.IsSound

theorem isSound_empty : empty.IsSound where
  requests := Table.all_empty _
  resources := Table.all_empty _
  scopes := Table.all_empty _
  traces := Table.all_empty _
  metrics := Table.all_empty _

theorem IsSound.apply {s : Store} (h : s.IsSound) (a : Step) : (a.apply s).IsSound := by
  cases a with
  | internRequest r => exact { h with requests := h.requests.insertIfNew rfl }
  | internResource r => exact { h with resources := h.resources.insertIfNew rfl }
  | internScope c => exact { h with scopes := h.scopes.insertIfNew rfl }
  | commitSpan ref span =>
    have hsize (trace : Trace) : (trace.insertIfNew ref.span span).size ≠ 0 := by
      rw [Table.insertIfNew, Table.size_upsert]
      split
      · rename_i hold
        obtain ⟨span, hspan⟩ := Option.isSome_iff_exists.mp hold
        intro hzero
        rw [Table.size, List.length_eq_zero_iff] at hzero
        rw [Table.get?, hzero] at hspan
        cases hspan
      · exact Nat.succ_ne_zero _
    exact { h with traces := h.traces.upsert (hsize _) fun trace _ => hsize trace }
  | commitLog log => exact { h with }
  | commitMetric identity description metadata =>
    exact { h with
      metrics := h.metrics.upsert (Metric.isSound_new identity description metadata)
        fun _ hm => hm.mergeHeader description metadata }
  | commitPoint identity description metadata attr point =>
    exact { h with
      metrics := h.metrics.upsert
        ((Metric.isSound_new identity description metadata).pushPoint attr point)
        fun _ hm => hm.pushPoint attr point }
  | showMetric id => exact h
  | reset => exact isSound_empty

theorem IsSound.applyAll {s : Store} (h : s.IsSound) (steps : List Step) :
    (Step.applyAll s steps).IsSound := by
  induction steps generalizing s with
  | nil => exact h
  | cons a steps ih => exact ih (h.apply a)

/-! ### Attribute maps -/

/-- Every attribute map in the store has `P`, at any depth. -/
structure AllMaps (P : Attributes → Prop) (s : Store) : Prop where
  resources : s.resources.All fun _ r => ∀ m ∈ r.maps, P m
  scopes : s.scopes.All fun _ c => ∀ m ∈ c.maps, P m
  traces : s.traces.All fun _ trace => trace.All fun _ span => ∀ m ∈ span.maps, P m
  logs : ∀ log ∈ s.logs, ∀ m ∈ log.maps, P m
  metadata : s.metrics.All fun _ metric => ∀ m ∈ Attributes.maps metric.metadata, P m
  streams : s.metrics.All fun _ metric =>
    metric.streams.All fun _ stream => ∀ m ∈ stream.maps, P m

theorem allMaps_empty (P : Attributes → Prop) : empty.AllMaps P where
  resources := Table.all_empty _
  scopes := Table.all_empty _
  traces := Table.all_empty _
  logs _ hlog := absurd hlog (Array.not_mem_empty _)
  metadata := Table.all_empty _
  streams := Table.all_empty _

variable {P : Attributes → Prop}

/-- A point brings the maps of its own and those of its attributes into a metric. -/
theorem allMaps_pushPoint {m : Metric}
    (h : m.streams.All fun _ stream => ∀ m ∈ stream.maps, P m) {attr : Attributes} {point : Point}
    (hattr : ∀ m ∈ Attributes.maps attr, P m) (hpoint : ∀ m ∈ point.maps, P m) :
    (m.pushPoint attr point).streams.All fun _ stream => ∀ m ∈ stream.maps, P m := by
  refine h.upsert ?_ fun stream hstream => ?_
  · rw [MetricStream.maps, List.flatMap_singleton, List.forall_mem_append]
    exact ⟨hattr, hpoint⟩
  · rw [MetricStream.maps, List.forall_mem_append] at hstream ⊢
    rw [List.flatMap_append, List.flatMap_singleton, List.forall_mem_append]
    exact ⟨hstream.1, hstream.2, hpoint⟩

theorem AllMaps.apply {s : Store} (h : s.AllMaps P) {a : Step} (ha : ∀ m ∈ a.maps, P m) :
    (a.apply s).AllMaps P := by
  cases a with
  | internRequest r => exact { h with }
  | internResource r => exact { h with resources := h.resources.insertIfNew ha }
  | internScope c => exact { h with scopes := h.scopes.insertIfNew ha }
  | commitSpan ref span =>
    exact { h with
      traces := h.traces.upsert ((Table.all_empty _).insertIfNew ha)
        fun _ htrace => htrace.insertIfNew ha }
  | commitLog log =>
    refine { h with logs := fun l hl => ?_ }
    rcases Array.mem_push.mp hl with hl | rfl
    · exact h.logs l hl
    · exact ha
  | commitMetric identity description metadata =>
    exact { h with
      metadata := h.metadata.upsert ha fun metric hmetric => by
        rw [Metric.metadata_mergeHeader]
        exact hmetric
      streams := h.streams.upsert (Table.all_empty _) fun metric hmetric => by
        rw [Metric.streams_mergeHeader]
        exact hmetric }
  | commitPoint identity description metadata attr point =>
    rw [Step.maps, List.forall_mem_append, List.forall_mem_append] at ha
    obtain ⟨⟨hmetadata, hattr⟩, hpoint⟩ := ha
    exact { h with
      metadata := h.metadata.upsert hmetadata fun _ hmetric => hmetric
      streams := h.streams.upsert (allMaps_pushPoint (Table.all_empty _) hattr hpoint)
        fun _ hmetric => allMaps_pushPoint hmetric hattr hpoint }
  | showMetric id => exact h
  | reset => exact allMaps_empty P

theorem AllMaps.applyAll {s : Store} (h : s.AllMaps P) {steps : List Step}
    (hsteps : ∀ a ∈ steps, ∀ m ∈ a.maps, P m) : (Step.applyAll s steps).AllMaps P := by
  induction steps generalizing s with
  | nil => exact h
  | cons a steps ih =>
    rw [List.forall_mem_cons] at hsteps
    exact ih (h.apply hsteps.1) hsteps.2

end Store

/-! ### Operations -/

/-- What is done to a store: a step of its own, or a whole call. -/
inductive Operation where
  | step (a : Step)
  | ingest (call : Call)

namespace Operation

/-- The store after an operation. -/
def apply (s : Store) : Operation → Store
  | .step a => a.apply s
  | .ingest call => (s.ingest call.clock call.payload call.sender).2.store

/-- The store after some operations, in order. -/
def applyAll (s : Store) (operations : List Operation) : Store :=
  operations.foldl apply s

/-- The steps that an operation takes. -/
def steps : Operation → List Step
  | .step a => [a]
  | .ingest call => call.steps

/-- **A call does what its steps do**, which is nothing if it is refused. -/
theorem apply_eq_applyAll (s : Store) (operation : Operation) :
    operation.apply s = Step.applyAll s operation.steps := by
  cases operation with
  | step a => rfl
  | ingest call =>
    unfold apply steps Store.ingest Call.steps
    dsimp only
    cases call.payload.steps call.clock call.sender <;> rfl

theorem applyAll_eq_applyAll (s : Store) (operations : List Operation) :
    applyAll s operations = Step.applyAll s (operations.flatMap steps) := by
  induction operations generalizing s with
  | nil => rfl
  | cons operation operations ih =>
    rw [List.flatMap_cons, Step.applyAll_append, ← apply_eq_applyAll]
    exact ih (operation.apply s)

theorem mem_flatMap_steps {operations : List Operation} {a : Step}
    (h : a ∈ operations.flatMap steps) :
    .step a ∈ operations ∨ ∃ call, .ingest call ∈ operations ∧ a ∈ call.steps := by
  obtain ⟨operation, hoperation, ha⟩ := List.mem_flatMap.mp h
  cases operation with
  | step b =>
    obtain rfl := List.mem_singleton.mp ha
    exact .inl hoperation
  | ingest call => exact .inr ⟨call, hoperation, ha⟩

/-- Only a reset of its own resets the store. -/
theorem isReset_of_mem_flatMap_steps {operations : List Operation}
    (hreset : .step .reset ∉ operations) {a : Step} (h : a ∈ operations.flatMap steps) :
    a.isReset = false := by
  rcases mem_flatMap_steps h with ha | ⟨call, -, ha⟩
  · cases hcase : a.isReset with
    | false => rfl
    | true => exact absurd (Step.eq_reset_of_isReset hcase ▸ ha) hreset
  · exact Call.isReset_of_mem_steps ha

theorem allMaps_applyAll {operations : List Operation}
    (h : ∀ a, .step a ∈ operations → ∀ m ∈ a.maps, m.Built) :
    (applyAll .empty operations).AllMaps Attributes.Ascending := by
  rw [applyAll_eq_applyAll]
  refine (Store.allMaps_empty _).applyAll fun a ha m hm => Attributes.Built.ascending ?_
  rcases mem_flatMap_steps ha with ha | ⟨call, -, ha⟩
  · exact h a ha m hm
  · exact Call.built_of_mem_steps ha m hm

/-- **What the tables hold in every state.**  After any operations on an empty store every key is
the digest of what is stored under it, no trace and no stream is empty, and every attribute map
ascends if those of single steps were made from pairs or by putting values at keys.  A request,
resource or scope stays under its id whatever is done afterwards, up to a reset. -/
theorem tables_after_operations (operations : List Operation) :
    (applyAll .empty operations).IsSound ∧
    ((∀ a, .step a ∈ operations → ∀ m ∈ a.maps, m.Built) →
      (applyAll .empty operations).AllMaps Attributes.Ascending) ∧
    ∀ later, .step .reset ∉ later →
      (∀ id r, (applyAll .empty operations).requests.get? id = some r →
        (applyAll .empty (operations ++ later)).requests.get? id = some r) ∧
      (∀ id r, (applyAll .empty operations).resources.get? id = some r →
        (applyAll .empty (operations ++ later)).resources.get? id = some r) ∧
      ∀ id c, (applyAll .empty operations).scopes.get? id = some c →
        (applyAll .empty (operations ++ later)).scopes.get? id = some c := by
  refine ⟨?_, allMaps_applyAll, fun later hreset => ?_⟩
  · rw [applyAll_eq_applyAll]
    exact Store.isSound_empty.applyAll _
  · have hafter : applyAll .empty (operations ++ later) =
        Step.applyAll (applyAll .empty operations) (later.flatMap steps) := by
      rw [applyAll, List.foldl_append]
      exact applyAll_eq_applyAll _ later
    have hsteps : ∀ a ∈ later.flatMap steps, a.isReset = false :=
      fun a ha => isReset_of_mem_flatMap_steps hreset ha
    rw [hafter]
    -- what is viewed at an id before is the first offer, so no later one counts
    refine ⟨fun id r h => ?_, fun id r h => ?_, fun id c h => ?_⟩
    · rw [(Store.keepsFirst_request id).applyAll _ hsteps, h, Option.some_or]
    · rw [(Store.keepsFirst_resource id).applyAll _ hsteps, h, Option.some_or]
    · rw [(Store.keepsFirst_scope id).applyAll _ hsteps, h, Option.some_or]

/-- A resource with a map inside its attributes, both made from pairs. -/
def nestedResource : Resource where
  attr := .ofPairs [("host", .map (Attributes.ofPairs [("name", .string "a"), ("id", .uint 1)]))]
  dropped := 0
  schema := ""

theorem tables_after_nestedResource :
    (∀ a, .step a ∈ [step (.internResource nestedResource)] → ∀ m ∈ a.maps, m.Built) ∧
    step .reset ∉ [step (.internResource .empty)] ∧
    (applyAll .empty [step (.internResource nestedResource)]).AllMaps Attributes.Ascending ∧
    (applyAll .empty ([step (.internResource nestedResource)] ++
      [step (.internResource .empty)])).resources.get? nestedResource.id = some nestedResource := by
  have hbuilt : ∀ a, .step a ∈ [step (.internResource nestedResource)] →
      ∀ m ∈ a.maps, m.Built := by
    intro a ha
    obtain rfl := Operation.step.inj (List.mem_singleton.mp ha)
    have hflat : ∀ m ∈ Value.entriesMaps [("name", .string "a"), ("id", .uint 1)], m.Built := by
      simp [Value.entriesMaps, Value.maps]
    refine Attributes.built_of_mem_maps_ofPairs ?_
    rw [Value.entriesMaps, Value.entriesMaps, List.append_nil, Value.maps]
    exact Attributes.built_of_mem_maps_ofPairs hflat
  have hreset : step .reset ∉ [step (.internResource .empty)] := by simp
  obtain ⟨-, hmaps, hkept⟩ := tables_after_operations [step (.internResource nestedResource)]
  refine ⟨hbuilt, hreset, hmaps hbuilt, (hkept _ hreset).2.1 _ _ ?_⟩
  exact Table.get?_insertIfNew_self Store.empty.resources nestedResource.id nestedResource

end Operation

end Telemetry
