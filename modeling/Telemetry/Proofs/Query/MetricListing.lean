import Telemetry.Proofs.Json.Names
import Telemetry.Proofs.Store.MetricKinds
import Telemetry.Proofs.Store.References

/-!
# What the listing of metrics refers to

The listing shows every metric with the ids of its resource and its scope, and beside the metrics
the resources and scopes by their ids.  The store can be reset at any moment, also between the steps
of a call.  Then the call goes on and makes its metrics anew, but it does not intern their resource
and scope again, so the listing may name ids that it does not show (`listing_resetHalfway`).

That is the only way for an id to be missing.  The id of a listed metric's resource or scope is
missing only if each call that has stored the metric since the last reset had interned the record
before it (`Run.listing_of_run`).
-/

namespace Telemetry

/-! ### Names in a listing -/

/-- The members of the object that stands under the given name. -/
def Doc.under (name : String) : Doc → List (String × Doc)
  | .map members =>
    match members.lookup name with
    | some (.map inner) => inner
    | _ => []
  | _ => []

namespace Store

variable {s : Store}

/-- The listing shows the stored metrics. -/
theorem mem_under_metrics {entry : String × Doc} :
    entry ∈ s.metricsDoc.under "metrics" ↔ ∃ id metric,
      entry = (id.hex, metric.listingDoc) ∧ s.metrics.get? id = some metric := by
  constructor
  · intro h
    obtain ⟨⟨id, metric⟩, hmem, rfl⟩ := List.mem_map.mp h
    exact ⟨id, metric, rfl, Table.get?_eq_some_iff.mpr hmem⟩
  · rintro ⟨id, metric, rfl, h⟩
    exact List.mem_map.mpr ⟨(id, metric), Table.get?_eq_some_iff.mp h, rfl⟩

theorem hex_mem_map_fst {kind : IdKind} {α : Type} {toDoc : α → Doc}
    {table : Table (@Id.order kind) α} {id : Id kind} :
    id.hex ∈ (table.entries.map fun entry => (entry.1.hex, toDoc entry.2)).map Prod.fst ↔
      (table.get? id).isSome := by
  rw [Table.isSome_get?_iff, Table.keys, ← List.mem_map_of_injective Id.hex_injective,
    List.map_map, List.map_map]
  rfl

/-- The listing shows the ids of the stored resources. -/
theorem mem_under_resources {id : ResourceId} :
    id.hex ∈ (s.metricsDoc.under "resources").map Prod.fst ↔ (s.resources.get? id).isSome :=
  hex_mem_map_fst

/-- The listing shows the ids of the stored scopes. -/
theorem mem_under_scopes {id : ScopeId} :
    id.hex ∈ (s.metricsDoc.under "scopes").map Prod.fst ↔ (s.scopes.get? id).isSome :=
  hex_mem_map_fst

end Store

namespace Run

variable {ι : Type} [DecidableEq ι] {calls : ι → Call}

/-- Since the last reset the call has stored the header or a point of the metric with the given id
under the given identity. -/
def HasStored (run : Run calls) (i : ι) (id : MetricId) (identity : MetricIdentity) : Prop :=
  ∃ a, .step i a ∈ run.recent ∧ a.identity? id = some identity

/-- The call has taken the step before the last reset. -/
def WasBeforeReset (run : Run calls) (i : ι) (a : Step) : Prop :=
  ∃ before, run.turns = before ++ .reset :: run.recent ∧ .step i a ∈ before

variable {run : Run calls}

/-- What a call has done it has done since the last reset or before it. -/
theorem mem_recent_or_wasBeforeReset {i : ι} {a : Step} (h : .step i a ∈ run.turns) :
    .step i a ∈ run.recent ∨ run.WasBeforeReset i a := by
  rcases run.turns_eq_recent_or with hall | ⟨before, hbefore⟩
  · exact .inl (hall ▸ h)
  · rw [hbefore] at h
    rcases List.mem_append.mp h with hmem | hmem
    · exact .inr ⟨before, hbefore, hmem⟩
    · exact .inl ((List.mem_cons.mp hmem).resolve_left nofun)

/-- A stored metric has been stored by a call since the last reset. -/
theorem exists_hasStored {id : MetricId} {metric : Metric}
    (h : run.store.metrics.get? id = some metric) : ∃ i, run.HasStored i id metric.identity := by
  have hidentity : (run.store.metrics.get? id).map Metric.identity = some metric.identity := by
    rw [h, Option.map_some]
  rw [store, (Store.keepsFirst_identity id).after, sinceReset_map_toStep] at hidentity
  obtain ⟨a, ha, hoffer⟩ := List.exists_of_findSome?_eq_some hidentity
  obtain ⟨i, hi⟩ := run.mem_map_toStep_recent.mp ha
  exact ⟨i, a, hi, hoffer⟩

/-- A call that stores a metric has interned the resource and the scope that the metric names. -/
theorem HasStored.exists_interned {i : ι} {id : MetricId} {identity : MetricIdentity}
    (h : run.HasStored i id identity) : ∃ resource scope,
      (identity.resource = resource.id ∧ .step i (.internResource resource) ∈ run.turns) ∧
        identity.scope = scope.id ∧ .step i (.internScope scope) ∈ run.turns := by
  obtain ⟨a, ha, hidentity⟩ := h
  -- the order of a call's steps, resets or not: it interns what an item stands under, then stores it
  have htaken := Turn.mem_stepsOf.mpr (run.mem_turns_of_mem_recent ha)
  rcases Call.of_mem_taken (run.inOrder i) htaken with hintern | ⟨resource, scope, hcommits, hinterns⟩
  · cases a <;> first | cases hidentity | cases hintern
  · have hids : identity.resource = resource.id ∧ identity.scope = scope.id := by
      have hcarries := hcommits.carries
      cases a with
      | commitMetric identity' description metadata =>
        obtain rfl := Option.some.inj (Option.ite_none_right_eq_some.mp hidentity).2
        exact hcarries
      | commitPoint identity' description metadata attr point =>
        obtain rfl := Option.some.inj (Option.ite_none_right_eq_some.mp hidentity).2
        exact ⟨hcarries.1, hcarries.2.1⟩
      | _ => cases hidentity
    exact ⟨resource, scope, ⟨hids.1, Turn.mem_stepsOf.mp hinterns.resource⟩, hids.2,
      Turn.mem_stepsOf.mp hinterns.scope⟩

/-- What a call has had to offer since the last reset is there. -/
theorem isSome_of_mem_recent {β : Type} {view : Store → Option β} {offer : Step → Option β}
    (h : Store.KeepsFirst view offer) {i : ι} {a : Step} {b : β} (ha : .step i a ∈ run.recent)
    (hb : offer a = some b) : (view run.store).isSome := by
  have hmem := run.mem_map_toStep_recent.mpr ⟨i, ha⟩
  rw [← sinceReset_map_toStep] at hmem
  exact h.isSome_after hmem hb

/-- **The listing is closed, except for what a reset has cut off.**  At every moment of a run, with
resets anywhere, each listed metric has been stored by a call since the last reset.  The id of its
resource is missing among the listed resources only if every call that has stored the metric since
the last reset had interned the resource before it, and the same is true of its scope. -/
theorem listing_of_run (run : Run calls) (n : Nat) :
    ∃ listing, (run.take n).store.answer? .metrics = some listing ∧
      ∀ entry ∈ listing.under "metrics", ∃ id metric,
        entry = (id.hex, metric.listingDoc) ∧
        (run.take n).store.metrics.get? id = some metric ∧
        (∃ i, (run.take n).HasStored i id metric.identity) ∧
        (metric.identity.resource.hex ∉ (listing.under "resources").map Prod.fst →
          ∀ i, (run.take n).HasStored i id metric.identity → ∃ r, r.id = metric.identity.resource ∧
            (run.take n).WasBeforeReset i (.internResource r)) ∧
        (metric.identity.scope.hex ∉ (listing.under "scopes").map Prod.fst →
          ∀ i, (run.take n).HasStored i id metric.identity → ∃ c, c.id = metric.identity.scope ∧
            (run.take n).WasBeforeReset i (.internScope c)) := by
  refine ⟨_, rfl, fun entry hentry => ?_⟩
  obtain ⟨id, metric, rfl, hmetric⟩ := Store.mem_under_metrics.mp hentry
  refine ⟨id, metric, rfl, hmetric, exists_hasStored hmetric, fun hmissing i hi => ?_,
    fun hmissing i hi => ?_⟩
  · obtain ⟨r, -, ⟨hr, hturn⟩, -⟩ := hi.exists_interned
    rw [Store.mem_under_resources, hr] at hmissing
    refine ⟨r, hr.symm, (mem_recent_or_wasBeforeReset hturn).resolve_left fun hrecent => ?_⟩
    exact hmissing (isSome_of_mem_recent (Store.keepsFirst_resource _) hrecent (if_pos rfl))
  · obtain ⟨-, c, -, hc, hturn⟩ := hi.exists_interned
    rw [Store.mem_under_scopes, hc] at hmissing
    refine ⟨c, hc.symm, (mem_recent_or_wasBeforeReset hturn).resolve_left fun hrecent => ?_⟩
    exact hmissing (isSome_of_mem_recent (Store.keepsFirst_scope _) hrecent (if_pos rfl))

end Run

/-- A call with one metric, and a reset after it has interned everything and before it stores the
metric. -/
def resetHalfway : Run fun _ : Unit => metricCall plainHistogram where
  turns := ((metricCall plainHistogram).steps.take 3).map (.step ()) ++
    .reset :: ((metricCall plainHistogram).steps.drop 3).map (.step ())
  inOrder i := by
    rw [Turn.stepsOf_append, Turn.stepsOf, Turn.stepsOf, List.filterMap_cons_none (by rfl)]
    change Turn.stepsOf i _ ++ Turn.stepsOf i _ <+: _
    rw [Turn.stepsOf_map_step, Turn.stepsOf_map_step, if_pos rfl, if_pos rfl, List.take_append_drop]

/-- **A reset leaves references behind.**  The metric is listed, and neither its resource nor its
scope is. -/
theorem listing_resetHalfway :
    ∃ listing, (resetHalfway.take 5).store.answer? .metrics = some listing ∧
      ∃ id metric, (id.hex, metric.listingDoc) ∈ listing.under "metrics" ∧
        (resetHalfway.take 5).store.metrics.get? id = some metric ∧
        metric.identity.resource.hex ∉ (listing.under "resources").map Prod.fst ∧
        metric.identity.scope.hex ∉ (listing.under "scopes").map Prod.fst := by
  have hmetric : ((resetHalfway.take 5).store.metrics.get?
      (metricCallId plainHistogram)).isSome := by
    decide +kernel
  have hresource (id : ResourceId) : (resetHalfway.take 5).store.resources.get? id = none := rfl
  have hscope (id : ScopeId) : (resetHalfway.take 5).store.scopes.get? id = none := rfl
  obtain ⟨metric, hmetric⟩ := Option.isSome_iff_exists.mp hmetric
  refine ⟨_, rfl, _, metric, Store.mem_under_metrics.mpr ⟨_, _, rfl, hmetric⟩, hmetric, ?_, ?_⟩
  · rw [Store.mem_under_resources, hresource]
    exact Bool.false_ne_true
  · rw [Store.mem_under_scopes, hscope]
    exact Bool.false_ne_true

end Telemetry
