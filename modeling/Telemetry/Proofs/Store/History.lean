import Mathlib.Data.List.DropRight
import Telemetry.Proofs.Table
import Telemetry.Store.Step

/-!
# What a store holds after a run of steps

A store depends on the steps since the last reset only (`Store.after_eq_applyAll_sinceReset`), and
on those in one of two ways.  An interned record, a span or the identity of a metric is the first
one that a step had to offer (`KeepsFirst`), while log records and the points of a stream are all
that steps had to offer, in their order (`KeepsAll`).  Either way it is enough to say what one step
does to a view of the store, and the view of a whole run follows.

The instances for requests, resources, scopes, log records and metric identities are here; those
for spans and for points are with the statements about them.
-/

namespace Telemetry

/-! ### Runs and resets -/

namespace Step

/-- The step is a reset. -/
def isReset : Step → Bool
  | .reset => true
  | _ => false

/-- The steps after the last reset. -/
def sinceReset (steps : List Step) : List Step :=
  steps.rtakeWhile fun a => !a.isReset

theorem eq_reset_of_isReset {a : Step} (h : a.isReset = true) : a = .reset := by
  cases a <;> first | rfl | cases h

@[simp] theorem sinceReset_concat_reset (steps : List Step) :
    sinceReset (steps ++ [.reset]) = [] :=
  List.rtakeWhile_concat_neg _ _ _ (by simp [isReset])

/-- Whatever is no reset comes on top of what was done since the last one. -/
theorem sinceReset_append {steps later : List Step} (h : ∀ a ∈ later, a.isReset = false) :
    sinceReset (steps ++ later) = sinceReset steps ++ later := by
  have hlater : ∀ a ∈ later.reverse, (!a.isReset) = true := fun a ha => by
    rw [h a (List.mem_reverse.mp ha)]
    rfl
  rw [sinceReset, List.rtakeWhile, List.reverse_append, List.takeWhile_append_of_pos hlater,
    List.reverse_append, List.reverse_reverse]
  rfl

theorem sinceReset_concat (steps : List Step) {a : Step} (h : a.isReset = false) :
    sinceReset (steps ++ [a]) = sinceReset steps ++ [a] :=
  sinceReset_append (List.forall_mem_singleton.mpr h)

theorem isReset_of_mem_sinceReset {steps : List Step} {a : Step} (h : a ∈ sinceReset steps) :
    a.isReset = false := by
  simpa using List.mem_rtakeWhile_imp h

end Step

namespace Store

/-- The store after a run of steps that starts with nothing stored. -/
def after (steps : List Step) : Store :=
  Step.applyAll .empty steps

theorem after_concat (steps : List Step) (a : Step) :
    after (steps ++ [a]) = a.apply (after steps) :=
  Step.applyAll_append .empty steps [a]

/-- **Only the steps since the last reset matter.** -/
theorem after_eq_applyAll_sinceReset (steps : List Step) :
    after steps = Step.applyAll .empty (Step.sinceReset steps) := by
  induction steps using List.reverseRecOn with
  | nil => rfl
  | append_singleton steps a ih =>
    rw [after_concat]
    cases ha : a.isReset with
    | true =>
      obtain rfl := Step.eq_reset_of_isReset ha
      rw [Step.sinceReset_concat_reset]
      rfl
    | false =>
      rw [Step.sinceReset_concat _ ha, Step.applyAll_append, ← ih]
      rfl

/-! ### Two ways to depend on a run -/

/-- What is viewed is what the first step had to offer, unless something was there before. -/
structure KeepsFirst {β : Type} (view : Store → Option β) (offer : Step → Option β) : Prop where
  empty : view .empty = none
  apply : ∀ s a, a.isReset = false → view (a.apply s) = (view s).or (offer a)

/-- What is viewed is all that steps had to offer, after what was there before. -/
structure KeepsAll {β : Type} (view : Store → List β) (offer : Step → Option β) : Prop where
  empty : view .empty = []
  apply : ∀ s a, a.isReset = false → view (a.apply s) = view s ++ (offer a).toList

variable {β : Type} {offer : Step → Option β}

theorem KeepsFirst.applyAll {view : Store → Option β} (h : KeepsFirst view offer) (s : Store)
    {steps : List Step} (hsteps : ∀ a ∈ steps, a.isReset = false) :
    view (Step.applyAll s steps) = (view s).or (steps.findSome? offer) := by
  induction steps generalizing s with
  | nil => exact Option.or_none.symm
  | cons a steps ih =>
    have hrest := ih (a.apply s) fun b hb => hsteps b (List.mem_cons_of_mem _ hb)
    rw [h.apply s a (hsteps a List.mem_cons_self), Option.or_assoc] at hrest
    refine hrest.trans (congrArg _ ?_)
    rw [List.findSome?_cons]
    cases offer a <;> rfl

theorem KeepsAll.applyAll {view : Store → List β} (h : KeepsAll view offer) (s : Store)
    {steps : List Step} (hsteps : ∀ a ∈ steps, a.isReset = false) :
    view (Step.applyAll s steps) = view s ++ steps.filterMap offer := by
  induction steps generalizing s with
  | nil => exact (List.append_nil _).symm
  | cons a steps ih =>
    have hrest := ih (a.apply s) fun b hb => hsteps b (List.mem_cons_of_mem _ hb)
    rw [h.apply s a (hsteps a List.mem_cons_self), List.append_assoc] at hrest
    refine hrest.trans (congrArg _ ?_)
    rw [List.filterMap_cons]
    cases offer a <;> rfl

/-- The view of a run is the first offer since the last reset. -/
theorem KeepsFirst.after {view : Store → Option β} (h : KeepsFirst view offer)
    (steps : List Step) : view (after steps) = (Step.sinceReset steps).findSome? offer := by
  rw [after_eq_applyAll_sinceReset,
    h.applyAll _ fun _ ha => Step.isReset_of_mem_sinceReset ha, h.empty, Option.none_or]

theorem KeepsFirst.isSome_after {view : Store → Option β} (h : KeepsFirst view offer)
    {steps : List Step} {a : Step} {b : β} (ha : a ∈ Step.sinceReset steps)
    (hb : offer a = some b) : (view (Store.after steps)).isSome := by
  rw [h.after, List.findSome?_isSome_iff]
  exact ⟨a, ha, by rw [hb]; rfl⟩

/-- An offer is viewed if there was no other since the last reset. -/
theorem KeepsFirst.after_eq_some {view : Store → Option β} (h : KeepsFirst view offer)
    {steps : List Step} {a : Step} {b : β} (ha : a ∈ Step.sinceReset steps)
    (hb : offer a = some b)
    (honly : ∀ a' ∈ Step.sinceReset steps, ∀ b', offer a' = some b' → b' = b) :
    view (Store.after steps) = some b := by
  obtain ⟨b', hb'⟩ := Option.isSome_iff_exists.mp (h.isSome_after ha hb)
  rw [h.after] at hb'
  obtain ⟨a', ha', hoffer⟩ := List.exists_of_findSome?_eq_some hb'
  rw [h.after, hb', honly a' ha' b' hoffer]

/-- The view of a run is all offers since the last reset. -/
theorem KeepsAll.after {view : Store → List β} (h : KeepsAll view offer) (steps : List Step) :
    view (after steps) = (Step.sinceReset steps).filterMap offer := by
  rw [after_eq_applyAll_sinceReset,
    h.applyAll _ fun _ ha => Step.isReset_of_mem_sinceReset ha, h.empty, List.nil_append]

end Store

/-! ### Interned records, log records and metric identities -/

namespace Step

/-- The request metadata that a step interns under an id. -/
def request? (id : RequestId) : Step → Option RequestMeta
  | .internRequest r => if r.id = id then some r else none
  | _ => none

/-- The resource that a step interns under an id. -/
def resource? (id : ResourceId) : Step → Option Resource
  | .internResource r => if r.id = id then some r else none
  | _ => none

/-- The scope that a step interns under an id. -/
def scope? (id : ScopeId) : Step → Option Scope
  | .internScope c => if c.id = id then some c else none
  | _ => none

theorem request?_eq_some {id : RequestId} {a : Step} {r : RequestMeta} :
    a.request? id = some r ↔ a = .internRequest r ∧ r.id = id := by
  cases a with
  | internRequest r' =>
    rw [request?, Option.ite_none_right_eq_some, Option.some.injEq, Step.internRequest.injEq]
    exact ⟨fun ⟨hid, hr⟩ => ⟨hr, hr ▸ hid⟩, fun ⟨hr, hid⟩ => ⟨hr ▸ hid, hr⟩⟩
  | _ => simp [request?]

theorem resource?_eq_some {id : ResourceId} {a : Step} {r : Resource} :
    a.resource? id = some r ↔ a = .internResource r ∧ r.id = id := by
  cases a with
  | internResource r' =>
    rw [resource?, Option.ite_none_right_eq_some, Option.some.injEq, Step.internResource.injEq]
    exact ⟨fun ⟨hid, hr⟩ => ⟨hr, hr ▸ hid⟩, fun ⟨hr, hid⟩ => ⟨hr ▸ hid, hr⟩⟩
  | _ => simp [resource?]

theorem scope?_eq_some {id : ScopeId} {a : Step} {c : Scope} :
    a.scope? id = some c ↔ a = .internScope c ∧ c.id = id := by
  cases a with
  | internScope c' =>
    rw [scope?, Option.ite_none_right_eq_some, Option.some.injEq, Step.internScope.injEq]
    exact ⟨fun ⟨hid, hc⟩ => ⟨hc, hc ▸ hid⟩, fun ⟨hc, hid⟩ => ⟨hc ▸ hid, hc⟩⟩
  | _ => simp [scope?]

/-- The log record that a step appends. -/
def log? : Step → Option LogRecord
  | .commitLog log => some log
  | _ => none

/-- The identity that a step commits a metric or a point under, if its id is the given one. -/
def identity? (id : MetricId) : Step → Option MetricIdentity
  | .commitMetric identity _ _ | .commitPoint identity _ _ _ _ =>
    if identity.id = id then some identity else none
  | _ => none

end Step

namespace Store

theorem keepsFirst_request (id : RequestId) :
    KeepsFirst (fun s => s.requests.get? id) (Step.request? id) where
  empty := rfl
  apply s a ha := by
    cases a with
    | internRequest r => exact Table.get?_insertIfNew_or s.requests r.id id r
    | reset => cases ha
    | _ => exact Option.or_none.symm

theorem keepsFirst_resource (id : ResourceId) :
    KeepsFirst (fun s => s.resources.get? id) (Step.resource? id) where
  empty := rfl
  apply s a ha := by
    cases a with
    | internResource r => exact Table.get?_insertIfNew_or s.resources r.id id r
    | reset => cases ha
    | _ => exact Option.or_none.symm

theorem keepsFirst_scope (id : ScopeId) :
    KeepsFirst (fun s => s.scopes.get? id) (Step.scope? id) where
  empty := rfl
  apply s a ha := by
    cases a with
    | internScope c => exact Table.get?_insertIfNew_or s.scopes c.id id c
    | reset => cases ha
    | _ => exact Option.or_none.symm

theorem keepsAll_log : KeepsAll (fun s => s.logs.toList) Step.log? where
  empty := rfl
  apply s a ha := by
    cases a with
    | commitLog log => exact Array.toList_push
    | reset => cases ha
    | _ => exact (List.append_nil _).symm

theorem identity_mergeHeader (m : Metric) (description : String) (metadata : Attributes) :
    (m.mergeHeader description metadata).identity = m.identity := by
  unfold Metric.mergeHeader
  split <;> rfl

/-- Neither a header nor a point changes the identity that a metric was made with. -/
theorem keepsFirst_identity (id : MetricId) :
    KeepsFirst (fun s => (s.metrics.get? id).map Metric.identity) (Step.identity? id) where
  empty := rfl
  apply s a ha := by
    cases a with
    | commitMetric identity description metadata =>
      exact Table.map_get?_upsert s.metrics identity.id id rfl fun m =>
        identity_mergeHeader m description metadata
    | commitPoint identity description metadata attr point =>
      exact Table.map_get?_upsert s.metrics identity.id id rfl fun _ => rfl
    | reset => cases ha
    | _ => exact Option.or_none.symm

end Store

end Telemetry
