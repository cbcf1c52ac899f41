import Telemetry.Proofs.Otlp.Kept
import Telemetry.Proofs.Store.Commits

/-!
# What an accepted request changes

An accepted request adds its metadata, the resource of each of its groups and the scope of each
group below to the interned records, and commits its items one after the other; nothing else changes
(`Store.changes_of_accepted`).

The three tables of interned records only gain entries (`Table.Gains`), and it is the list of new
records that says which: those of a request are read off its groups, whatever the groups hold.

The tables of signals only depend on the steps of their own signal (`Store.sameTable_filter`).  What
a request commits to its own table is said in terms of that table alone: spans are stored where
there were none, log records are appended, and points are put behind those of their streams
(`Store.CommitsSpans`, `Store.CommitsLogs`, `Store.CommitsMetrics`).  Each commit is of one item, in
its place, and has what that item says (`Sent.IsSpan`, `Sent.IsLog`, `Sent.IsMetric`).
-/

namespace Telemetry

/-! ### Tables that gain entries -/

namespace Table

variable {κ α : Type} {cmp : κ → κ → Ordering}

/-- The new table holds what the old one does, and beside that the given records under their keys.
Of records with one key the first is stored, and none where the key was taken. -/
structure Gains (old new : Table cmp α) (key : α → κ) (records : List α) : Prop where
  keys : ∀ k, k ∈ new.keys ↔ k ∈ old.keys ∨ k ∈ records.map key
  kept : ∀ k a, old.get? k = some a → new.get? k = some a
  added : ∀ k a, k ∉ old.keys →
    (new.get? k = some a ↔ ∃ before after, records = before ++ a :: after ∧ key a = k ∧
      ∀ b ∈ before, key b ≠ k)

theorem gains_of_get? [Std.TransCmp cmp] [Std.LawfulEqCmp cmp] [DecidableEq κ]
    {old new : Table cmp α} {key : α → κ} {records : List α}
    (h : ∀ k, new.get? k = (old.get? k).or (records.find? fun a => key a = k)) :
    old.Gains new key records where
  keys k := by
    rw [← isSome_get?_iff, ← isSome_get?_iff, h, Option.isSome_or, Bool.or_eq_true,
      List.find?_isSome, List.mem_map]
    simp only [decide_eq_true_eq]
  kept k a hold := by rw [h, hold, Option.some_or]
  added k a hnew := by
    rw [← isSome_get?_iff, Option.not_isSome_iff_eq_none] at hnew
    rw [h, hnew, Option.none_or, List.find?_eq_some_iff_append]
    simp only [decide_eq_true_eq, Bool.not_eq_true', decide_eq_false_iff_not]
    constructor
    · rintro ⟨hkey, before, after, hsplit, hbefore⟩
      exact ⟨before, after, hsplit, hkey, hbefore⟩
    · rintro ⟨before, after, hsplit, hkey, hbefore⟩
      exact ⟨hkey, before, after, hsplit, hbefore⟩

end Table

/-! ### Interned records -/

namespace Step

/-- The request metadata that a step interns. -/
def internedRequest? : Step → Option RequestMeta
  | .internRequest r => some r
  | _ => none

/-- The resource that a step interns. -/
def internedResource? : Step → Option Resource
  | .internResource r => some r
  | _ => none

/-- The scope that a step interns. -/
def internedScope? : Step → Option Scope
  | .internScope c => some c
  | _ => none

theorem request?_eq_filter (id : RequestId) (a : Step) :
    a.request? id = a.internedRequest?.filter fun r => r.id = id := by
  cases a with
  | internRequest r => simp [request?, internedRequest?, Option.filter_some]
  | _ => rfl

theorem resource?_eq_filter (id : ResourceId) (a : Step) :
    a.resource? id = a.internedResource?.filter fun r => r.id = id := by
  cases a with
  | internResource r => simp [resource?, internedResource?, Option.filter_some]
  | _ => rfl

theorem scope?_eq_filter (id : ScopeId) (a : Step) :
    a.scope? id = a.internedScope?.filter fun c => c.id = id := by
  cases a with
  | internScope c => simp [scope?, internedScope?, Option.filter_some]
  | _ => rfl

/-- The first offer for a key is the first record that is offered and has the key. -/
theorem findSome?_eq_find? {β κ : Type} [DecidableEq κ] {key : β → κ} {k : κ}
    {offer interned : Step → Option β}
    (hoffer : ∀ a, offer a = (interned a).filter fun b => key b = k) (steps : List Step) :
    steps.findSome? offer = (steps.filterMap interned).find? fun b => key b = k := by
  induction steps with
  | nil => rfl
  | cons a steps ih =>
    rw [List.findSome?_cons, List.filterMap_cons, hoffer, ih]
    cases interned a with
    | none => rfl
    | some b => by_cases hkey : key b = k <;> simp [Option.filter_some, hkey]

end Step

namespace Store

/-- A table that keeps what is offered first for each key gains the records that are offered. -/
theorem KeepsFirst.gains {κ β : Type} {cmp : κ → κ → Ordering} [Std.TransCmp cmp]
    [Std.LawfulEqCmp cmp] [DecidableEq κ] {table : Store → Table cmp β} {key : β → κ}
    {offer : κ → Step → Option β} {interned : Step → Option β}
    (hkeeps : ∀ k, KeepsFirst (fun s => (table s).get? k) (offer k))
    (hoffer : ∀ k a, offer k a = (interned a).filter fun b => key b = k) (s : Store)
    {steps : List Step} (hreset : ∀ a ∈ steps, a.isReset = false) :
    (table s).Gains (table (Step.applyAll s steps)) key (steps.filterMap interned) := by
  refine Table.gains_of_get? fun k => ?_
  rw [← Step.findSome?_eq_find? (hoffer k)]
  exact (hkeeps k).applyAll s hreset

end Store

/-! ### What a request stores -/

namespace Payload

/-- The resources of the groups of a payload, in order.  A group is there whatever it holds. -/
def resources : Payload → List Resource
  | .traces request => request.resourceRecords
  | .logs request => request.resourceRecords
  | .metrics request => request.resourceRecords

/-- The scopes of the groups of a payload, in order.  A group is there whatever it holds. -/
def scopes : Payload → List Scope
  | .traces request => request.scopeRecords
  | .logs request => request.scopeRecords
  | .metrics request => request.scopeRecords

/-- The resources and the scopes of a payload have what its groups say. -/
def GroupsKept : Payload → Prop
  | .traces request => request.GroupsKept
  | .logs request => request.GroupsKept
  | .metrics request => request.GroupsKept

theorem groupsKept (payload : Payload) : payload.GroupsKept := by
  cases payload <;> exact Otlp.Export.groupsKept _

end Payload

namespace Sent

variable {sender : RequestMeta}

/-- The span has what was sent, and the ids of the request and of the groups it stands in. -/
structure IsSpan (sender : RequestMeta) (x : Sent Otlp.Span) (c : SpanRef × Span) : Prop where
  kept : x.item.KeptAs c.1 c.2
  origin : c.2.origin = x.origin sender

/-- The log record has what was sent, converted at some time that the clock tells, and the ids of
the request and of the groups it stands in. -/
structure IsLog (clock : Clock) (sender : RequestMeta) (x : Sent Otlp.LogRecord)
    (log : LogRecord) : Prop where
  kept : ∃ now, clock.Tells now ∧ x.item.KeptAs now log
  origin : log.origin = x.origin sender

/-- The metric has what was sent, its identity has the ids of the groups it stands in, and every
point of it has the id of the request. -/
structure IsMetric (sender : RequestMeta) (x : Sent Otlp.Metric) (p : PreparedMetric) : Prop where
  kept : x.item.KeptAs p
  resource : p.identity.resource = x.resource.id
  scope : p.identity.scope = x.scope.id
  request : ∀ y ∈ p.points, y.2.base.request = sender.id

end Sent

/-- Converted, the request has so many items. -/
def Otlp.Export.HasLength {ι α : Type} (convert : ι → Except Error α) (request : Otlp.Export ι)
    (n : Nat) : Prop :=
  ∃ batch, request.toBatch convert = .ok batch ∧ batch.length = n ∧
    (batch.shape.map List.sum).sum = n

/-- From one store to the next the items of a call have been committed to the table of its signal:
one commit for each item, in the order of the items, and as many as the batch is long. -/
def Call.IsCommitted (call : Call) (s after : Store) : Prop :=
  match call.payload with
  | .traces request =>
    ∃ spans, List.Forall₂ (Sent.IsSpan call.sender) request.sent spans ∧
      request.HasLength Otlp.Span.prepare spans.length ∧ s.CommitsSpans after spans
  | .logs request =>
    ∃ logs, List.Forall₂ (Sent.IsLog call.clock call.sender) request.sent logs ∧
      (request.timed call.clock).HasLength Otlp.TimedLog.prepare logs.length ∧
      s.CommitsLogs after logs
  | .metrics request =>
    ∃ metrics, List.Forall₂ (Sent.IsMetric call.sender) request.sent metrics ∧
      request.HasLength Otlp.Metric.prepare metrics.length ∧ s.CommitsMetrics after metrics

/-- From one store to the next the metadata of a request and the records of its groups have been
interned, and the tables of other signals are as they were. -/
structure Store.Receives (s after : Store) (sender : RequestMeta) (resources : List Resource)
    (scopes : List Scope) (signal : Signal) : Prop where
  requests : s.requests.Gains after.requests RequestMeta.id [sender]
  resources : s.resources.Gains after.resources Resource.id resources
  scopes : s.scopes.Gains after.scopes Scope.id scopes
  others : ∀ other, other ≠ signal → after.SameTable other s

/-! ### Items with their ids -/

theorem Otlp.Metric.KeptAs.withOrigin {m : Otlp.Metric} {p : PreparedMetric} (h : m.KeptAs p)
    (origin : Origin) : m.KeptAs (p.withOrigin origin) := by
  have hpoints : List.Forall₂ (fun d (x : Attributes × Point) => d.KeptUnder x.1 x.2) m.points
      (p.withOrigin origin).points := by
    rw [PreparedMetric.withOrigin, List.forall₂_map_right_iff]
    exact h.points.imp fun d x hx => ⟨hx.1, hx.2.deliveredBy origin.request⟩
  exact { h with points := hpoints }

namespace Sent

variable (sender : RequestMeta)

theorem isSpan_of_converts {x : Sent Otlp.Span} {y : Sent PreparedSpan}
    (h : x.Converts Otlp.Span.prepare y) :
    x.IsSpan sender (y.item.ref, { y.item.span with origin := y.origin sender }) where
  kept := { Otlp.Span.keptAs_of_prepare h.item with }
  origin := h.origin_eq sender

theorem isLog_of_converts {clock : Clock} {now : UInt64} {x : Sent Otlp.LogRecord}
    {y : Sent LogRecord} (htells : clock.Tells now)
    (h : x.Converts (Otlp.LogRecord.prepare now) y) :
    x.IsLog clock sender { y.item with origin := y.origin sender } where
  kept := ⟨now, htells, { Otlp.LogRecord.keptAs_of_prepare h.item with }⟩
  origin := h.origin_eq sender

theorem isMetric_of_converts {x : Sent Otlp.Metric} {y : Sent PreparedMetric}
    (h : x.Converts Otlp.Metric.prepare y) :
    x.IsMetric sender (y.item.withOrigin (y.origin sender)) where
  kept := (Otlp.Metric.keptAs_of_prepare h.item).withOrigin _
  resource := congrArg Resource.id h.resource
  scope := congrArg Scope.id h.scope
  request := List.forall_mem_map.mpr fun x _ => Point.request_deliveredBy sender.id x.2

end Sent

/-! ### The steps of a request -/

theorem Step.Carries.isReset_eq_false {origin : Origin} {a : Step} (h : a.Carries origin) :
    a.isReset = false := by
  cases a <;> first | rfl | cases h

/-- What stores an item interns nothing. -/
theorem Step.Carries.interned {origin : Origin} {a : Step} (h : a.Carries origin) :
    a.internedRequest? = none ∧ a.internedResource? = none ∧ a.internedScope? = none := by
  cases a <;> first | exact ⟨rfl, rfl, rfl⟩ | cases h

/-- The steps for an item store it under its origin, and change the table of one signal only. -/
structure CommitsTo {α : Type} (signal : Signal) (commit : Origin → α → List Step) : Prop where
  carries : ∀ origin p, ∀ a ∈ commit origin p, a.Carries origin
  signal : ∀ origin p, ∀ a ∈ commit origin p, a.signal? = some signal ∨ a.signal? = none

/-- What stores the items of a signal interns nothing. -/
theorem CommitsTo.interned {α : Type} {signal : Signal} {commit : Origin → α → List Step}
    (h : CommitsTo signal commit) (origin : Origin) (p : α) (a : Step) (ha : a ∈ commit origin p) :
    a.internedRequest? = none ∧ a.internedResource? = none ∧ a.internedScope? = none :=
  (h.carries origin p a ha).interned

theorem PreparedSpan.commitsTo : CommitsTo .traces PreparedSpan.commit where
  carries _ _ := List.forall_mem_singleton.mpr rfl
  signal _ _ := List.forall_mem_singleton.mpr (.inl rfl)

theorem LogRecord.commitsTo : CommitsTo .logs LogRecord.commit where
  carries _ _ := List.forall_mem_singleton.mpr rfl
  signal _ _ := List.forall_mem_singleton.mpr (.inl rfl)

theorem PreparedMetric.commitsTo : CommitsTo .metrics PreparedMetric.commit where
  carries _ _ _ := carries_commit
  signal origin p a ha := by
    cases a with
    | commitMetric | commitPoint => exact .inl rfl
    | commitSpan | commitLog =>
      simp [commit] at ha
    | _ => exact .inr rfl

namespace Batch

variable {α : Type} {commit : Origin → α → List Step} (batch : Batch α) (sender : RequestMeta)

/-- The length of a batch is the number of items in each scope of each resource, added up. -/
theorem length_eq_sum_shape : batch.length = (batch.shape.map List.sum).sum := by
  rw [length, items, List.length_flatMap, shape, List.map_map]
  refine congrArg List.sum (List.map_congr_left fun group _ => ?_)
  rw [List.length_flatMap]
  rfl

/-- What the steps of a batch offer, if those that store items have nothing to offer. -/
theorem filterMap_interned {β : Type} {offer : Step → Option β}
    (hcommit : ∀ origin p, ∀ a ∈ commit origin p, offer a = none) :
    (batch.steps commit sender).filterMap offer =
      (offer (.internRequest sender)).toList ++ batch.groups.flatMap fun group =>
        (offer (.internResource group.resource)).toList ++ group.scopes.flatMap fun s =>
          (offer (.internScope s.scope)).toList := by
  have hcons (a : Step) (steps : List Step) :
      (a :: steps).filterMap offer = (offer a).toList ++ steps.filterMap offer := by
    rw [List.filterMap_cons]
    cases offer a <;> rfl
  have hitems (origin : Origin) (items : List α) :
      (items.flatMap (commit origin)).filterMap offer = [] := by
    rw [List.filterMap_eq_nil_iff]
    intro a ha
    obtain ⟨p, -, ha⟩ := List.mem_flatMap.mp ha
    exact hcommit origin p a ha
  rw [steps, hcons, List.filterMap_flatMap]
  refine congrArg (_ ++ ·) (congrArg (List.flatMap · _) (funext fun group => ?_))
  rw [hcons, List.filterMap_flatMap]
  refine congrArg (_ ++ ·) (congrArg (List.flatMap · _) (funext fun s => ?_))
  rw [hcons, hitems, List.append_nil]

variable {signal : Signal}

/-- A batch interns the metadata of its request once, and nothing else as such. -/
theorem filterMap_internedRequest? (hcommit : CommitsTo signal commit) :
    (batch.steps commit sender).filterMap Step.internedRequest? = [sender] := by
  rw [filterMap_interned batch sender fun origin p a ha => (hcommit.interned origin p a ha).1]
  simp [Step.internedRequest?]

/-- A batch interns the resources of its groups, in order. -/
theorem filterMap_internedResource? (hcommit : CommitsTo signal commit) :
    (batch.steps commit sender).filterMap Step.internedResource? =
      batch.groups.map ResourceGroup.resource := by
  have hnone (scopes : List (ScopeGroup α)) : scopes.flatMap (fun _ => ([] : List Resource)) = [] :=
    List.flatMap_eq_nil_iff.mpr fun _ _ => rfl
  rw [filterMap_interned batch sender fun origin p a ha => (hcommit.interned origin p a ha).2.1,
    List.map_eq_flatMap]
  simp [Step.internedResource?, hnone]

/-- A batch interns the scopes of its groups, in order. -/
theorem filterMap_internedScope? (hcommit : CommitsTo signal commit) :
    (batch.steps commit sender).filterMap Step.internedScope? =
      batch.groups.flatMap fun group => group.scopes.map ScopeGroup.scope := by
  rw [filterMap_interned batch sender fun origin p a ha => (hcommit.interned origin p a ha).2.2]
  simp [Step.internedScope?, List.map_eq_flatMap]

/-- What a batch does beside interning, item by item. -/
theorem filter_steps {p : Step → Bool} (hp : ∀ a, a.isIntern = true → p a = false) :
    (batch.steps commit sender).filter p =
      batch.sent.flatMap fun x => (commit (x.origin sender) x.item).filter p := by
  have hintern (a : Step) (ha : a.isIntern = true) : Option.guard p a = none := by
    rw [Option.guard, hp a ha]
    rfl
  rw [← List.filterMap_eq_filter, filterMap_steps hintern]

theorem isReset_of_mem_steps (hcommit : CommitsTo signal commit) :
    ∀ a ∈ batch.steps commit sender, a.isReset = false := by
  have hintern (a : Step) (ha : a.isIntern = true) : a.isReset = false := by
    cases a <;> first | rfl | cases ha
  have hnone : (batch.steps commit sender).filter Step.isReset = [] := by
    rw [filter_steps batch sender hintern, List.flatMap_eq_nil_iff]
    intro x _
    rw [List.filter_eq_nil_iff]
    intro a ha
    rw [(hcommit.carries _ _ a ha).isReset_eq_false]
    exact Bool.false_ne_true
  intro a ha
  simpa using List.filter_eq_nil_iff.mp hnone a ha

/-- A table depends on the items of a batch alone, whatever is interned between them. -/
theorem sameTable_items (hcommit : CommitsTo signal commit) (s : Store) (other : Signal) :
    (Step.applyAll s (batch.steps commit sender)).SameTable other
      (Step.applyAll s (batch.sent.flatMap fun x =>
        (commit (x.origin sender) x.item).filter fun a => a.signal? = some other)) := by
  have hintern (a : Step) (ha : a.isIntern = true) : decide (a.signal? = some other) = false := by
    cases a <;> first | rfl | cases ha
  rw [← filter_steps batch sender hintern]
  exact Store.sameTable_filter other s (batch.isReset_of_mem_steps sender hcommit)

/-- A batch leaves the tables of other signals alone. -/
theorem sameTable_of_ne (hcommit : CommitsTo signal commit) (s : Store) {other : Signal}
    (hother : other ≠ signal) :
    (Step.applyAll s (batch.steps commit sender)).SameTable other s := by
  have hsame := batch.sameTable_items sender hcommit s other
  have hnone : (batch.sent.flatMap fun x =>
      (commit (x.origin sender) x.item).filter fun a => a.signal? = some other) = [] := by
    rw [List.flatMap_eq_nil_iff]
    intro x _
    rw [List.filter_eq_nil_iff]
    intro a ha hsignal
    rcases hcommit.signal _ _ a ha with hown | hown <;> rw [of_decide_eq_true hsignal] at hown
    · exact hother (Option.some.inj hown)
    · cases hown
  rwa [hnone] at hsame

/-- A store that takes the steps of a batch receives the records of its groups. -/
theorem receives (hcommit : CommitsTo signal commit) (s : Store) :
    s.Receives (Step.applyAll s (batch.steps commit sender)) sender
      (batch.groups.map ResourceGroup.resource)
      (batch.groups.flatMap fun group => group.scopes.map ScopeGroup.scope) signal where
  requests := by
    have hgains := Store.KeepsFirst.gains Store.keepsFirst_request Step.request?_eq_filter s
      (batch.isReset_of_mem_steps sender hcommit)
    rwa [batch.filterMap_internedRequest? sender hcommit] at hgains
  resources := by
    have hgains := Store.KeepsFirst.gains Store.keepsFirst_resource Step.resource?_eq_filter s
      (batch.isReset_of_mem_steps sender hcommit)
    rwa [batch.filterMap_internedResource? sender hcommit] at hgains
  scopes := by
    have hgains := Store.KeepsFirst.gains Store.keepsFirst_scope Step.scope?_eq_filter s
      (batch.isReset_of_mem_steps sender hcommit)
    rwa [batch.filterMap_internedScope? sender hcommit] at hgains
  others _ hother := batch.sameTable_of_ne sender hcommit s hother

theorem length_sent : batch.sent.length = batch.length := by
  rw [sent, length, items]
  simp only [List.length_flatMap, List.length_map]

end Batch

/-! ### What the batch of each signal commits -/

theorem Batch.commitsSpans (batch : Batch PreparedSpan) (sender : RequestMeta) (s : Store) :
    s.CommitsSpans (Step.applyAll s (batch.steps PreparedSpan.commit sender))
      (batch.sent.map fun y => (y.item.ref, { y.item.span with origin := y.origin sender })) := by
  refine .of_sameTable ?_
  have hsame := batch.sameTable_items sender PreparedSpan.commitsTo s .traces
  rw [List.map_map, ← List.flatMap_pure_eq_map]
  exact hsame

theorem Batch.commitsLogs (batch : Batch LogRecord) (sender : RequestMeta) (s : Store) :
    s.CommitsLogs (Step.applyAll s (batch.steps LogRecord.commit sender))
      (batch.sent.map fun y => { y.item with origin := y.origin sender }) := by
  refine .of_sameTable ?_
  have hsame := batch.sameTable_items sender LogRecord.commitsTo s .logs
  rw [List.map_map, ← List.flatMap_pure_eq_map]
  exact hsame

/-- Of the steps for a metric all but the last, which looks at the outcome, change the table. -/
theorem PreparedMetric.filter_commit (p : PreparedMetric) (origin : Origin) :
    (p.commit origin).filter (fun a => a.signal? = some .metrics) =
      (p.withOrigin origin).commitSteps := by
  have hall : (p.withOrigin origin).commitSteps.filter (fun a => a.signal? = some .metrics) =
      (p.withOrigin origin).commitSteps :=
    List.filter_eq_self.mpr fun a ha => decide_eq_true (signal?_of_mem_commitSteps _ a ha)
  rw [commit_eq, List.filter_append, hall]
  exact List.append_nil _

theorem Batch.commitsMetrics (batch : Batch PreparedMetric) (sender : RequestMeta) (s : Store) :
    s.CommitsMetrics (Step.applyAll s (batch.steps PreparedMetric.commit sender))
      (batch.sent.map fun y => y.item.withOrigin (y.origin sender)) := by
  refine .of_sameTable ?_
  have hsame := batch.sameTable_items sender PreparedMetric.commitsTo s .metrics
  simp only [PreparedMetric.filter_commit] at hsame
  rw [List.flatMap_map]
  exact hsame

namespace Otlp.Export

variable {ι α : Type} {convert : ι → Except Error α} {commit : Origin → α → List Step}
  {sender : RequestMeta} {request : Export ι} {batch : Batch α} {signal : Signal}

/-- The groups of a batch are those of its request. -/
theorem map_groups (h : request.toBatch convert = .ok batch) :
    batch.groups.map ResourceGroup.resource = request.resourceRecords ∧
      batch.groups.flatMap (fun group => group.scopes.map ScopeGroup.scope) =
        request.scopeRecords := by
  obtain ⟨groups, hgroups, rfl⟩ := exists_of_bind_pure_eq_ok h
  have hresources := forall₂_of_mapM_eq_ok hgroups
  constructor
  · rw [← List.forall₂_eq_eq_eq, List.forall₂_map_left_iff, resourceRecords,
      List.forall₂_map_right_iff]
    refine hresources.flip.imp fun group r hgroup => ?_
    obtain ⟨scopes, -, rfl⟩ := exists_of_bind_pure_eq_ok hgroup
    rfl
  · rw [← List.forall₂_eq_eq_eq, scopeRecords]
    refine List.rel_flatMap hresources.flip fun group r hgroup => ?_
    obtain ⟨scopes, hscopes, rfl⟩ := exists_of_bind_pure_eq_ok hgroup
    rw [List.forall₂_map_left_iff, List.forall₂_map_right_iff]
    refine (forall₂_of_mapM_eq_ok hscopes).flip.imp fun c s hc => ?_
    obtain ⟨items, -, rfl⟩ := exists_of_bind_pure_eq_ok hc
    rfl

/-- A store that takes the steps of a converted request receives the records of its groups. -/
theorem receives (sender : RequestMeta) (hcommit : CommitsTo signal commit) (s : Store)
    (h : request.toBatch convert = .ok batch) :
    s.Receives (Step.applyAll s (batch.steps commit sender)) sender request.resourceRecords
      request.scopeRecords signal := by
  obtain ⟨hresources, hscopes⟩ := map_groups h
  rw [← hresources, ← hscopes]
  exact batch.receives sender hcommit s

theorem hasLength {β : Type} (form : Sent α → β) (h : request.toBatch convert = .ok batch) :
    request.HasLength convert (batch.sent.map form).length := by
  rw [List.length_map, batch.length_sent]
  exact ⟨batch, h, rfl, batch.length_eq_sum_shape.symm⟩

end Otlp.Export

/-- **An accepted request changes exactly what it should.**  Of the interned records there are as
many more as it takes to have the metadata of the request, the resource of each of its groups and
the scope of each group below, also where a group is empty or repeats another; what was stored under
an id stays.  The table of its signal has received one commit for each item, in the order of the
payload and as many as the batch is long: a span under its reference unless that was taken, a log
record behind the others, or a header and, behind the others of its stream, each point of a metric.
What is committed has what the item says, and the ids of the request and of the item's own groups.
The tables of the other signals are as they were. -/
theorem Store.changes_of_accepted (s : Store) (call : Call)
    (haccepted : (s.ingest call.clock call.payload call.sender).1 = .ok ()) :
    call.payload.GroupsKept ∧
      s.Receives (s.ingest call.clock call.payload call.sender).2.store call.sender
        call.payload.resources call.payload.scopes call.payload.signal ∧
      call.IsCommitted s (s.ingest call.clock call.payload call.sender).2.store := by
  refine ⟨call.payload.groupsKept, ?_⟩
  unfold ingest at haccepted ⊢
  split at haccepted
  · rename_i steps hsteps
    unfold Call.IsCommitted
    -- the three signals differ in how an item is converted and in what commits it
    cases hpayload : call.payload with
    | traces request =>
      rw [hpayload] at hsteps
      obtain ⟨batch, hbatch, rfl⟩ := exists_of_map_eq_ok hsteps
      have hitems := (Otlp.Export.forall₂_sent hbatch).imp fun _ _ h =>
        Sent.isSpan_of_converts call.sender h
      exact ⟨Otlp.Export.receives call.sender PreparedSpan.commitsTo s hbatch, _,
        List.forall₂_map_right_iff.mpr hitems, Otlp.Export.hasLength _ hbatch,
        batch.commitsSpans call.sender s⟩
    | logs request =>
      rw [hpayload] at hsteps
      obtain ⟨batch, hbatch, rfl⟩ := exists_of_map_eq_ok hsteps
      have hitems := (Otlp.LogExport.forall₂_sent hbatch).imp fun _ _ ⟨_, htells, h⟩ =>
        Sent.isLog_of_converts call.sender htells h
      have hreceives := Otlp.Export.receives call.sender LogRecord.commitsTo s hbatch
      obtain ⟨hresources, hscopes⟩ := request.records_timed call.clock
      rw [hresources, hscopes] at hreceives
      exact ⟨hreceives, _, List.forall₂_map_right_iff.mpr hitems, Otlp.Export.hasLength _ hbatch,
        batch.commitsLogs call.sender s⟩
    | metrics request =>
      rw [hpayload] at hsteps
      obtain ⟨batch, hbatch, rfl⟩ := exists_of_map_eq_ok hsteps
      have hitems := (Otlp.Export.forall₂_sent hbatch).imp fun _ _ h =>
        Sent.isMetric_of_converts call.sender h
      exact ⟨Otlp.Export.receives call.sender PreparedMetric.commitsTo s hbatch, _,
        List.forall₂_map_right_iff.mpr hitems, Otlp.Export.hasLength _ hbatch,
        batch.commitsMetrics call.sender s⟩
  · cases haccepted

/-- Two records under one scope, behind a scope without records and a resource without scopes.  The
first has no time of its own. -/
def groupedLogCall : Call where
  clock := ⟨fun _ _ record => if record = 0 then 7 else 5⟩
  sender := .bare .http ""
  payload :=
    let record (time : UInt64) : Otlp.LogRecord := ⟨time, 0, 0, "", .empty, [], 0, 0, [], [], ""⟩
    .logs ⟨[⟨none, [], "bare"⟩,
      ⟨none, [⟨none, [], "bare"⟩, ⟨none, [record 0, record 3], ""⟩], ""⟩]⟩

theorem Store.changes_of_groupedLogCall :
    (Store.empty.ingest groupedLogCall.clock groupedLogCall.payload groupedLogCall.sender).1 =
      .ok () ∧
    Store.empty.Receives (Store.empty.ingest groupedLogCall.clock groupedLogCall.payload
        groupedLogCall.sender).2.store groupedLogCall.sender
      [{ Resource.empty with schema := "bare" }, .empty]
      [{ Scope.empty with schema := "bare" }, .empty] .logs ∧
    ∃ first second : LogRecord,
      (Store.empty.ingest groupedLogCall.clock groupedLogCall.payload
        groupedLogCall.sender).2.store.logs.toList = [first, second] ∧
      first.time = 0 ∧ second.time = 3 ∧ second.summary.time = 3 ∧
      first.origin = ⟨groupedLogCall.sender.id, Resource.empty.id, Scope.empty.id⟩ ∧
      second.origin = first.origin := by
  obtain ⟨-, hreceives, logs, hlogs, -, -, happended⟩ :=
    changes_of_accepted .empty groupedLogCall rfl
  refine ⟨rfl, hreceives, ?_⟩
  rw [happended]
  cases hlogs with
  | cons hfirst hrest =>
    cases hrest with
    | cons hsecond hnone =>
      cases hnone
      obtain ⟨_, -, hkeptFirst⟩ := hfirst.kept
      obtain ⟨_, -, hkeptSecond⟩ := hsecond.kept
      exact ⟨_, _, rfl, hkeptFirst.time, hkeptSecond.time, hkeptSecond.shownTime, hfirst.origin,
        hsecond.origin.trans hfirst.origin.symm⟩

end Telemetry
