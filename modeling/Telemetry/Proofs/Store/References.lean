import Telemetry.Proofs.Store.FirstSpan
import Telemetry.Proofs.Store.Streams
import Telemetry.Query.Basic

/-!
# References resolve

Spans, log records, metrics and points name the request, the resource and the scope they came from
by ids.  If the store is reset only while no call is at work, these ids are keys of the tables at
every moment (`Store.IsClosed`), because a call interns the three records before it stores what
names them.  If besides no two different records that were interned have the same id
(`NoCollisions`), the ids lead to the very records that an item was sent with
(`references_resolve`).
-/

namespace Telemetry

namespace Store

/-- The three ids of an origin are keys of their tables. -/
def Resolves (s : Store) (o : Origin) : Prop :=
  (s.requests.get? o.request).isSome ∧ (s.resources.get? o.resource).isSome ∧
    (s.scopes.get? o.scope).isSome

/-- The three ids of an origin lead to the given records. -/
def ResolvesTo (s : Store) (o : Origin) (sender : RequestMeta) (resource : Resource)
    (scope : Scope) : Prop :=
  s.requests.get? o.request = some sender ∧ s.resources.get? o.resource = some resource ∧
    s.scopes.get? o.scope = some scope

/-- Every id of a request, a resource or a scope that is stored with a record is a key. -/
structure IsClosed (s : Store) : Prop where
  span : ∀ ref span, s.span? ref = some span → s.Resolves span.origin
  log : ∀ (index : Nat) log, s.logs[index]? = some log → s.Resolves log.origin
  identity : ∀ id metric, s.metrics.get? id = some metric →
    (s.resources.get? metric.identity.resource).isSome ∧
      (s.scopes.get? metric.identity.scope).isSome
  point : ∀ m st stream, s.stream? m st = some stream → ∀ point ∈ stream.points,
    (s.requests.get? point.base.request).isSome

theorem ResolvesTo.originMembers {s : Store} {o : Origin} {sender : RequestMeta}
    {resource : Resource} {scope : Scope} (h : s.ResolvesTo o sender resource scope) :
    s.originMembers o =
      [("scope", scope.toDoc), ("resource", resource.toDoc), ("request", sender.toDoc)] := by
  obtain ⟨hrequest, hresource, hscope⟩ := h
  rw [Store.originMembers, hrequest, hresource, hscope]
  rfl

end Store

/-- No two different records that are interned have the same id. -/
structure NoCollisions (steps : List Step) : Prop where
  request : ∀ r r', .internRequest r ∈ steps → .internRequest r' ∈ steps → r.id = r'.id → r = r'
  resource : ∀ r r', .internResource r ∈ steps → .internResource r' ∈ steps → r.id = r'.id → r = r'
  scope : ∀ c c', .internScope c ∈ steps → .internScope c' ∈ steps → c.id = c'.id → c = c'

/-! ### Looking up what was interned -/

section Lookup

variable {steps : List Step} {sender : RequestMeta} {resource : Resource} {scope : Scope}

theorem Interns.resolves (h : Interns (Step.sinceReset steps) sender resource scope) :
    (Store.after steps).Resolves ⟨sender.id, resource.id, scope.id⟩ :=
  ⟨(Store.keepsFirst_request _).isSome_after h.request (if_pos rfl),
    (Store.keepsFirst_resource _).isSome_after h.resource (if_pos rfl),
    (Store.keepsFirst_scope _).isSome_after h.scope (if_pos rfl)⟩

theorem Interns.resolvesTo (h : Interns (Step.sinceReset steps) sender resource scope)
    (hdistinct : NoCollisions (Step.sinceReset steps)) :
    (Store.after steps).ResolvesTo ⟨sender.id, resource.id, scope.id⟩ sender resource scope := by
  refine ⟨(Store.keepsFirst_request _).after_eq_some h.request (if_pos rfl) fun a ha r hr => ?_,
    (Store.keepsFirst_resource _).after_eq_some h.resource (if_pos rfl) fun a ha r hr => ?_,
    (Store.keepsFirst_scope _).after_eq_some h.scope (if_pos rfl) fun a ha c hc => ?_⟩
  · obtain ⟨rfl, hid⟩ := Step.request?_eq_some.mp hr
    exact hdistinct.request _ _ ha h.request hid
  · obtain ⟨rfl, hid⟩ := Step.resource?_eq_some.mp hr
    exact hdistinct.resource _ _ ha h.resource hid
  · obtain ⟨rfl, hid⟩ := Step.scope?_eq_some.mp hc
    exact hdistinct.scope _ _ ha h.scope hid

end Lookup

/-! ### Every moment of a run -/

namespace Run

variable {ι : Type} [DecidableEq ι] {calls : ι → Call} {run : Run calls}

/-- What an item names has been interned since the last reset when the item is stored. -/
theorem commits_of_mem_recent (h : run.ResetsWhenIdle) {i : ι} {a : Step}
    (ha : .step i a ∈ run.recent) (hintern : a.isIntern = false) (hlook : a.isLook = false) :
    ∃ resource scope, (calls i).Commits resource scope a ∧
      Interns (run.recent.map Turn.toStep) (calls i).sender resource scope := by
  have hmem := Turn.mem_stepsOf.mpr ha
  rcases run.prefix_or_looks h i with htaken | hlooks
  · rcases Call.of_mem_taken htaken hmem with hinterns | ⟨resource, scope, hcommits, hinterns⟩
    · rw [hintern] at hinterns
      cases hinterns
    · exact ⟨resource, scope, hcommits,
        hinterns.mono (Turn.stepsOf_sublist i run.recent).subset⟩
  · have := hlooks a hmem
    rw [hlook] at this
    cases this

/-- The ids that a step puts into the store are keys at the end of the run. -/
theorem carries_of_mem_recent (h : run.ResetsWhenIdle) {a : Step}
    (ha : a ∈ Step.sinceReset (run.turns.map Turn.toStep)) (hintern : a.isIntern = false)
    (hlook : a.isLook = false) : ∃ o, a.Carries o ∧ run.store.Resolves o := by
  obtain ⟨i, hi, -⟩ := run.exists_of_mem_sinceReset ha
  obtain ⟨resource, scope, hcommits, hinterns⟩ := commits_of_mem_recent h hi hintern hlook
  rw [← sinceReset_map_toStep] at hinterns
  exact ⟨_, hcommits.carries, hinterns.resolves⟩

theorem mem_recent_of_span?_eq_some {ref : SpanRef} {span : Span}
    (h : run.store.span? ref = some span) :
    .commitSpan ref span ∈ Step.sinceReset (run.turns.map Turn.toStep) := by
  obtain ⟨earlier, later, hsplit, -⟩ := Store.span?_after_eq_some.mp h
  rw [hsplit]
  simp

theorem mem_recent_of_logs_eq_some {index : Nat} {log : LogRecord}
    (h : run.store.logs[index]? = some log) :
    .commitLog log ∈ Step.sinceReset (run.turns.map Turn.toStep) := by
  have hlog : log ∈ run.store.logs.toList := by
    rw [Array.mem_toList_iff]
    exact Array.mem_of_getElem? h
  rw [store, Store.keepsAll_log.after, List.mem_filterMap] at hlog
  obtain ⟨a, ha, hoffer⟩ := hlog
  cases a with
  | commitLog log' =>
    obtain rfl := Option.some.inj hoffer
    exact ha
  | _ => cases hoffer

theorem isClosed_store (h : run.ResetsWhenIdle) : run.store.IsClosed where
  span ref span hspan := by
    obtain ⟨o, hcarries, hresolves⟩ :=
      carries_of_mem_recent h (mem_recent_of_span?_eq_some hspan) rfl rfl
    rwa [show span.origin = o from hcarries]
  log index log hlog := by
    obtain ⟨o, hcarries, hresolves⟩ :=
      carries_of_mem_recent h (mem_recent_of_logs_eq_some hlog) rfl rfl
    rwa [show log.origin = o from hcarries]
  identity id metric hmetric := by
    have hidentity : (run.store.metrics.get? id).map Metric.identity = some metric.identity := by
      rw [hmetric]
      rfl
    rw [store, (Store.keepsFirst_identity id).after] at hidentity
    obtain ⟨a, ha, hoffer⟩ := List.exists_of_findSome?_eq_some hidentity
    cases a with
    | commitMetric identity description metadata =>
      obtain rfl := Option.some.inj (Option.ite_none_right_eq_some.mp hoffer).2
      obtain ⟨o, ⟨hresource, hscope⟩, hresolves⟩ := carries_of_mem_recent h ha rfl rfl
      rw [hresource, hscope]
      exact hresolves.2
    | commitPoint identity description metadata attr point =>
      obtain rfl := Option.some.inj (Option.ite_none_right_eq_some.mp hoffer).2
      obtain ⟨o, ⟨hresource, hscope, -⟩, hresolves⟩ := carries_of_mem_recent h ha rfl rfl
      rw [hresource, hscope]
      exact hresolves.2
    | _ => cases hoffer
  point m st stream hstream point hpoint := by
    have hmem : point ∈ run.store.pointsOf m st := by
      rw [Store.pointsOf, hstream]
      exact hpoint
    rw [store, Store.pointsOf_after, List.mem_filterMap] at hmem
    obtain ⟨a, ha, hoffer⟩ := hmem
    cases a with
    | commitPoint identity description metadata attr p =>
      obtain rfl := Option.some.inj (Option.ite_none_right_eq_some.mp hoffer).2
      obtain ⟨o, ⟨-, -, hrequest⟩, hresolves⟩ := carries_of_mem_recent h ha rfl rfl
      rw [hrequest]
      exact hresolves.1
    | _ => cases hoffer

/-- Without collisions the ids of an item lead to what it was sent with. -/
theorem exists_resolvesTo (h : run.ResetsWhenIdle)
    (hdistinct : NoCollisions (run.recent.map Turn.toStep)) {a : Step}
    (ha : a ∈ Step.sinceReset (run.turns.map Turn.toStep)) (hintern : a.isIntern = false)
    (hlook : a.isLook = false) :
    ∃ i resource scope, .step i a ∈ run.recent ∧ (calls i).Commits resource scope a ∧
      run.store.ResolvesTo ⟨(calls i).sender.id, resource.id, scope.id⟩ (calls i).sender resource
        scope := by
  obtain ⟨i, hi, -⟩ := run.exists_of_mem_sinceReset ha
  obtain ⟨resource, scope, hcommits, hinterns⟩ := commits_of_mem_recent h hi hintern hlook
  rw [← sinceReset_map_toStep] at hinterns hdistinct
  exact ⟨i, resource, scope, hi, hcommits, hinterns.resolvesTo hdistinct⟩

/-- **References always resolve, and to the right record.**  If the store is reset only while no
call is at work, then at every moment of a run, also while calls are unfinished, each id of a
request, a resource or a scope that is stored with a span, a log record, a metric or a point is a
key of its table.  If no two different records interned since the last reset have the same id, then
a stored span or log record leads to the request metadata of the call that committed it and to the
resource and the scope that it stands under in the payload, and its detail shows them. -/
theorem references_resolve (run : Run calls) (h : run.ResetsWhenIdle) (n : Nat) :
    (run.take n).store.IsClosed ∧
    (NoCollisions ((run.take n).recent.map Turn.toStep) →
      (∀ ref span, (run.take n).store.span? ref = some span →
        ∃ i resource scope, .step i (.commitSpan ref span) ∈ (run.take n).recent ∧
          (calls i).Commits resource scope (.commitSpan ref span) ∧
          (run.take n).store.ResolvesTo span.origin (calls i).sender resource scope ∧
          (run.take n).store.answer? (.span ref) = some (.map [("span", span.toDoc),
            ("scope", scope.toDoc), ("resource", resource.toDoc),
            ("request", (calls i).sender.toDoc)])) ∧
      ∀ (index : Nat) log, (run.take n).store.logs[index]? = some log →
        ∃ i resource scope, .step i (.commitLog log) ∈ (run.take n).recent ∧
          (calls i).Commits resource scope (.commitLog log) ∧
          (run.take n).store.ResolvesTo log.origin (calls i).sender resource scope ∧
          (run.take n).store.answer? (.log index) = some (.map [("log", log.toDoc),
            ("scope", scope.toDoc), ("resource", resource.toDoc),
            ("request", (calls i).sender.toDoc)])) := by
  refine ⟨isClosed_store (h.take n), fun hdistinct => ⟨fun ref span hspan => ?_,
    fun index log hlog => ?_⟩⟩
  · obtain ⟨i, resource, scope, hi, hcommits, hresolves⟩ :=
      exists_resolvesTo (h.take n) hdistinct (mem_recent_of_span?_eq_some hspan) rfl rfl
    have horigin : span.origin = ⟨(calls i).sender.id, resource.id, scope.id⟩ := hcommits.carries
    rw [← horigin] at hresolves
    refine ⟨i, resource, scope, hi, hcommits, hresolves, ?_⟩
    rw [Store.answer?, hspan, Option.map_some, Store.spanDoc, hresolves.originMembers]
  · obtain ⟨i, resource, scope, hi, hcommits, hresolves⟩ :=
      exists_resolvesTo (h.take n) hdistinct (mem_recent_of_logs_eq_some hlog) rfl rfl
    have horigin : log.origin = ⟨(calls i).sender.id, resource.id, scope.id⟩ := hcommits.carries
    rw [← horigin] at hresolves
    refine ⟨i, resource, scope, hi, hcommits, hresolves, ?_⟩
    rw [Store.answer?, hlog, Option.map_some, Store.logDoc, hresolves.originMembers]

end Run

/-- A call with one log record that says nothing. -/
def blankLogCall : Call where
  clock := 0
  sender := .bare .grpc "a"
  payload := .logs ⟨[⟨none, [⟨none, [⟨0, 0, 0, "", .empty, [], 0, 0, [], [], ""⟩], ""⟩], ""⟩]⟩

theorem steps_blankLogCall : ∃ log, blankLogCall.steps =
    [.internRequest (.bare .grpc "a"), .internResource (Otlp.resourceRecord none ""),
      .internScope (Otlp.scopeRecord none ""), .commitLog log] :=
  ⟨_, rfl⟩

/-- The call is made twice, and the store is reset in between. -/
def twoLogCalls : Run fun _ : Bool => blankLogCall where
  turns := blankLogCall.steps.map (.step true) ++ .reset :: blankLogCall.steps.map (.step false)
  inOrder i := by
    rw [Turn.stepsOf_append, Turn.stepsOf, Turn.stepsOf, List.filterMap_cons_none (by rfl)]
    change Turn.stepsOf i _ ++ Turn.stepsOf i _ <+: _
    rw [Turn.stepsOf_map_step, Turn.stepsOf_map_step]
    cases i <;> simp

theorem resetsWhenIdle_twoLogCalls : twoLogCalls.ResetsWhenIdle := by
  intro before after hsplit i
  have hnone (j : Bool) : Turn.reset ∉ blankLogCall.steps.map (.step j) := by simp
  have hbefore : before = blankLogCall.steps.map (.step true) := by
    rcases List.append_eq_append_iff.mp hsplit with ⟨more, hbefore, hrest⟩ | ⟨more, hall, hrest⟩
    · cases more with
      | nil => simpa using hbefore
      | cons turn more =>
        have hlater := (List.cons.inj hrest).2
        exact absurd (by rw [hlater]; simp) (hnone false)
    · cases more with
      | nil => simpa using hall.symm
      | cons turn more =>
        obtain rfl := (List.cons.inj hrest).1
        exact absurd (by rw [hall]; simp) (hnone true)
  rw [hbefore, Turn.stepsOf_map_step]
  cases i
  · exact .inl rfl
  · exact .inr fun a ha => by simp at ha

theorem noCollisions_twoLogCalls (n : Nat) :
    NoCollisions ((twoLogCalls.take n).recent.map Turn.toStep) := by
  obtain ⟨log, hsteps⟩ := steps_blankLogCall
  have hmem {a : Step} (ha : a ∈ (twoLogCalls.take n).recent.map Turn.toStep) :
      a ∈ blankLogCall.steps := by
    obtain ⟨i, hi⟩ := (twoLogCalls.take n).mem_map_toStep_recent.mp ha
    exact (twoLogCalls.take n).mem_steps_of_mem_turns (Run.mem_turns_of_mem_recent _ hi)
  rw [hsteps] at hmem
  refine ⟨fun r r' hr hr' _ => ?_, fun r r' hr hr' _ => ?_, fun c c' hc hc' _ => ?_⟩
  · have h := hmem hr
    have h' := hmem hr'
    simp only [List.mem_cons, Step.internRequest.injEq, reduceCtorEq, List.not_mem_nil,
      or_false] at h h'
    rw [h, h']
  · have h := hmem hr
    have h' := hmem hr'
    simp only [List.mem_cons, Step.internResource.injEq, reduceCtorEq, List.not_mem_nil, or_false,
      false_or] at h h'
    rw [h, h']
  · have h := hmem hc
    have h' := hmem hc'
    simp only [List.mem_cons, Step.internScope.injEq, reduceCtorEq, List.not_mem_nil, or_false,
      false_or] at h h'
    rw [h, h']

/-- After the second call its record is shown with what it came from. -/
theorem references_resolve_twoLogCalls :
    twoLogCalls.ResetsWhenIdle ∧ (twoLogCalls.take 9).store.IsClosed ∧
      ∃ log resource scope, (twoLogCalls.take 9).store.logs[0]? = some log ∧
        (twoLogCalls.take 9).store.ResolvesTo log.origin blankLogCall.sender resource scope := by
  obtain ⟨hclosed, hresolves⟩ :=
    Run.references_resolve twoLogCalls resetsWhenIdle_twoLogCalls 9
  obtain ⟨log, hlog⟩ : ∃ log, (twoLogCalls.take 9).store.logs[0]? = some log := ⟨_, rfl⟩
  obtain ⟨i, resource, scope, -, -, hto, -⟩ := (hresolves (noCollisions_twoLogCalls 9)).2 0 log hlog
  exact ⟨resetsWhenIdle_twoLogCalls, hclosed, log, resource, scope, hlog, hto⟩

end Telemetry
