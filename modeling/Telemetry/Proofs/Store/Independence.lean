import Telemetry.Proofs.Store.FirstSpan
import Telemetry.Proofs.Store.Run
import Telemetry.Query.Respond

/-!
# Independent requests commute

Two steps are independent if they intern no two different records under one id, commit no spans
under one reference, no points or headers of one metric, and not both a log record.  Independent
steps can be taken in either order (`Step.Independent.apply_comm`), so it does not matter how the
steps of several senders are interleaved if those of different senders are independent
(`Turn.applyAll_eq_of_stepsOf_eq`).

A `Delivery` is a converted payload with the metadata of its request, whose steps ingestion takes
(`Payload.steps_eq`).  `Delivery.IsIndependent` says when two deliveries do not meet, and
`Delivery.store_of_interleaving` what that means for the store and for whoever reads it.
-/

namespace Telemetry

/-! ### Steps in either order -/

namespace Step

/-- Neither of two steps can tell whether the other one was taken before it. -/
structure Independent (a b : Step) : Prop where
  request : ∀ id r r', a.request? id = some r → b.request? id = some r' → r = r'
  resource : ∀ id r r', a.resource? id = some r → b.resource? id = some r' → r = r'
  scope : ∀ id c c', a.scope? id = some c → b.scope? id = some c' → c = c'
  span : ∀ ref, a.span? ref = none ∨ b.span? ref = none
  log : a.log? = none ∨ b.log? = none
  metric : ∀ id, a.identity? id = none ∨ b.identity? id = none
  reset : a.isReset = false ∧ b.isReset = false

variable {a b : Step}

theorem Independent.commitSpan_comm {r r' : SpanRef} {span span' : Span}
    (h : Independent (.commitSpan r span) (.commitSpan r' span')) (s : Store) :
    (s.commitSpan r span).commitSpan r' span' = (s.commitSpan r' span').commitSpan r span := by
  have hne : r ≠ r' := by
    rintro rfl
    rcases h.span r with hnone | hnone <;> simp [Step.span?] at hnone
  refine congrArg (fun traces => { s with traces }) (Table.upsert_comm _ fun htrace old => ?_)
  -- within one trace the two spans have different ids
  exact Table.insertIfNew_comm _ fun hspan => absurd (by cases r; cases r'; simp_all) hne

/-- Headers and points under two identities meet only if the ids are the same. -/
theorem Independent.identity_ne (h : Independent a b) {i j : MetricIdentity}
    (ha : a.identity? i.id = some i) (hb : b.identity? j.id = some j) : i.id ≠ j.id := by
  intro hid
  rcases h.metric i.id with hnone | hnone
  · rw [ha] at hnone
    cases hnone
  · rw [hid, hb] at hnone
    cases hnone

/-- Changes of the metrics under different ids can be made in either order. -/
theorem metrics_upsert_comm (s : Store) {m n : MetricId} (hne : m ≠ n)
    (f g : Option Metric → Metric) :
    { s with metrics := (s.metrics.upsert m f).upsert n g } =
      { s with metrics := (s.metrics.upsert n g).upsert m f } :=
  congrArg (fun metrics => { s with metrics }) (Table.upsert_comm _ fun h => absurd h hne)

/-- **Independent steps can be taken in either order.** -/
theorem Independent.apply_comm (h : Independent a b) (s : Store) :
    b.apply (a.apply s) = a.apply (b.apply s) := by
  obtain ⟨hreset, hreset'⟩ := h.reset
  -- steps that change different tables do not meet
  cases a with
  | internRequest r =>
    cases b with
    | internRequest r' =>
      exact congrArg (fun requests => { s with requests }) (Table.insertIfNew_comm _ fun hid =>
        h.request r.id r r' (if_pos rfl) (if_pos hid.symm))
    | reset => cases hreset'
    | _ => rfl
  | internResource r =>
    cases b with
    | internResource r' =>
      exact congrArg (fun resources => { s with resources }) (Table.insertIfNew_comm _ fun hid =>
        h.resource r.id r r' (if_pos rfl) (if_pos hid.symm))
    | reset => cases hreset'
    | _ => rfl
  | internScope c =>
    cases b with
    | internScope c' =>
      exact congrArg (fun scopes => { s with scopes }) (Table.insertIfNew_comm _ fun hid =>
        h.scope c.id c c' (if_pos rfl) (if_pos hid.symm))
    | reset => cases hreset'
    | _ => rfl
  | commitSpan ref span =>
    cases b with
    | commitSpan ref' span' => exact h.commitSpan_comm s
    | reset => cases hreset'
    | _ => rfl
  | commitLog log =>
    cases b with
    | commitLog log' => rcases h.log with hnone | hnone <;> cases hnone
    | reset => cases hreset'
    | _ => rfl
  | commitMetric identity description metadata =>
    cases b with
    | commitMetric identity' _ _ | commitPoint identity' _ _ _ _ =>
      exact metrics_upsert_comm s (h.identity_ne (i := identity) (j := identity') (if_pos rfl)
        (if_pos rfl)) _ _
    | reset => cases hreset'
    | _ => rfl
  | commitPoint identity description metadata attr point =>
    cases b with
    | commitMetric identity' _ _ | commitPoint identity' _ _ _ _ =>
      exact metrics_upsert_comm s (h.identity_ne (i := identity) (j := identity') (if_pos rfl)
        (if_pos rfl)) _ _
    | reset => cases hreset'
    | _ => rfl
  | showMetric id => rfl
  | reset => cases hreset

/-- A step that is independent of those before it can be taken first. -/
theorem applyAll_append_cons (s : Store) {before : List Step}
    (h : ∀ b ∈ before, Independent b a) (after : List Step) :
    applyAll s (before ++ a :: after) = applyAll (a.apply s) (before ++ after) := by
  induction before generalizing s with
  | nil => rfl
  | cons b before ih =>
    rw [List.forall_mem_cons] at h
    change applyAll (b.apply s) (before ++ a :: after) =
      applyAll (b.apply (a.apply s)) (before ++ after)
    rw [ih (b.apply s) h.2, h.1.apply_comm s]

end Step

/-! ### Interleavings -/

namespace Turn

variable {ι : Type} [DecidableEq ι]

theorem stepsOf_cons (i : ι) (turn : Turn ι) (turns : List (Turn ι)) :
    stepsOf i (turn :: turns) = (turn.stepOf? i).toList ++ stepsOf i turns := by
  rw [stepsOf, List.filterMap_cons]
  cases turn.stepOf? i <;> rfl

theorem eq_nil_of_stepsOf_eq_nil {turns : List (Turn ι)} (hreset : .reset ∉ turns)
    (h : ∀ i, stepsOf i turns = []) : turns = [] := by
  rw [List.eq_nil_iff_forall_not_mem]
  intro turn hturn
  cases turn with
  | step i a =>
    have ha := mem_stepsOf.mpr hturn
    rw [h i] at ha
    cases ha
  | reset => exact hreset hturn

/-- **It does not matter how independent senders are interleaved.**  If steps of different senders
are independent, any two orders in which every sender takes the same steps lead to one store. -/
theorem applyAll_eq_of_stepsOf_eq {turns turns' : List (Turn ι)} (hreset : .reset ∉ turns)
    (hreset' : .reset ∉ turns') (hsame : ∀ i, stepsOf i turns = stepsOf i turns')
    (h : ∀ i j, i ≠ j → ∀ a ∈ stepsOf i turns, ∀ b ∈ stepsOf j turns, a.Independent b)
    (s : Store) :
    Step.applyAll s (turns.map toStep) = Step.applyAll s (turns'.map toStep) := by
  induction turns generalizing turns' s with
  | nil => rw [eq_nil_of_stepsOf_eq_nil hreset' fun i => (hsame i).symm]
  | cons turn rest ih =>
    cases turn with
    | reset => exact absurd List.mem_cons_self hreset
    | step i a =>
      have hfirst : stepsOf i turns' = a :: stepsOf i rest := by
        rw [← hsame i, stepsOf_cons, stepOf?, if_pos rfl]
        rfl
      -- the first step of this sender, and what others do before it in the other order
      obtain ⟨before, turn, after, rfl, hbefore, hturn, hafter⟩ :=
        List.filterMap_eq_cons_iff.mp hfirst
      obtain ⟨rfl⟩ : turn = .step i a := by
        cases turn with
        | step j b =>
          obtain ⟨rfl, hb⟩ := Option.ite_none_right_eq_some.mp hturn
          rw [Option.some.inj hb]
        | reset => cases hturn
      have hothers : ∀ b ∈ before.map toStep, b.Independent a := by
        intro b hb
        obtain ⟨turn, hmem, rfl⟩ := List.mem_map.mp hb
        cases turn with
        | step j b =>
          have hne : j ≠ i := by
            rintro rfl
            have hnone := hbefore _ hmem
            rw [stepOf?, if_pos rfl] at hnone
            cases hnone
          refine h j i hne b ?_ a (mem_stepsOf.mpr List.mem_cons_self)
          rw [hsame j]
          exact mem_stepsOf.mpr (List.mem_append_left _ hmem)
        | reset => exact absurd (List.mem_append_left _ hmem) hreset'
      have hrest : ∀ j, stepsOf j rest = stepsOf j (before ++ after) := by
        intro j
        have hall := hsame j
        rw [stepsOf_cons, stepsOf_append, stepsOf_cons, stepOf?] at hall
        rw [stepsOf_append]
        by_cases hj : i = j
        · subst hj
          have hnone : stepsOf i before = [] := List.filterMap_eq_nil_iff.mpr hbefore
          rw [hnone]
          exact hafter.symm
        · simpa [hj] using hall
      have hreset'' : .reset ∉ before ++ after := by
        intro hmem
        refine hreset' ?_
        rw [List.mem_append] at hmem ⊢
        exact hmem.imp_right (List.mem_cons_of_mem _)
      change Step.applyAll (a.apply s) (rest.map toStep) = _
      rw [List.map_append, List.map_cons, toStep, Step.applyAll_append_cons s hothers,
        ← List.map_append]
      refine ih (fun hmem => hreset (List.mem_cons_of_mem _ hmem)) hreset'' hrest
        (fun j k hjk b hb c hc => ?_) (a.apply s)
      refine h j k hjk b ?_ c ?_
      · rw [stepsOf_cons]
        exact List.mem_append_right _ hb
      · rw [stepsOf_cons]
        exact List.mem_append_right _ hc

end Turn

/-! ### Deliveries -/

/-- A converted payload. -/
inductive PreparedBatch where
  | traces (batch : Batch PreparedSpan)
  | logs (batch : Batch LogRecord)
  | metrics (batch : Batch PreparedMetric)

/-- A converted payload and the metadata of the request that it came in. -/
structure Delivery where
  sender : RequestMeta
  batch : PreparedBatch

namespace Batch

variable {α : Type}

/-- The resources of a batch. -/
def resources (batch : Batch α) : List Resource :=
  batch.groups.map ResourceGroup.resource

/-- The scopes of a batch. -/
def scopes (batch : Batch α) : List Scope :=
  batch.groups.flatMap fun group => group.scopes.map ScopeGroup.scope

/-- A step of a batch interns the request, a resource or a scope, or it stores an item. -/
theorem mem_steps {commit : Origin → α → List Step} {sender : RequestMeta} {batch : Batch α}
    {a : Step} (h : a ∈ batch.steps commit sender) :
    a = .internRequest sender ∨ (∃ r ∈ batch.resources, a = .internResource r) ∨
      (∃ c ∈ batch.scopes, a = .internScope c) ∨
      ∃ x ∈ batch.sent, a ∈ commit (x.origin sender) x.item := by
  rcases List.mem_cons.mp h with rfl | h
  · exact .inl rfl
  obtain ⟨group, hgroup, h⟩ := List.mem_flatMap.mp h
  rcases List.mem_cons.mp h with rfl | h
  · exact .inr (.inl ⟨_, List.mem_map_of_mem hgroup, rfl⟩)
  obtain ⟨s, hs, h⟩ := List.mem_flatMap.mp h
  rcases List.mem_cons.mp h with rfl | h
  · exact .inr (.inr (.inl ⟨_, List.mem_flatMap.mpr ⟨group, hgroup, List.mem_map_of_mem hs⟩, rfl⟩))
  obtain ⟨item, hitem, h⟩ := List.mem_flatMap.mp h
  refine .inr (.inr (.inr ⟨⟨group.resource, s.scope, item⟩, ?_, h⟩))
  refine List.mem_flatMap.mpr ⟨group, hgroup, List.mem_flatMap.mpr ⟨s, hs, ?_⟩⟩
  exact List.mem_map_of_mem hitem

end Batch

namespace Delivery

/-- The steps that a delivery takes. -/
def steps (d : Delivery) : List Step :=
  match d.batch with
  | .traces batch => batch.steps PreparedSpan.commit d.sender
  | .logs batch => batch.steps LogRecord.commit d.sender
  | .metrics batch => batch.steps PreparedMetric.commit d.sender

/-- The resources of a delivery. -/
def resources (d : Delivery) : List Resource :=
  match d.batch with
  | .traces batch => batch.resources
  | .logs batch => batch.resources
  | .metrics batch => batch.resources

/-- The scopes of a delivery. -/
def scopes (d : Delivery) : List Scope :=
  match d.batch with
  | .traces batch => batch.scopes
  | .logs batch => batch.scopes
  | .metrics batch => batch.scopes

/-- The pairs of ids of the spans of a delivery. -/
def spanRefs (d : Delivery) : List SpanRef :=
  match d.batch with
  | .traces batch => batch.sent.map fun x => x.item.ref
  | _ => []

/-- The ids of the metrics of a delivery. -/
def metricIds (d : Delivery) : List MetricId :=
  match d.batch with
  | .metrics batch => batch.sent.map fun x => (x.item.identityFrom (x.origin d.sender)).id
  | _ => []

/-- The delivery is one of log records. -/
def IsOfLogs (d : Delivery) : Prop :=
  ∃ batch, d.batch = .logs batch

/-- Two deliveries share no span and no metric, they are not both of log records, and what both
intern under one id is the same record. -/
structure IsIndependent (d e : Delivery) : Prop where
  notBothOfLogs : ¬(d.IsOfLogs ∧ e.IsOfLogs)
  spanRefs : ∀ ref ∈ d.spanRefs, ref ∉ e.spanRefs
  metricIds : ∀ id ∈ d.metricIds, id ∉ e.metricIds
  sender : d.sender.id = e.sender.id → d.sender = e.sender
  resources : ∀ r ∈ d.resources, ∀ r' ∈ e.resources, r.id = r'.id → r = r'
  scopes : ∀ c ∈ d.scopes, ∀ c' ∈ e.scopes, c.id = c'.id → c = c'

/-- The step stores nothing but what is in the delivery. -/
def Offers (d : Delivery) : Step → Prop
  | .internRequest r => r = d.sender
  | .internResource r => r ∈ d.resources
  | .internScope c => c ∈ d.scopes
  | .commitSpan ref _ => ref ∈ d.spanRefs
  | .commitLog _ => d.IsOfLogs
  | .commitMetric identity _ _ | .commitPoint identity _ _ _ _ => identity.id ∈ d.metricIds
  | .showMetric _ => True
  | .reset => False

variable {d e : Delivery}

theorem isReset_of_offers {a : Step} (h : d.Offers a) : a.isReset = false := by
  cases a with
  | reset => cases h
  | _ => rfl

theorem mem_metricIds_of_identity? {a : Step} (h : d.Offers a) {id : MetricId}
    (hid : a.identity? id ≠ none) : id ∈ d.metricIds := by
  cases a with
  | commitMetric identity _ _ | commitPoint identity _ _ _ _ =>
    have hsame : identity.id = id := by
      by_contra hne
      exact hid (if_neg hne)
    exact hsame ▸ h
  | _ => exact absurd rfl hid

theorem offers_of_mem_commit {batch : Batch PreparedMetric} (hbatch : d.batch = .metrics batch)
    {x : Sent PreparedMetric} (hx : x ∈ batch.sent) {a : Step}
    (ha : a ∈ x.item.commit (x.origin d.sender)) : d.Offers a := by
  have hid : (x.item.identityFrom (x.origin d.sender)).id ∈ d.metricIds := by
    rw [metricIds, hbatch]
    exact List.mem_map_of_mem hx
  simp only [PreparedMetric.commit, List.cons_append, List.mem_cons, List.mem_append, List.mem_map,
    List.not_mem_nil, or_false] at ha
  rcases ha with rfl | ⟨⟨attr, point⟩, -, rfl⟩ | rfl
  · exact hid
  · exact hid
  · trivial

theorem offers_of_mem_batch {α : Type} {commit : Origin → α → List Step} {batch : Batch α}
    (hresources : d.resources = batch.resources) (hscopes : d.scopes = batch.scopes)
    (hitems : ∀ x ∈ batch.sent, ∀ a ∈ commit (x.origin d.sender) x.item, d.Offers a) {a : Step}
    (ha : a ∈ batch.steps commit d.sender) : d.Offers a := by
  rcases Batch.mem_steps ha with rfl | ⟨r, hr, rfl⟩ | ⟨c, hc, rfl⟩ | ⟨x, hx, hcommit⟩
  · rfl
  · rwa [Offers, hresources]
  · rwa [Offers, hscopes]
  · exact hitems x hx a hcommit

theorem offers_of_mem_steps {a : Step} (ha : a ∈ d.steps) : d.Offers a := by
  obtain ⟨sender, batch⟩ := d
  cases batch with
  | traces batch =>
    refine offers_of_mem_batch rfl rfl (fun x hx a hcommit => ?_) ha
    obtain rfl := List.mem_singleton.mp hcommit
    exact List.mem_map_of_mem hx
  | logs batch =>
    refine offers_of_mem_batch rfl rfl (fun x hx a hcommit => ?_) ha
    obtain rfl := List.mem_singleton.mp hcommit
    exact ⟨batch, rfl⟩
  | metrics batch =>
    exact offers_of_mem_batch rfl rfl (fun x hx a hcommit => offers_of_mem_commit rfl hx hcommit) ha

theorem IsIndependent.symm (h : d.IsIndependent e) : e.IsIndependent d where
  notBothOfLogs := fun ⟨he, hd⟩ => h.notBothOfLogs ⟨hd, he⟩
  spanRefs ref he hd := h.spanRefs ref hd he
  metricIds id he hd := h.metricIds id hd he
  sender hid := (h.sender hid.symm).symm
  resources r hr r' hr' hid := (h.resources r' hr' r hr hid.symm).symm
  scopes c hc c' hc' hid := (h.scopes c' hc' c hc hid.symm).symm

/-- **Steps of independent deliveries are independent.** -/
theorem IsIndependent.independent (h : d.IsIndependent e) {a b : Step} (ha : d.Offers a)
    (hb : e.Offers b) : a.Independent b where
  request id r r' hr hr' := by
    obtain ⟨rfl, rfl⟩ := Step.request?_eq_some.mp hr
    obtain ⟨rfl, hid⟩ := Step.request?_eq_some.mp hr'
    obtain rfl : r = d.sender := ha
    obtain rfl : r' = e.sender := hb
    exact h.sender hid.symm
  resource id r r' hr hr' := by
    obtain ⟨rfl, rfl⟩ := Step.resource?_eq_some.mp hr
    obtain ⟨rfl, hid⟩ := Step.resource?_eq_some.mp hr'
    exact h.resources r ha r' hb hid.symm
  scope id c c' hc hc' := by
    obtain ⟨rfl, rfl⟩ := Step.scope?_eq_some.mp hc
    obtain ⟨rfl, hid⟩ := Step.scope?_eq_some.mp hc'
    exact h.scopes c ha c' hb hid.symm
  span ref := by
    by_contra hboth
    obtain ⟨hspan, hspan'⟩ := not_or.mp hboth
    obtain ⟨span, hspan⟩ := Option.ne_none_iff_exists'.mp hspan
    obtain ⟨span', hspan'⟩ := Option.ne_none_iff_exists'.mp hspan'
    obtain rfl := Step.span?_eq_some.mp hspan
    obtain rfl := Step.span?_eq_some.mp hspan'
    exact h.spanRefs ref ha hb
  log := by
    cases a with
    | commitLog log =>
      cases b with
      | commitLog log' => exact absurd ⟨ha, hb⟩ h.notBothOfLogs
      | _ => exact .inr rfl
    | _ => exact .inl rfl
  metric id := by
    by_contra hboth
    obtain ⟨hd, he⟩ := not_or.mp hboth
    exact h.metricIds id (mem_metricIds_of_identity? ha hd) (mem_metricIds_of_identity? hb he)
  reset := ⟨isReset_of_offers ha, isReset_of_offers hb⟩

/-- All the orders in which two independent deliveries can take their steps lead to one store. -/
theorem IsIndependent.applyAll_eq (h : d.IsIndependent e) {turns turns' : List (Turn Bool)}
    (hreset : .reset ∉ turns) (hreset' : .reset ∉ turns') (hd : Turn.stepsOf true turns = d.steps)
    (he : Turn.stepsOf false turns = e.steps)
    (hsame : ∀ i, Turn.stepsOf i turns = Turn.stepsOf i turns') (s : Store) :
    Step.applyAll s (turns.map Turn.toStep) = Step.applyAll s (turns'.map Turn.toStep) := by
  refine Turn.applyAll_eq_of_stepsOf_eq hreset hreset' hsame (fun i j hne a ha b hb => ?_) s
  cases i with
  | true =>
    obtain rfl : j = false := by simpa using hne.symm
    rw [hd] at ha
    rw [he] at hb
    exact h.independent (offers_of_mem_steps ha) (offers_of_mem_steps hb)
  | false =>
    obtain rfl : j = true := by simpa using hne.symm
    rw [he] at ha
    rw [hd] at hb
    exact h.symm.independent (offers_of_mem_steps ha) (offers_of_mem_steps hb)

/-- Every order in which two independent deliveries can take their steps leads to the store that
they lead to one after the other. -/
theorem IsIndependent.applyAll_turns (h : d.IsIndependent e) {turns : List (Turn Bool)}
    (hreset : .reset ∉ turns) (hd : Turn.stepsOf true turns = d.steps)
    (he : Turn.stepsOf false turns = e.steps) (s : Store) :
    Step.applyAll s (turns.map Turn.toStep) = Step.applyAll s (d.steps ++ e.steps) := by
  have hreset' : .reset ∉ d.steps.map (Turn.step true) ++ e.steps.map (Turn.step false) := by
    simp
  rw [h.applyAll_eq hreset hreset' hd he (fun i => ?_) s]
  · rw [List.map_append, List.map_map, List.map_map]
    exact congrArg _ (congrArg₂ _ (List.map_id _) (List.map_id _))
  · rw [Turn.stepsOf_append, Turn.stepsOf_map_step, Turn.stepsOf_map_step]
    cases i
    · simpa using he
    · simpa using hd

/-- Two independent deliveries lead to the same store in either order. -/
theorem IsIndependent.applyAll_comm (h : d.IsIndependent e) (s : Store) :
    Step.applyAll s (d.steps ++ e.steps) = Step.applyAll s (e.steps ++ d.steps) := by
  have hreset : .reset ∉ e.steps.map (Turn.step false) ++ d.steps.map (Turn.step true) := by
    simp
  rw [← h.applyAll_turns hreset ?_ ?_ s, List.map_append, List.map_map, List.map_map]
  · exact congrArg _ (congrArg₂ _ (List.map_id _) (List.map_id _))
  · rw [Turn.stepsOf_append, Turn.stepsOf_map_step, Turn.stepsOf_map_step]
    simp
  · rw [Turn.stepsOf_append, Turn.stepsOf_map_step, Turn.stepsOf_map_step]
    simp

/-- **Independent deliveries commute step by step.**  Start with any store and take two deliveries
of any signals that have no span and no metric in common, are not both of log records, and intern
the same records where the ids are the same.  However their steps are interleaved, the store that
results is the one of either delivery after the other, so all requests to the read interface are
answered alike. -/
theorem store_of_interleaving (h : d.IsIndependent e) (s : Store) {turns : List (Turn Bool)}
    (hreset : .reset ∉ turns) (hd : Turn.stepsOf true turns = d.steps)
    (he : Turn.stepsOf false turns = e.steps) :
    Step.applyAll s (turns.map Turn.toStep) = Step.applyAll s (d.steps ++ e.steps) ∧
    Step.applyAll s (turns.map Turn.toStep) = Step.applyAll s (e.steps ++ d.steps) ∧
    ∀ site request,
      Query.respond site (Step.applyAll s (turns.map Turn.toStep)) request =
        Query.respond site (Step.applyAll s (d.steps ++ e.steps)) request ∧
      Query.respond site (Step.applyAll s (turns.map Turn.toStep)) request =
        Query.respond site (Step.applyAll s (e.steps ++ d.steps)) request := by
  have hturns := h.applyAll_turns hreset hd he s
  have hcomm := h.applyAll_comm s
  refine ⟨hturns, hturns.trans hcomm, fun site request => ⟨?_, ?_⟩⟩
  · rw [hturns]
  · rw [hturns, hcomm]

/-- Two senders of spans of one trace, from one resource and scope, take turns.  One of them sends
its span twice. -/
theorem store_of_interleaving_of_one_trace :
    let span : Span :=
      ⟨default, ⟨.zero, "get", "", 1, 2⟩, "Server", "", [], 0, "", 0, [], 0, [], 0⟩
    let batch : List PreparedSpan → PreparedBatch := fun spans =>
      .traces ⟨[⟨Resource.empty, [⟨Scope.empty, spans⟩]⟩]⟩
    let first : PreparedSpan := ⟨⟨⟨1, by decide⟩, ⟨1, by decide⟩⟩, span⟩
    let second : PreparedSpan := ⟨⟨⟨1, by decide⟩, ⟨2, by decide⟩⟩, { span with kind := "Client" }⟩
    let d : Delivery := ⟨.bare .grpc "10.0.0.1", batch [first, first]⟩
    let e : Delivery := ⟨.bare .grpc "10.0.0.1", batch [second]⟩
    let turns := (d.steps.zip e.steps).flatMap (fun x => [Turn.step true x.1, .step false x.2]) ++
      (d.steps.drop e.steps.length).map (.step true)
    Step.applyAll .empty (turns.map Turn.toStep) = Step.applyAll .empty (e.steps ++ d.steps) := by
  intro span batch first second d e turns
  have h : d.IsIndependent e :=
    { notBothOfLogs := fun ⟨⟨_, hd⟩, _⟩ => by cases hd
      spanRefs := by decide
      metricIds := by decide
      sender := fun _ => rfl
      resources := by simp [d, e, batch, resources, Batch.resources]
      scopes := by simp [d, e, batch, scopes, Batch.scopes] }
  have hreset : .reset ∉ turns := by simp [turns, -List.map_drop]
  exact (store_of_interleaving h .empty hreset rfl rfl).2.1

end Delivery

/-! ### Payloads -/

/-- Converts a payload. -/
def Payload.prepare (clock : Clock) : Payload → Except Error PreparedBatch
  | .traces request => (request.toBatch Otlp.Span.prepare).map .traces
  | .logs request => ((request.timed clock).toBatch Otlp.TimedLog.prepare).map .logs
  | .metrics request => (request.toBatch Otlp.Metric.prepare).map .metrics

/-- The steps that store a payload are those of its delivery. -/
theorem Payload.steps_eq (clock : Clock) (sender : RequestMeta) (payload : Payload) :
    payload.steps clock sender =
      (payload.prepare clock).map fun batch => (Delivery.mk sender batch).steps := by
  cases payload with
  | traces request =>
    rw [steps, prepare]
    cases request.toBatch Otlp.Span.prepare <;> rfl
  | logs request =>
    rw [steps, prepare]
    cases (request.timed clock).toBatch Otlp.TimedLog.prepare <;> rfl
  | metrics request =>
    rw [steps, prepare]
    cases request.toBatch Otlp.Metric.prepare <;> rfl

theorem Store.ingest_of_prepare {clock : Clock} {payload : Payload} {batch : PreparedBatch}
    (h : payload.prepare clock = .ok batch) (s : Store) (sender : RequestMeta) :
    (s.ingest clock payload sender).1 = .ok () ∧
      (s.ingest clock payload sender).2.store =
        Step.applyAll s (Delivery.mk sender batch).steps := by
  have hsteps : payload.steps clock sender = .ok (Delivery.mk sender batch).steps := by
    rw [Payload.steps_eq, h]
    rfl
  unfold Store.ingest
  rw [hsteps]
  exact ⟨rfl, rfl⟩

/-- Two payloads that are both well-formed can be stored in either order if their deliveries are
independent. -/
theorem Store.ingest_comm {clock clock' : Clock} {payload payload' : Payload}
    {sender sender' : RequestMeta} {batch batch' : PreparedBatch}
    (h : payload.prepare clock = .ok batch) (h' : payload'.prepare clock' = .ok batch')
    (hindependent : (Delivery.mk sender batch).IsIndependent ⟨sender', batch'⟩) (s : Store) :
    ((s.ingest clock payload sender).2.store.ingest clock' payload' sender').2.store =
      ((s.ingest clock' payload' sender').2.store.ingest clock payload sender).2.store := by
  rw [(ingest_of_prepare h' _ _).2, (ingest_of_prepare h _ _).2, (ingest_of_prepare h _ _).2,
    (ingest_of_prepare h' _ _).2, ← Step.applyAll_append, ← Step.applyAll_append]
  exact hindependent.applyAll_comm s

end Telemetry
