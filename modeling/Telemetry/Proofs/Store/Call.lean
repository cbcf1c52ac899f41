import Telemetry.Proofs.Outcome
import Telemetry.Store.Ingest

/-!
# The steps of one call

A call that stores a payload takes the steps of its batch.  They are told here in terms of what was
sent: `Sent` is an item of a payload with the resource and the scope that it stands under, and
`Otlp.Export.forall₂_sent` says that a batch holds the converted items in their order, each under
the same resource and scope.

Every step either interns a record or stores an item, and an item is stored only when the request,
its resource and its scope have been interned by the same call (`Call.of_mem_taken`).
-/

namespace Telemetry

/-! ### Items and what they stand under -/

/-- An item of a payload with the resource and the scope that it stands under. -/
structure Sent (ι : Type) where
  resource : Resource
  scope : Scope
  item : ι

namespace Sent

variable {ι : Type}

/-- The origin of an item that was received with the given request metadata. -/
def origin (x : Sent ι) (sender : RequestMeta) : Origin :=
  ⟨sender.id, x.resource.id, x.scope.id⟩

end Sent

/-- The converted items of a batch, in order. -/
def Batch.sent {α : Type} (batch : Batch α) : List (Sent α) :=
  batch.groups.flatMap fun group => group.scopes.flatMap fun s =>
    s.items.map fun item => ⟨group.resource, s.scope, item⟩

/-- The items of an export request, in order. -/
def Otlp.Export.sent {ι : Type} (request : Otlp.Export ι) : List (Sent ι) :=
  request.resources.flatMap fun r => r.scopes.flatMap fun s =>
    s.items.map fun item =>
      ⟨Otlp.resourceRecord r.resource r.schema, Otlp.scopeRecord s.scope s.schema, item⟩

section Conversion

variable {ι α β : Type}

theorem exists_mem_of_forall₂ {R : α → β → Prop} {xs : List α} {ys : List β}
    (h : List.Forall₂ R xs ys) {y : β} (hy : y ∈ ys) : ∃ x ∈ xs, R x y := by
  induction h with
  | nil => cases hy
  | cons hxy _ ih =>
    rcases List.mem_cons.mp hy with rfl | hy
    · exact ⟨_, List.mem_cons_self, hxy⟩
    · obtain ⟨x, hx, hR⟩ := ih hy
      exact ⟨x, List.mem_cons_of_mem _ hx, hR⟩

/-- The converted form of an item, under the same resource and scope. -/
structure Sent.Converts (convert : ι → Except Error α) (x : Sent ι) (y : Sent α) : Prop where
  resource : y.resource = x.resource
  scope : y.scope = x.scope
  item : convert x.item = .ok y.item

theorem Sent.Converts.origin_eq {convert : ι → Except Error α} {x : Sent ι} {y : Sent α}
    (h : x.Converts convert y) (sender : RequestMeta) : y.origin sender = x.origin sender := by
  rw [Sent.origin, h.resource, h.scope, Sent.origin]

/-- A batch holds the converted items of its request in their order. -/
theorem Otlp.Export.forall₂_sent {convert : ι → Except Error α} {request : Otlp.Export ι}
    {batch : Batch α} (h : request.toBatch convert = .ok batch) :
    List.Forall₂ (Sent.Converts convert) request.sent batch.sent := by
  -- the three nested loops of the conversion, from the outside in
  obtain ⟨groups, hgroups, rfl⟩ := exists_of_bind_pure_eq_ok h
  refine List.rel_flatMap (forall₂_of_mapM_eq_ok hgroups) fun r group hgroup => ?_
  obtain ⟨scopes, hscopes, rfl⟩ := exists_of_bind_pure_eq_ok hgroup
  refine List.rel_flatMap (forall₂_of_mapM_eq_ok hscopes) fun s scope hscope => ?_
  obtain ⟨items, hitems, rfl⟩ := exists_of_bind_pure_eq_ok hscope
  rw [List.forall₂_map_left_iff, List.forall₂_map_right_iff]
  exact (forall₂_of_mapM_eq_ok hitems).imp fun x y hy => ⟨rfl, rfl, hy⟩

theorem forall₂_comp {γ : Type} {R : α → β → Prop} {S : β → γ → Prop} {xs : List α} {ys : List β}
    {zs : List γ} (hxy : List.Forall₂ R xs ys) (hyz : List.Forall₂ S ys zs) :
    List.Forall₂ (fun x z => ∃ y, R x y ∧ S y z) xs zs := by
  induction hxy generalizing zs with
  | nil =>
    cases hyz
    exact .nil
  | cons hx _ ih =>
    cases hyz with
    | cons hy hyz => exact .cons ⟨_, hx, hy⟩ (ih hyz)

theorem forall₂_mapIdx {R : α → β → Prop} {f : Nat → α → β} (h : ∀ i x, R x (f i x))
    (xs : List α) : List.Forall₂ R xs (xs.mapIdx f) := by
  induction xs generalizing f with
  | nil => exact .nil
  | cons x xs ih =>
    rw [List.mapIdx_cons]
    exact .cons (h 0 x) (ih fun i => h (i + 1))

end Conversion

/-! ### Log records and the clock -/

/-- A log record, under the same resource and scope, with a time that the clock tells. -/
structure Sent.IsTimed (clock : Clock) (x : Sent Otlp.LogRecord) (y : Sent Otlp.TimedLog) :
    Prop where
  resource : y.resource = x.resource
  scope : y.scope = x.scope
  record : y.item.record = x.item
  tells : clock.Tells y.item.now

namespace Otlp.LogExport

variable {clock : Clock} {request : Otlp.LogExport}

/-- Each record of a request is given a time, in its place. -/
theorem forall₂_sent_timed (clock : Clock) (request : Otlp.LogExport) :
    List.Forall₂ (Sent.IsTimed clock) request.sent (request.timed clock).sent := by
  refine List.rel_flatMap (forall₂_mapIdx (fun i r => ?_) request.resources) fun _ _ h => h
  refine List.rel_flatMap (forall₂_mapIdx (fun j s => ?_) r.scopes) fun _ _ h => h
  rw [List.forall₂_map_left_iff, List.forall₂_map_right_iff]
  exact forall₂_mapIdx (fun k record => ⟨rfl, rfl, rfl, i, j, k, rfl⟩) s.items

/-- A batch of log records holds those of its request in their order, each converted at a time that
the clock tells. -/
theorem forall₂_sent {batch : Batch Telemetry.LogRecord}
    (h : (request.timed clock).toBatch TimedLog.prepare = .ok batch) :
    List.Forall₂ (fun x y => ∃ now, clock.Tells now ∧ x.Converts (LogRecord.prepare now) y)
      request.sent batch.sent := by
  refine (forall₂_comp (forall₂_sent_timed clock request) (Export.forall₂_sent h)).imp ?_
  rintro x y ⟨z, hx, hz⟩
  have hitem : x.item.prepare z.item.now = .ok y.item := hx.record ▸ hz.item
  exact ⟨z.item.now, hx.tells, hz.resource.trans hx.resource, hz.scope.trans hx.scope, hitem⟩

end Otlp.LogExport

/-! ### What the steps of a batch need -/

section Backed

variable {P : List Step → Step → Prop} {seen steps later : List Step}

/-- Every step has `P` of the steps before it, of which those of `seen` come first. -/
def Backed (P : List Step → Step → Prop) : List Step → List Step → Prop
  | _, [] => True
  | seen, a :: rest => P seen a ∧ Backed P (seen ++ [a]) rest

/-- What holds of a step still does when more steps were taken before it. -/
def Lasting (P : List Step → Step → Prop) : Prop :=
  ∀ ⦃seen more : List Step⦄ ⦃a : Step⦄, seen ⊆ more → P seen a → P more a

theorem backed_append :
    Backed P seen (steps ++ later) ↔ Backed P seen steps ∧ Backed P (seen ++ steps) later := by
  induction steps generalizing seen with
  | nil => simp [Backed]
  | cons a steps ih => simp [Backed, ih, and_assoc]

theorem backed_flatMap {α : Type} {xs : List α} {f : α → List Step}
    (h : ∀ x ∈ xs, ∀ more, Backed P (seen ++ more) (f x)) : Backed P seen (xs.flatMap f) := by
  induction xs generalizing seen with
  | nil => trivial
  | cons x xs ih =>
    rw [List.flatMap_cons, backed_append]
    constructor
    · simpa using h x List.mem_cons_self []
    · refine ih fun y hy more => ?_
      rw [List.append_assoc]
      exact h y (List.mem_cons_of_mem _ hy) _

theorem backed_of_forall (hP : Lasting P) (h : ∀ a ∈ steps, P seen a) : Backed P seen steps := by
  induction steps generalizing seen with
  | nil => trivial
  | cons a steps ih =>
    refine ⟨h a List.mem_cons_self, ih fun b hb => ?_⟩
    exact hP (List.subset_append_left _ _) (h b (List.mem_cons_of_mem _ hb))

/-- What a step needs is still there when later steps have been taken. -/
theorem Backed.of_mem (hP : Lasting P) (h : Backed P seen steps) {a : Step} (ha : a ∈ steps) :
    P (seen ++ steps) a := by
  induction steps generalizing seen with
  | nil => cases ha
  | cons b steps ih =>
    obtain ⟨hb, hsteps⟩ := h
    rcases List.mem_cons.mp ha with rfl | ha
    · exact hP (List.subset_append_left _ _) hb
    · simpa using ih hsteps ha

end Backed

/-- The steps intern a request, a resource and a scope. -/
structure Interns (steps : List Step) (sender : RequestMeta) (resource : Resource)
    (scope : Scope) : Prop where
  request : .internRequest sender ∈ steps
  resource : .internResource resource ∈ steps
  scope : .internScope scope ∈ steps

theorem Interns.mono {steps more : List Step} {sender : RequestMeta} {resource : Resource}
    {scope : Scope} (h : Interns steps sender resource scope) (hmore : steps ⊆ more) :
    Interns more sender resource scope :=
  ⟨hmore h.request, hmore h.resource, hmore h.scope⟩

/-- The step interns a record. -/
def Step.isIntern : Step → Bool
  | .internRequest _ | .internResource _ | .internScope _ => true
  | _ => false

namespace Batch

variable {α : Type} {commit : Origin → α → List Step} {sender : RequestMeta} {batch : Batch α}

/-- The step interns a record, or it stores an item whose origin has been interned. -/
def Allows (commit : Origin → α → List Step) (sender : RequestMeta) (batch : Batch α)
    (seen : List Step) (a : Step) : Prop :=
  a.isIntern = true ∨
    ∃ x ∈ batch.sent, a ∈ commit (x.origin sender) x.item ∧ Interns seen sender x.resource x.scope

theorem lasting_allows : Lasting (batch.Allows commit sender) := fun _ _ _ hseen h =>
  h.imp_right fun ⟨x, hx, ha, hinterns⟩ => ⟨x, hx, ha, hinterns.mono hseen⟩

theorem backed_steps : Backed (batch.Allows commit sender) [] (batch.steps commit sender) := by
  -- whatever else was taken before a group, its own resource and scope come right before its items
  refine ⟨.inl rfl, backed_flatMap fun group hgroup _ => ⟨.inl rfl, ?_⟩⟩
  refine backed_flatMap fun s hs _ => ⟨.inl rfl, backed_of_forall lasting_allows fun a ha => ?_⟩
  obtain ⟨item, hitem, ha⟩ := List.mem_flatMap.mp ha
  have hsent : ⟨group.resource, s.scope, item⟩ ∈ batch.sent :=
    List.mem_flatMap.mpr ⟨group, hgroup, List.mem_flatMap.mpr ⟨s, hs, List.mem_map_of_mem hitem⟩⟩
  exact .inr ⟨_, hsent, ha, by simp, by simp, by simp⟩

/-- What steps offer that only steps for items have to offer, item by item. -/
theorem filterMap_steps {β : Type} {offer : Step → Option β}
    (hoffer : ∀ a, a.isIntern = true → offer a = none) :
    (batch.steps commit sender).filterMap offer =
      batch.sent.flatMap fun x => (commit (x.origin sender) x.item).filterMap offer := by
  unfold Batch.steps Batch.sent
  rw [List.filterMap_cons_none (hoffer _ rfl), List.filterMap_flatMap, List.flatMap_assoc]
  refine congrArg (List.flatMap · _) (funext fun group => ?_)
  rw [List.filterMap_cons_none (hoffer _ rfl), List.filterMap_flatMap, List.flatMap_assoc]
  refine congrArg (List.flatMap · _) (funext fun s => ?_)
  rw [List.filterMap_cons_none (hoffer _ rfl), List.filterMap_flatMap, List.flatMap_map]
  rfl

end Batch

/-- A step of a converted request interns a record, or it stores an item of the request, and what
the item stands under has been interned. -/
theorem Otlp.Export.of_mem_taken {ι α : Type} {convert : ι → Except Error α}
    {commit : Origin → α → List Step} {sender : RequestMeta} {request : Otlp.Export ι}
    {steps taken : List Step} {a : Step}
    (h : (request.toBatch convert).map (Batch.steps commit sender) = .ok steps)
    (htaken : taken <+: steps) (ha : a ∈ taken) :
    a.isIntern = true ∨ ∃ x ∈ request.sent, ∃ p, convert x.item = .ok p ∧
      a ∈ commit (x.origin sender) p ∧ Interns taken sender x.resource x.scope := by
  obtain ⟨batch, hbatch, rfl⟩ := exists_of_map_eq_ok h
  obtain ⟨rest, hrest⟩ := htaken
  have hbacked : Backed (batch.Allows commit sender) [] taken := by
    have hall : Backed (batch.Allows commit sender) [] (batch.steps commit sender) :=
      Batch.backed_steps
    rw [← hrest, backed_append] at hall
    exact hall.1
  refine (hbacked.of_mem Batch.lasting_allows ha).imp_right fun ⟨y, hy, hcommit, hinterns⟩ => ?_
  obtain ⟨x, hx, hxy⟩ := exists_mem_of_forall₂ (forall₂_sent hbatch) hy
  rw [hxy.origin_eq] at hcommit
  rw [hxy.resource, hxy.scope] at hinterns
  exact ⟨x, hx, y.item, hxy.item, hcommit, hinterns⟩

/-- What the steps of a converted request offer that only steps for items have to offer. -/
theorem Otlp.Export.filterMap_steps {ι α β : Type} {convert : ι → Except Error α}
    {commit : Origin → α → List Step} {sender : RequestMeta} {request : Otlp.Export ι}
    {steps : List Step} {offer : Step → Option β}
    (h : (request.toBatch convert).map (Batch.steps commit sender) = .ok steps)
    (hoffer : ∀ a, a.isIntern = true → offer a = none) :
    steps.filterMap offer = request.sent.flatMap fun x =>
      match convert x.item with
      | .ok p => (commit (x.origin sender) p).filterMap offer
      | .error _ => [] := by
  obtain ⟨batch, hbatch, rfl⟩ := exists_of_map_eq_ok h
  rw [Batch.filterMap_steps hoffer, ← List.forall₂_eq_eq_eq]
  refine List.rel_flatMap (forall₂_sent hbatch).flip fun y x hxy => ?_
  rw [List.forall₂_eq_eq_eq, hxy.item, hxy.origin_eq]

/-- The steps of a converted request intern its metadata, converted resources and converted scopes,
and store converted items, so what holds of these holds of every step. -/
theorem Otlp.Export.forall_mem_steps {ι α : Type} {convert : ι → Except Error α}
    {commit : Origin → α → List Step} {sender : RequestMeta} {request : Otlp.Export ι}
    {steps : List Step} {Q : Step → Prop}
    (h : (request.toBatch convert).map (Batch.steps commit sender) = .ok steps)
    (hrequest : Q (.internRequest sender))
    (hresource : ∀ resource schema, Q (.internResource (Otlp.resourceRecord resource schema)))
    (hscope : ∀ scope schema, Q (.internScope (Otlp.scopeRecord scope schema)))
    (hitem : ∀ x p, convert x = .ok p → ∀ origin, ∀ a ∈ commit origin p, Q a) :
    ∀ a ∈ steps, Q a := by
  obtain ⟨batch, hbatch, rfl⟩ := exists_of_map_eq_ok h
  obtain ⟨groups, hgroups, rfl⟩ := exists_of_bind_pure_eq_ok hbatch
  refine List.forall_mem_cons.mpr ⟨hrequest, fun a ha => ?_⟩
  obtain ⟨group, hgroup, ha⟩ := List.mem_flatMap.mp ha
  obtain ⟨r, -, hr⟩ := exists_mem_of_forall₂ (forall₂_of_mapM_eq_ok hgroups) hgroup
  obtain ⟨scopes, hscopes, rfl⟩ := exists_of_bind_pure_eq_ok hr
  rcases List.mem_cons.mp ha with rfl | ha
  · exact hresource _ _
  obtain ⟨s, hs, ha⟩ := List.mem_flatMap.mp ha
  obtain ⟨c, -, hc⟩ := exists_mem_of_forall₂ (forall₂_of_mapM_eq_ok hscopes) hs
  obtain ⟨items, hitems, rfl⟩ := exists_of_bind_pure_eq_ok hc
  rcases List.mem_cons.mp ha with rfl | ha
  · exact hscope _ _
  obtain ⟨p, hp, ha⟩ := List.mem_flatMap.mp ha
  obtain ⟨x, -, hx⟩ := exists_mem_of_forall₂ (forall₂_of_mapM_eq_ok hitems) hp
  exact hitem x p hx _ a ha

/-! ### Calls -/

/-- A call to store a payload. -/
structure Call where
  clock : Clock
  sender : RequestMeta
  payload : Payload

namespace Call

/-- The steps that a call takes.  It takes none if its payload is refused. -/
def steps (call : Call) : List Step :=
  match call.payload.steps call.clock call.sender with
  | .ok steps => steps
  | .error _ => []

/-- The call has an item under the given resource and scope that it stores in the given step. -/
def Commits (call : Call) (resource : Resource) (scope : Scope) (a : Step) : Prop :=
  let origin : Origin := ⟨call.sender.id, resource.id, scope.id⟩
  match call.payload with
  | .traces request =>
    ∃ x p, ⟨resource, scope, x⟩ ∈ request.sent ∧ x.prepare = .ok p ∧ a ∈ p.commit origin
  | .logs request =>
    ∃ x now p, ⟨resource, scope, x⟩ ∈ request.sent ∧ call.clock.Tells now ∧
      x.prepare now = .ok p ∧ a ∈ p.commit origin
  | .metrics request =>
    ∃ x p, ⟨resource, scope, x⟩ ∈ request.sent ∧ x.prepare = .ok p ∧ a ∈ p.commit origin

end Call

/-- Of the ids of an origin, the step puts those of the given one into the store. -/
def Step.Carries (o : Origin) : Step → Prop
  | .commitSpan _ span => span.origin = o
  | .commitLog log => log.origin = o
  | .commitMetric identity _ _ => identity.resource = o.resource ∧ identity.scope = o.scope
  | .commitPoint identity _ _ _ point =>
    identity.resource = o.resource ∧ identity.scope = o.scope ∧ point.base.request = o.request
  | .showMetric _ => True
  | _ => False

theorem Point.request_deliveredBy (request : RequestId) (point : Point) :
    (point.deliveredBy request).base.request = request := by
  cases point <;> rfl

theorem PreparedMetric.carries_commit {origin : Origin} {p : PreparedMetric} {a : Step}
    (h : a ∈ p.commit origin) : a.Carries origin := by
  simp only [PreparedMetric.commit, List.cons_append, List.mem_cons, List.mem_append, List.mem_map,
    List.not_mem_nil, or_false] at h
  rcases h with rfl | ⟨⟨attr, point⟩, -, rfl⟩ | rfl
  · exact ⟨rfl, rfl⟩
  · exact ⟨rfl, rfl, Point.request_deliveredBy _ _⟩
  · trivial

namespace Call

variable {call : Call} {taken : List Step} {a : Step}

theorem Commits.carries {resource : Resource} {scope : Scope} (h : call.Commits resource scope a) :
    a.Carries ⟨call.sender.id, resource.id, scope.id⟩ := by
  unfold Commits at h
  split at h
  · obtain ⟨x, p, -, -, ha⟩ := h
    obtain rfl := List.mem_singleton.mp ha
    rfl
  · obtain ⟨x, now, p, -, -, -, ha⟩ := h
    obtain rfl := List.mem_singleton.mp ha
    rfl
  · obtain ⟨x, p, -, -, ha⟩ := h
    exact PreparedMetric.carries_commit ha

/-- **What a call stores has been interned by the call.**  Of the first steps of a call, each
interns a record or stores an item, and then the request and what the item stands under have been
interned among these steps. -/
theorem of_mem_taken (htaken : taken <+: call.steps) (ha : a ∈ taken) :
    a.isIntern = true ∨ ∃ resource scope, call.Commits resource scope a ∧
      Interns taken call.sender resource scope := by
  unfold steps at htaken
  split at htaken
  · rename_i steps hsteps
    unfold Commits
    cases hpayload : call.payload with
    | traces request | metrics request =>
      rw [hpayload] at hsteps
      refine (Otlp.Export.of_mem_taken hsteps htaken ha).imp_right ?_
      rintro ⟨⟨resource, scope, x⟩, hx, p, hp, hcommit, hinterns⟩
      exact ⟨resource, scope, ⟨x, p, hx, hp, hcommit⟩, hinterns⟩
    | logs request =>
      rw [hpayload] at hsteps
      refine (Otlp.Export.of_mem_taken hsteps htaken ha).imp_right ?_
      rintro ⟨y, hy, p, hp, hcommit, hinterns⟩
      obtain ⟨⟨resource, scope, x⟩, hx, rfl, rfl, rfl, htells⟩ :=
        exists_mem_of_forall₂ (Otlp.LogExport.forall₂_sent_timed call.clock request) hy
      exact ⟨_, _, ⟨_, _, p, hx, htells, hp, hcommit⟩, hinterns⟩
  · rw [List.prefix_nil.mp htaken] at ha
    cases ha

/-- A step of a call that interns nothing stores an item. -/
theorem exists_commits (ha : a ∈ call.steps) (hintern : a.isIntern = false) :
    ∃ resource scope, call.Commits resource scope a := by
  rcases of_mem_taken List.prefix_rfl ha with h | ⟨resource, scope, h, -⟩
  · rw [hintern] at h
    cases h
  · exact ⟨resource, scope, h⟩

theorem carries_of_mem (ha : a ∈ call.steps) (hintern : a.isIntern = false) :
    ∃ resource scope, a.Carries ⟨call.sender.id, resource, scope⟩ := by
  obtain ⟨resource, scope, h⟩ := exists_commits ha hintern
  exact ⟨_, _, h.carries⟩

end Call

end Telemetry
