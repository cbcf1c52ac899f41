import Telemetry.Proofs.Store.History

/-!
# The headers of a metric

Description and metadata are the header of a metric.  They come with every delivery, and where
senders disagree about them a stored metric keeps something of each.  `Metric.Reconciles` says what:
the metadata that came first, the longest description, and whether any header was unlike the first
one.  One more header keeps this up (`Metric.Reconciles.mergeHeader`), although it is compared with
what was kept and not with what came first.

`HeaderRun.header_of_run` is about whole runs from the first header of a metric on: what is kept of
the headers, which of them is warned about, and what of it does not depend on their order.
-/

namespace Telemetry

/-! ### Headers -/

/-- What a sender says of a metric besides its identity. -/
structure MetricHeader where
  description : String
  metadata : Attributes

namespace MetricHeader

/-- What headers are compared by. -/
def key (h : MetricHeader) : String × Digest :=
  (h.description, Attributes.digest h.metadata)

/-- The length of the description in bytes. -/
def size (h : MetricHeader) : Nat :=
  h.description.utf8ByteSize

/-- No header has a longer description, and none before this one has one as long. -/
def IsEarliestLongest (h : MetricHeader) (headers : List MetricHeader) : Prop :=
  ∃ earlier later, headers = earlier ++ h :: later ∧ (∀ g ∈ earlier, g.size < h.size) ∧
    ∀ g ∈ later, g.size ≤ h.size

namespace IsEarliestLongest

variable {h g : MetricHeader} {headers : List MetricHeader}

theorem mem (hh : h.IsEarliestLongest headers) : h ∈ headers := by
  obtain ⟨earlier, later, rfl, -⟩ := hh
  exact List.mem_append_right _ List.mem_cons_self

theorem size_le (hh : h.IsEarliestLongest headers) (hg : g ∈ headers) : g.size ≤ h.size := by
  obtain ⟨earlier, later, rfl, hearlier, hlater⟩ := hh
  rcases List.mem_append.mp hg with hg | hg
  · exact (hearlier g hg).le
  · rcases List.mem_cons.mp hg with rfl | hg
    · exact le_rfl
    · exact hlater g hg

/-- A header that is not longer changes nothing. -/
theorem concat (hh : h.IsEarliestLongest headers) (hg : g.size ≤ h.size) :
    h.IsEarliestLongest (headers ++ [g]) := by
  obtain ⟨earlier, later, rfl, hearlier, hlater⟩ := hh
  refine ⟨earlier, later ++ [g], by simp, hearlier, ?_⟩
  rw [List.forall_mem_append, List.forall_mem_singleton]
  exact ⟨hlater, hg⟩

/-- A header that is longer takes over. -/
theorem concat_self (hh : h.IsEarliestLongest headers) (hg : h.size < g.size) :
    g.IsEarliestLongest (headers ++ [g]) :=
  ⟨headers, [], rfl, fun _ hx => (hh.size_le hx).trans_lt hg, List.forall_mem_nil _⟩

end IsEarliestLongest

end MetricHeader

/-! ### One metric -/

namespace Metric

/-- The header that a metric shows. -/
def header (m : Metric) : MetricHeader :=
  ⟨m.description, m.metadata⟩

/-- The metric has been made with a header and has then been committed with more of them. -/
structure Reconciles (m : Metric) (first : MetricHeader) (more : List MetricHeader) : Prop where
  metadata : m.metadata = first.metadata
  description : ∃ h : MetricHeader,
    h.IsEarliestLongest (first :: more) ∧ m.description = h.description
  conflict : m.conflict = true ↔ ∃ h ∈ more, h.key ≠ first.key

variable {m : Metric} {first h : MetricHeader} {more : List MetricHeader}

theorem hasHeader_iff : m.hasHeader h.description h.metadata = true ↔ m.header.key = h.key := by
  simp [hasHeader, MetricHeader.key, header]

theorem conflict_mergeHeader (m : Metric) (description : String) (metadata : Attributes) :
    (m.mergeHeader description metadata).conflict =
      (m.conflict || m.isFirstConflict description metadata) := by
  unfold mergeHeader isFirstConflict
  cases m.hasHeader description metadata <;> cases hconflict : m.conflict <;> simp [hconflict]

theorem reconciles_new (identity : MetricIdentity) (h : MetricHeader) :
    (new identity h.description h.metadata).Reconciles h [] where
  metadata := rfl
  description := ⟨h, ⟨[], [], rfl, List.forall_mem_nil _, List.forall_mem_nil _⟩, rfl⟩
  conflict := by simp [new]

namespace Reconciles

theorem pushPoint (hm : m.Reconciles first more) (attr : Attributes) (point : Point) :
    (m.pushPoint attr point).Reconciles first more :=
  ⟨hm.metadata, hm.description, hm.conflict⟩

theorem forall_key_eq (hm : m.Reconciles first more) (hconflict : m.conflict = false) :
    ∀ h ∈ more, h.key = first.key := by
  intro h hmem
  by_contra hne
  rw [hm.conflict.mpr ⟨h, hmem, hne⟩] at hconflict
  cases hconflict

/-- As long as senders agree, the metric shows the header that came first.  So it does not matter
that further headers are compared with the one it shows. -/
theorem key_header (hm : m.Reconciles first more) (hconflict : m.conflict = false) :
    m.header.key = first.key := by
  obtain ⟨h, hlongest, hdescription⟩ := hm.description
  have hkey : h.key = first.key := by
    rcases List.mem_cons.mp hlongest.mem with rfl | hmem
    · rfl
    · exact hm.forall_key_eq hconflict h hmem
  have hfirst : h.description = first.description := congrArg Prod.fst hkey
  rw [header, hdescription, hfirst, hm.metadata]

/-- **One more header is reconciled with all that came before.** -/
theorem mergeHeader (hm : m.Reconciles first more) (h : MetricHeader) :
    (m.mergeHeader h.description h.metadata).Reconciles first (more ++ [h]) := by
  obtain ⟨g, hlongest, hdescription⟩ := hm.description
  unfold Metric.mergeHeader
  split
  · rename_i hsame
    rw [hasHeader_iff] at hsame
    have hsize : h.size ≤ g.size := by
      rw [MetricHeader.size, MetricHeader.size, ← hdescription]
      exact (congrArg String.utf8ByteSize (congrArg Prod.fst hsame)).ge
    refine ⟨hm.metadata, ⟨g, hlongest.concat hsize, hdescription⟩, ?_⟩
    rw [hm.conflict]
    constructor
    · rintro ⟨x, hx, hne⟩
      exact ⟨x, List.mem_append_left _ hx, hne⟩
    · rintro ⟨x, hx, hne⟩
      cases hconflict : m.conflict with
      | true => exact hm.conflict.mp hconflict
      | false =>
        -- without a conflict the header that is shown is the first one, and this is it again
        rw [hm.key_header hconflict] at hsame
        rcases List.mem_append.mp hx with hx | hx
        · exact ⟨x, hx, hne⟩
        · rw [List.mem_singleton.mp hx] at hne
          exact absurd hsame.symm hne
  · rename_i hother
    rw [hasHeader_iff] at hother
    refine ⟨hm.metadata, ?_, iff_of_true rfl ?_⟩
    · change ∃ x : MetricHeader, x.IsEarliestLongest ((first :: more) ++ [h]) ∧
        (if m.description.utf8ByteSize < h.size then h.description else m.description) =
          x.description
      rw [hdescription]
      by_cases hsize : g.size < h.size
      · exact ⟨h, hlongest.concat_self hsize, if_pos hsize⟩
      · exact ⟨g, hlongest.concat (not_lt.mp hsize), if_neg hsize⟩
    · cases hconflict : m.conflict with
      | true =>
        obtain ⟨x, hx, hne⟩ := hm.conflict.mp hconflict
        exact ⟨x, List.mem_append_left _ hx, hne⟩
      | false =>
        rw [hm.key_header hconflict] at hother
        exact ⟨h, List.mem_append_right _ List.mem_cons_self, Ne.symm hother⟩

theorem conflict_iff (hm : m.Reconciles first more) :
    m.conflict = true ↔ ∃ g ∈ first :: more, ∃ h ∈ first :: more, g.key ≠ h.key := by
  rw [hm.conflict]
  constructor
  · rintro ⟨h, hmem, hne⟩
    exact ⟨h, List.mem_cons_of_mem _ hmem, first, List.mem_cons_self, hne⟩
  · rintro ⟨g, hg, h, hh, hne⟩
    by_contra hsame
    push Not at hsame
    have hfirst : ∀ x ∈ first :: more, x.key = first.key := List.forall_mem_cons.mpr ⟨rfl, hsame⟩
    exact hne ((hfirst g hg).trans (hfirst h hh).symm)

/-- The mark and the length of the description do not depend on the order of the headers. -/
theorem eq_of_perm {m' : Metric} {first' : MetricHeader} {more' : List MetricHeader}
    (hm : m.Reconciles first more) (hm' : m'.Reconciles first' more')
    (hperm : (first' :: more').Perm (first :: more)) :
    m'.conflict = m.conflict ∧ m'.description.utf8ByteSize = m.description.utf8ByteSize := by
  refine ⟨?_, ?_⟩
  · rw [Bool.eq_iff_iff, hm.conflict_iff, hm'.conflict_iff]
    simp only [hperm.mem_iff]
  · obtain ⟨h, hlongest, hdescription⟩ := hm.description
    obtain ⟨h', hlongest', hdescription'⟩ := hm'.description
    rw [hdescription, hdescription']
    exact le_antisymm (hlongest.size_le (hperm.mem_iff.mp hlongest'.mem))
      (hlongest'.size_le (hperm.mem_iff.mpr hlongest.mem))

/-- A header is the first sign of a disagreement if it is unlike the first one and those between
are not. -/
theorem isFirstConflict_iff (hm : m.Reconciles first more) :
    m.isFirstConflict h.description h.metadata = true ↔
      (∀ g ∈ more, g.key = first.key) ∧ h.key ≠ first.key := by
  rw [isFirstConflict, Bool.and_eq_true, Bool.not_eq_true', Bool.not_eq_true', ← Bool.not_eq_true,
    hasHeader_iff]
  constructor
  · rintro ⟨hother, hconflict⟩
    rw [hm.key_header hconflict] at hother
    exact ⟨hm.forall_key_eq hconflict, Ne.symm hother⟩
  · rintro ⟨hmore, hne⟩
    have hconflict : m.conflict = false := by
      rw [← Bool.not_eq_true, hm.conflict]
      rintro ⟨x, hx, hx'⟩
      exact hx' (hmore x hx)
    rw [hm.key_header hconflict]
    exact ⟨Ne.symm hne, hconflict⟩

end Reconciles

/-- The mark stays when senders return to the first header. -/
example (i : MetricIdentity) :
    (((new i "up" []).mergeHeader "uptime" []).mergeHeader "up" []).conflict = true := rfl

end Metric

/-! ### One step -/

namespace Step

/-- The header that a step commits for a metric. -/
def header? (id : MetricId) : Step → Option MetricHeader
  | .commitMetric identity description metadata =>
    if identity.id = id then some ⟨description, metadata⟩ else none
  | _ => none

theorem header?_eq_some {id : MetricId} {a : Step} {h : MetricHeader} :
    a.header? id = some h ↔
      ∃ identity, identity.id = id ∧ a = .commitMetric identity h.description h.metadata := by
  cases a with
  | commitMetric identity description metadata =>
    rw [header?, Option.ite_none_right_eq_some, Option.some.injEq]
    constructor
    · rintro ⟨hid, rfl⟩
      exact ⟨identity, hid, rfl⟩
    · rintro ⟨_, hid, heq⟩
      cases heq
      exact ⟨hid, rfl⟩
  | _ => simp [header?]

/-- The headers that steps commit for a metric, in order. -/
def headers (id : MetricId) (steps : List Step) : List MetricHeader :=
  steps.filterMap (header? id)

theorem headers_map_commitMetric (identity : MetricIdentity) (hs : List MetricHeader) :
    headers identity.id (hs.map fun h =>
      .commitMetric identity h.description h.metadata) = hs := by
  induction hs with
  | nil => rfl
  | cons h hs ih =>
    have hfirst : (commitMetric identity h.description h.metadata).header? identity.id = some h :=
      header?_eq_some.mpr ⟨identity, rfl, rfl⟩
    rw [List.map_cons, headers, List.filterMap_cons_some hfirst]
    exact congrArg _ ih

end Step

/-- The warning is about the headers of a metric. -/
def Warning.isConflictOf (id : MetricId) : Warning → Bool
  | .conflictingHeader identity => identity.id = id
  | _ => false

namespace Store

/-- A metric is stored, has been made with a header and has then been committed with more. -/
def Reconciles (s : Store) (id : MetricId) (first : MetricHeader) (more : List MetricHeader) :
    Prop :=
  ∃ m, s.metrics.get? id = some m ∧ m.Reconciles first more

variable {s : Store} {id : MetricId} {first : MetricHeader} {more : List MetricHeader} {a : Step}

theorem reconciles_commitMetric {identity : MetricIdentity} (habsent : s.metrics.get? id = none)
    (hid : identity.id = id) (first : MetricHeader) :
    (s.commitMetric identity first.description first.metadata).Reconciles id first [] := by
  refine ⟨_, ?_, Metric.reconciles_new identity first⟩
  subst hid
  rw [commitMetric, Table.get?_upsert_self, habsent]

/-- **Every step keeps up what a metric says of its headers.** -/
theorem Reconciles.apply (hs : s.Reconciles id first more) (ha : a.isReset = false) :
    (a.apply s).Reconciles id first (more ++ (a.header? id).toList) := by
  obtain ⟨m, hm, hmore⟩ := hs
  cases a with
  | commitMetric identity description metadata =>
    rw [Step.header?]
    by_cases hid : identity.id = id
    · rw [if_pos hid]
      refine ⟨_, ?_, hmore.mergeHeader ⟨description, metadata⟩⟩
      subst hid
      rw [Step.apply, commitMetric, Table.get?_upsert_self, hm]
    · rw [if_neg hid, Option.toList_none, List.append_nil]
      refine ⟨m, ?_, hmore⟩
      rw [Step.apply, commitMetric, Table.get?_upsert_of_ne _ (Ne.symm hid), hm]
  | commitPoint identity description metadata attr point =>
    change Reconciles _ id first (more ++ [])
    rw [List.append_nil]
    by_cases hid : identity.id = id
    · refine ⟨_, ?_, hmore.pushPoint attr point⟩
      subst hid
      rw [Step.apply, commitPoint, Table.get?_upsert_self, hm]
      rfl
    · refine ⟨m, ?_, hmore⟩
      rw [Step.apply, commitPoint, Table.get?_upsert_of_ne _ (Ne.symm hid), hm]
  | reset => cases ha
  | _ =>
    change Reconciles _ id first (more ++ [])
    rw [List.append_nil]
    exact ⟨m, hm, hmore⟩

theorem Reconciles.applyAll (hs : s.Reconciles id first more) {steps : List Step}
    (hsteps : ∀ a ∈ steps, a.isReset = false) :
    (Step.applyAll s steps).Reconciles id first (more ++ Step.headers id steps) := by
  induction steps generalizing s more with
  | nil =>
    rw [Step.headers, List.filterMap_nil, List.append_nil]
    exact hs
  | cons a steps ih =>
    rw [List.forall_mem_cons] at hsteps
    have hrest := ih (hs.apply hsteps.1) hsteps.2
    rw [List.append_assoc] at hrest
    refine (congrArg (Reconciles _ id first) (congrArg (more ++ ·) ?_)).mp hrest
    rw [Step.headers, Step.headers, List.filterMap_cons]
    cases a.header? id <;> rfl

/-! ### Warnings -/

/-- What a step warns about the headers of a metric. -/
def conflictWarnings (s : Store) (id : MetricId) (a : Step) : List Warning :=
  (a.warnings s).filter (Warning.isConflictOf id)

theorem conflictWarnings_eq_nil (h : a.header? id = none) : s.conflictWarnings id a = [] := by
  rw [conflictWarnings, List.filter_eq_nil_iff]
  cases a with
  | commitMetric identity description metadata =>
    have hid : identity.id ≠ id := by
      intro hid
      rw [Step.header?, if_pos hid] at h
      cases h
    intro w hw
    rw [Step.warnings] at hw
    split at hw
    · split at hw
      · rw [List.mem_singleton.mp hw, Warning.isConflictOf, decide_eq_true_iff]
        exact hid
      · cases hw
    · cases hw
  | commitSpan ref span =>
    intro w hw
    rw [Step.warnings] at hw
    split at hw
    · rw [List.mem_singleton.mp hw]
      exact Bool.false_ne_true
    · cases hw
  | _ => exact List.forall_mem_nil _

/-- A header is warned about if it is the first one that is unlike the first. -/
theorem Reconciles.conflictWarnings_eq (hs : s.Reconciles id first more)
    (identity : MetricIdentity) (description : String) (metadata : Attributes)
    (hid : identity.id = id) :
    s.conflictWarnings id (.commitMetric identity description metadata) =
      if (∀ g ∈ more, g.key = first.key) ∧ (MetricHeader.mk description metadata).key ≠ first.key
      then [.conflictingHeader identity] else [] := by
  obtain ⟨m, hm, hmore⟩ := hs
  rw [conflictWarnings, Step.warnings, hid, hm]
  simp only [← hmore.isFirstConflict_iff]
  split
  · rw [List.filter_cons_of_pos]
    · rfl
    · rw [Warning.isConflictOf, decide_eq_true_iff]
      exact hid
  · rfl

/-- Senders are known to disagree about a metric. -/
def conflictOf (s : Store) (id : MetricId) : Bool :=
  (s.metrics.get? id).any Metric.conflict

/-- Warning of a disagreement and marking the metric go together. -/
theorem length_conflictWarnings (ha : a.isReset = false) :
    (s.conflictWarnings id a).length + (s.conflictOf id).toNat =
      ((a.apply s).conflictOf id).toNat := by
  cases a with
  | commitMetric identity description metadata =>
    by_cases hid : identity.id = id
    · subst hid
      rw [conflictWarnings, Step.warnings, Step.apply, conflictOf, conflictOf, commitMetric,
        Table.get?_upsert_self]
      cases s.metrics.get? identity.id with
      | none => rfl
      | some m =>
        simp only [Option.any_some, Metric.conflict_mergeHeader]
        cases hfirst : m.isFirstConflict description metadata with
        | true =>
          have hconflict : m.conflict = false := by
            simpa using (Bool.and_eq_true_iff.mp hfirst).2
          simp [hconflict, Warning.isConflictOf]
        | false => simp
    · have hnone : (Step.commitMetric identity description metadata).header? id = none := if_neg hid
      rw [conflictWarnings_eq_nil hnone, Step.apply, conflictOf, conflictOf, commitMetric,
        Table.get?_upsert_of_ne _ (Ne.symm hid), List.length_nil, Nat.zero_add]
  | commitPoint identity description metadata attr point =>
    rw [conflictWarnings_eq_nil rfl, List.length_nil, Nat.zero_add, Step.apply, conflictOf,
      conflictOf, commitPoint]
    by_cases hid : identity.id = id
    · subst hid
      rw [Table.get?_upsert_self]
      cases s.metrics.get? identity.id <;> rfl
    · rw [Table.get?_upsert_of_ne _ (Ne.symm hid)]
  | reset => cases ha
  | _ =>
    rw [conflictWarnings_eq_nil rfl, List.length_nil, Nat.zero_add]
    rfl

theorem length_allConflictWarnings {steps : List Step} (hsteps : ∀ a ∈ steps, a.isReset = false) :
    ((Step.allWarnings s steps).filter (Warning.isConflictOf id)).length +
      (s.conflictOf id).toNat = ((Step.applyAll s steps).conflictOf id).toNat := by
  induction steps generalizing s with
  | nil => exact Nat.zero_add _
  | cons a steps ih =>
    rw [List.forall_mem_cons] at hsteps
    have hfirst : (s.conflictWarnings id a).length + _ = _ := length_conflictWarnings hsteps.1
    have hrest := ih (s := a.apply s) hsteps.2
    rw [Step.allWarnings, List.filter_append, List.length_append]
    change _ = ((Step.applyAll (a.apply s) steps).conflictOf id).toNat
    rw [conflictWarnings] at hfirst
    omega

end Store

/-! ### Runs from the first header on -/

/-- A run from the moment on when a metric that is not stored is committed.  Among the steps that
follow there may be any but a reset. -/
structure HeaderRun (id : MetricId) where
  found : Store
  absent : found.metrics.get? id = none
  identity : MetricIdentity
  named : identity.id = id
  first : MetricHeader
  later : List Step
  lasts : ∀ a ∈ later, a.isReset = false

namespace HeaderRun

variable {id : MetricId} (r : HeaderRun id)

/-- The steps of the run. -/
def steps : List Step :=
  .commitMetric r.identity r.first.description r.first.metadata :: r.later

/-- The headers that the metric is committed with, in order. -/
def headers : List MetricHeader :=
  Step.headers id r.steps

/-- The store after the run. -/
def store : Store :=
  Step.applyAll r.found r.steps

/-- What is warned about the headers of the metric. -/
def warnings : List Warning :=
  (Step.allWarnings r.found r.steps).filter (Warning.isConflictOf id)

/-- A step of the run commits a header that is unlike the first one, and no step before does. -/
def IsFirstConflict (before : List Step) (a : Step) : Prop :=
  (∀ g ∈ Step.headers id before, g.key = r.first.key) ∧
    ∃ h, a.header? id = some h ∧ h.key ≠ r.first.key

/-- The header of the first step comes first. -/
theorem headers_cons (steps : List Step) :
    Step.headers id (.commitMetric r.identity r.first.description r.first.metadata :: steps) =
      r.first :: Step.headers id steps :=
  List.filterMap_cons_some (if_pos r.named)

theorem headers_eq : r.headers = r.first :: Step.headers id r.later :=
  r.headers_cons r.later

/-- The run in which a metric is committed with headers and nothing else happens. -/
def ofHeaders (identity : MetricIdentity) (first : MetricHeader) (more : List MetricHeader) :
    HeaderRun identity.id where
  found := .empty
  absent := rfl
  identity := identity
  named := rfl
  first := first
  later := more.map fun h => .commitMetric identity h.description h.metadata
  lasts := by simp [Step.isReset]

/-- Any headers can be those of a run. -/
theorem headers_ofHeaders (identity : MetricIdentity) (first : MetricHeader)
    (more : List MetricHeader) : (ofHeaders identity first more).headers = first :: more :=
  (headers_eq _).trans (congrArg (first :: ·) (Step.headers_map_commitMetric identity more))

theorem reconciles_store : r.store.Reconciles id r.first (Step.headers id r.later) :=
  (Store.reconciles_commitMetric r.absent r.named r.first).applyAll r.lasts

theorem length_warnings : r.warnings.length = (r.store.conflictOf id).toNat := by
  have hsteps : ∀ a ∈ r.steps, a.isReset = false := List.forall_mem_cons.mpr ⟨rfl, r.lasts⟩
  have habsent : r.found.conflictOf id = false := by
    rw [Store.conflictOf, r.absent]
    rfl
  have hlength : r.warnings.length + (r.found.conflictOf id).toNat =
      (r.store.conflictOf id).toNat := Store.length_allConflictWarnings hsteps
  rwa [habsent, Bool.toNat_false, Nat.add_zero] at hlength

/-- The first header of all disagrees with none and is not warned about. -/
theorem conflictWarnings_first :
    r.found.conflictWarnings id
      (.commitMetric r.identity r.first.description r.first.metadata) = [] := by
  rw [Store.conflictWarnings, Step.warnings, r.named, r.absent]
  rfl

/-- Steps are warned about iff they are the first ones to disagree. -/
theorem conflictWarnings_eq {before after : List Step} {a : Step}
    (hsplit : r.steps = before ++ a :: after) :
    (r.IsFirstConflict before a → ∃ identity, a.identity? id = some identity ∧
      (Step.applyAll r.found before).conflictWarnings id a = [.conflictingHeader identity]) ∧
    (¬r.IsFirstConflict before a →
      (Step.applyAll r.found before).conflictWarnings id a = []) := by
  cases before with
  | nil =>
    obtain ⟨rfl, -⟩ := List.cons_eq_cons.mp hsplit
    refine ⟨fun ⟨_, h, hh, hne⟩ => ?_, fun _ => r.conflictWarnings_first⟩
    obtain rfl : r.first = h := Option.some.inj ((if_pos r.named).symm.trans hh)
    exact absurd rfl hne
  | cons b before =>
    obtain ⟨rfl, hlater⟩ := List.cons_eq_cons.mp hsplit
    have hbefore : ∀ b ∈ before, b.isReset = false := fun b hb =>
      r.lasts b (hlater ▸ List.mem_append_left _ hb)
    have hreconciles :=
      (Store.reconciles_commitMetric r.absent r.named r.first).applyAll hbefore
    cases hheader : a.header? id with
    | none =>
      refine ⟨fun ⟨_, h, hh, _⟩ => ?_, fun _ => Store.conflictWarnings_eq_nil hheader⟩
      rw [hheader] at hh
      cases hh
    | some header =>
      obtain ⟨identity, hid, rfl⟩ := Step.header?_eq_some.mp hheader
      have hwarnings := hreconciles.conflictWarnings_eq identity header.description
        header.metadata hid
      refine ⟨fun ⟨hsame, h, hh, hne⟩ => ⟨identity, if_pos hid, ?_⟩, fun hnot => ?_⟩
      · obtain rfl := Option.some.inj (hheader.symm.trans hh)
        refine hwarnings.trans (if_pos ⟨fun g hg => hsame g ?_, hne⟩)
        rw [r.headers_cons]
        exact List.mem_cons_of_mem _ hg
      · refine hwarnings.trans (if_neg fun ⟨hsame, hne⟩ => hnot ⟨fun g hg => ?_, _, hheader, hne⟩)
        rw [r.headers_cons] at hg
        rcases List.mem_cons.mp hg with rfl | hg
        · rfl
        · exact hsame g hg

/-- **What becomes of the headers of a metric.**  After any run that starts with the first header
of a metric and has no reset, the metric shows the metadata of the first header and the earliest of
the longest descriptions, and it is marked iff some header is unlike the first one.  The first such
header is warned about and no other one is.  So mark, number of warnings and length of the
description are the same for all runs with these headers, in whatever order they come. -/
theorem header_of_run :
    ∃ m, r.store.metrics.get? id = some m ∧
      m.metadata = r.first.metadata ∧
      (∃ h : MetricHeader, h.IsEarliestLongest r.headers ∧ m.description = h.description) ∧
      (m.conflict = true ↔ ∃ h ∈ r.headers, h.key ≠ r.first.key) ∧
      (∀ before a after, r.steps = before ++ a :: after →
        (r.IsFirstConflict before a → ∃ identity, a.identity? id = some identity ∧
          (Step.applyAll r.found before).conflictWarnings id a = [.conflictingHeader identity]) ∧
        (¬r.IsFirstConflict before a →
          (Step.applyAll r.found before).conflictWarnings id a = [])) ∧
      r.warnings.length = m.conflict.toNat ∧
      ∀ r' : HeaderRun id, r'.headers.Perm r.headers →
        ∃ m', r'.store.metrics.get? id = some m' ∧ m'.conflict = m.conflict ∧
          r'.warnings.length = r.warnings.length ∧
          m'.description.utf8ByteSize = m.description.utf8ByteSize := by
  obtain ⟨m, hm, hreconciles⟩ := r.reconciles_store
  have hwarnings : ∀ r' : HeaderRun id, ∀ m', r'.store.metrics.get? id = some m' →
      r'.warnings.length = m'.conflict.toNat := by
    intro r' m' hm'
    rw [r'.length_warnings, Store.conflictOf, hm']
    rfl
  refine ⟨m, hm, hreconciles.metadata, ?_, ?_, fun _ _ _ => r.conflictWarnings_eq, hwarnings r m hm,
    fun r' hperm => ?_⟩
  · rw [headers_eq]
    exact hreconciles.description
  · rw [headers_eq, hreconciles.conflict, List.exists_mem_cons_iff]
    exact ⟨.inr, fun h => h.resolve_left fun hne => hne rfl⟩
  · obtain ⟨m', hm', hreconciles'⟩ := r'.reconciles_store
    rw [headers_eq, headers_eq] at hperm
    obtain ⟨hconflict, hsize⟩ := hreconciles.eq_of_perm hreconciles' hperm
    refine ⟨m', hm', hconflict, ?_, hsize⟩
    rw [hwarnings r' m' hm', hwarnings r m hm, hconflict]

end HeaderRun

end Telemetry
