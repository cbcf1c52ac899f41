import Telemetry.Proofs.Store.References

/-!
# The order of log records

Log records are appended, so calls that are served at once shuffle their records into the log, each
call keeping the order of its payload.  An `Interleaving` is an order in which accepted calls take
all of their steps, from any store.  `logs_of_interleaving` says what the log holds afterwards, that
the number answered for a record is its position there and stays so until a reset, and that other
signals leave the log alone.
-/

namespace Telemetry

/-! ### What a payload delivers -/

/-- The records are what a call has for the log: the items of its payload in order, each converted
at some time that the clock tells and with the ids of what it stands under. -/
def Call.Delivers (call : Call) (records : List LogRecord) : Prop :=
  match call.payload with
  | .logs request =>
    List.Forall₂ (fun (x : Sent Otlp.LogRecord) record => ∃ now log, call.clock.Tells now ∧
      x.item.prepare now = .ok log ∧ record = { log with origin := x.origin call.sender })
      request.sent records
  | _ => records = []

theorem PreparedSpan.filterMap_log_commit (origin : Origin) (p : PreparedSpan) :
    (p.commit origin).filterMap Step.log? = [] := rfl

theorem PreparedMetric.filterMap_log_commit (origin : Origin) (p : PreparedMetric) :
    (p.commit origin).filterMap Step.log? = [] := by
  rw [List.filterMap_eq_nil_iff]
  intro a ha
  simp only [commit, List.cons_append, List.mem_cons, List.mem_append, List.mem_map,
    List.not_mem_nil, or_false] at ha
  rcases ha with rfl | ⟨x, -, rfl⟩ | rfl <;> rfl

/-- The steps of an accepted call append what its payload delivers. -/
theorem Call.delivers_filterMap_steps {call : Call} {steps : List Step}
    (h : call.payload.steps call.clock call.sender = .ok steps) :
    call.Delivers (steps.filterMap Step.log?) := by
  have hintern (a : Step) (ha : a.isIntern = true) : a.log? = none := by
    cases a <;> first | rfl | cases ha
  unfold Call.Delivers
  cases hpayload : call.payload with
  | logs request =>
    rw [hpayload, Payload.steps] at h
    obtain ⟨batch, hbatch, rfl⟩ := exists_of_map_eq_ok h
    have hrecords : (batch.steps LogRecord.commit call.sender).filterMap Step.log? =
        batch.sent.map fun x => { x.item with origin := x.origin call.sender } := by
      rw [Batch.filterMap_steps hintern, ← List.flatMap_pure_eq_map]
      rfl
    rw [hrecords]
    dsimp only
    rw [List.forall₂_map_right_iff]
    refine (Otlp.LogExport.forall₂_sent hbatch).imp ?_
    rintro x y ⟨now, htells, hxy⟩
    exact ⟨now, y.item, htells, hxy.item, by rw [hxy.origin_eq]⟩
  | traces request | metrics request =>
    rw [hpayload, Payload.steps] at h
    rw [Otlp.Export.filterMap_steps h hintern, List.flatMap_eq_nil_iff]
    intro x hx
    cases x.item.prepare with
    | ok p => exact p.filterMap_log_commit _
    | error e => rfl

/-- The steps for a payload of another signal append nothing. -/
theorem Call.log?_eq_none {call : Call} (hsignal : call.payload.signal ≠ .logs)
    {steps : List Step} (h : call.payload.steps call.clock call.sender = .ok steps) :
    ∀ a ∈ steps, a.log? = none := by
  have hdelivers := call.delivers_filterMap_steps h
  unfold Delivers at hdelivers
  split at hdelivers
  · rename_i request hpayload
    exact absurd (by rw [hpayload]; rfl) hsignal
  · exact List.filterMap_eq_nil_iff.mp hdelivers

theorem Call.log?_of_mem_steps {call : Call} (hsignal : call.payload.signal ≠ .logs) {a : Step}
    (ha : a ∈ call.steps) : a.log? = none := by
  unfold steps at ha
  split at ha
  · rename_i steps hsteps
    exact log?_eq_none hsignal hsteps a ha
  · cases ha

theorem Call.isReset_eq_false {call : Call} {steps : List Step}
    (h : call.payload.steps call.clock call.sender = .ok steps) :
    ∀ a ∈ steps, a.isReset = false := by
  have hsteps : call.steps = steps := by rw [Call.steps, h]
  intro a ha
  exact isReset_of_mem_steps (hsteps ▸ ha : a ∈ call.steps)

/-! ### One record -/

namespace Store

theorem toList_logs_commitLog (s : Store) (log : LogRecord) :
    (s.commitLog log).logs.toList = s.logs.toList ++ [log] :=
  Array.toList_push

theorem logIndex_eq_size (s : Store) (log : LogRecord) : s.logIndex log = s.logs.size := by
  rw [logIndex, commitLog, Array.size_push, Nat.add_sub_cancel]

/-- Steps that append nothing leave the log alone. -/
theorem logs_applyAll_eq_self (s : Store) {steps : List Step} (hnone : ∀ a ∈ steps, a.log? = none)
    (hreset : ∀ a ∈ steps, a.isReset = false) : (Step.applyAll s steps).logs = s.logs := by
  have hlogs := keepsAll_log.applyAll s hreset
  rw [List.filterMap_eq_nil_iff.mpr hnone, List.append_nil] at hlogs
  exact Array.toList_inj.mp hlogs

/-- A record stays where it was put, and so do those before it. -/
theorem prefix_logs_applyAll (s : Store) {later : List Step}
    (hlater : ∀ a ∈ later, a.isReset = false) :
    s.logs.toList <+: (Step.applyAll s later).logs.toList :=
  ⟨_, (keepsAll_log.applyAll s hlater).symm⟩

theorem logs_logIndex (s : Store) (log : LogRecord) {later : List Step}
    (hlater : ∀ a ∈ later, a.isReset = false) :
    (Step.applyAll (s.commitLog log) later).logs[s.logIndex log]? = some log := by
  have hput : (s.logs.toList ++ [log])[s.logs.toList.length]? = some log :=
    List.getElem?_concat_length
  obtain ⟨rest, hrest⟩ := prefix_logs_applyAll (s.commitLog log) hlater
  rw [toList_logs_commitLog] at hrest
  rw [← Array.getElem?_toList, ← hrest, logIndex_eq_size, ← Array.length_toList,
    List.getElem?_append_left (by simp), hput]

theorem logs_ingest (s : Store) (call : Call) (hsignal : call.payload.signal ≠ .logs) :
    (s.ingest call.clock call.payload call.sender).2.store.logs = s.logs := by
  unfold ingest
  split
  · rename_i steps hsteps
    exact logs_applyAll_eq_self s (Call.log?_eq_none hsignal hsteps) (Call.isReset_eq_false hsteps)
  · rfl

end Store

/-! ### Calls that are served at once -/

section Interleaving

variable {ι : Type} [DecidableEq ι]

/-- An order in which calls that are all accepted take all of their steps, with no reset. -/
structure Interleaving (calls : ι → Call) where
  turns : List (Turn ι)
  /-- Each call is accepted, and takes its steps in order and to the end. -/
  complete : ∀ i, (calls i).payload.steps (calls i).clock (calls i).sender =
    .ok (Turn.stepsOf i turns)
  noReset : .reset ∉ turns

namespace Turn

/-- The record that a call appends in a turn. -/
def log? : Turn ι → Option (ι × LogRecord)
  | .step i a => a.log?.map fun log => (i, log)
  | .reset => none

omit [DecidableEq ι] in
theorem filterMap_log? (turns : List (Turn ι)) :
    (turns.filterMap log?).map Prod.snd = (turns.map toStep).filterMap Step.log? := by
  rw [List.map_filterMap, List.filterMap_map]
  refine congrArg (List.filterMap · turns) (funext fun turn => ?_)
  cases turn with
  | step i a => cases h : a.log? <;> simp [log?, toStep, h]
  | reset => rfl

/-- The records of one call are those of its own steps. -/
theorem filter_log? (i : ι) (turns : List (Turn ι)) :
    ((turns.filterMap log?).filter fun x => x.1 = i).map Prod.snd =
      (stepsOf i turns).filterMap Step.log? := by
  rw [List.filter_filterMap, List.map_filterMap, stepsOf, List.filterMap_filterMap]
  refine congrArg (List.filterMap · turns) (funext fun turn => ?_)
  cases turn with
  | step j a =>
    by_cases hj : j = i <;> cases h : a.log? <;> simp [log?, stepOf?, hj, h]
  | reset => rfl

end Turn

namespace Interleaving

variable {calls : ι → Call} (m : Interleaving calls)

/-- What is stored after the first turns. -/
def storeAt (s : Store) (turns : List (Turn ι)) : Store :=
  Step.applyAll s (turns.map Turn.toStep)

theorem isReset_of_mem {turns : List (Turn ι)} (hturns : turns ⊆ m.turns) {a : Step}
    (ha : a ∈ turns.map Turn.toStep) : a.isReset = false := by
  obtain ⟨turn, hturn, rfl⟩ := List.mem_map.mp ha
  cases turn with
  | step i a => exact Call.isReset_eq_false (m.complete i) a (Turn.mem_stepsOf.mpr (hturns hturn))
  | reset => exact absurd (hturns hturn) m.noReset

/-- The log after the first turns. -/
theorem logs_storeAt (s : Store) {turns : List (Turn ι)} (hturns : turns ⊆ m.turns) :
    (storeAt s turns).logs.toList =
      s.logs.toList ++ (turns.filterMap Turn.log?).map Prod.snd := by
  rw [Turn.filterMap_log?]
  exact Store.keepsAll_log.applyAll s fun a ha => m.isReset_of_mem hturns ha

/-- **Log records are shuffled, and the number of a record stays its position.**  After an
interleaving of accepted calls the log is what it was, followed by the records that the calls
deliver: each is there once, and those of one call are in the order of its payload.  The number
answered for a record is its position, also in every later state up to a reset, and the records
before it stay where they are.  A payload of another signal leaves the log alone, as a whole and in
each of its steps. -/
theorem logs_of_interleaving (s : Store) :
    (∃ merged : List (ι × LogRecord),
      (storeAt s m.turns).logs.toList = s.logs.toList ++ merged.map Prod.snd ∧
      (∀ i, (calls i).Delivers ((merged.filter fun x => x.1 = i).map Prod.snd)) ∧
      ∀ before i log after, m.turns = before ++ .step i (.commitLog log) :: after →
        ∃ earlier later, merged = earlier ++ (i, log) :: later ∧
          (storeAt s before).logIndex log = s.logs.size + earlier.length) ∧
    (∀ (found : Store) (log : LogRecord) (later : List Step), (∀ a ∈ later, a.isReset = false) →
      (found.commitLog log).logs.toList <+:
        (Step.applyAll (found.commitLog log) later).logs.toList ∧
      (Step.applyAll (found.commitLog log) later).logs[found.logIndex log]? = some log) ∧
    ∀ call : Call, call.payload.signal ≠ .logs → ∀ found : Store,
      (found.ingest call.clock call.payload call.sender).2.store.logs = found.logs ∧
      ∀ a ∈ call.steps, (a.apply found).logs = found.logs := by
  refine ⟨⟨m.turns.filterMap Turn.log?, m.logs_storeAt s (List.Subset.refl _), fun i => ?_,
    fun before i log after hsplit => ?_⟩, fun found log later hlater => ?_,
    fun call hsignal found => ⟨found.logs_ingest call hsignal, fun a ha => ?_⟩⟩
  · rw [Turn.filter_log?]
    exact Call.delivers_filterMap_steps (m.complete i)
  · refine ⟨before.filterMap Turn.log?, after.filterMap Turn.log?, ?_, ?_⟩
    · rw [hsplit, List.filterMap_append, List.filterMap_cons_some (by rfl)]
    · have hbefore : before ⊆ m.turns := by
        rw [hsplit]
        exact List.subset_append_left _ _
      rw [Store.logIndex_eq_size, ← Array.length_toList, m.logs_storeAt s hbefore,
        List.length_append, List.length_map, Array.length_toList]
  · exact ⟨Store.prefix_logs_applyAll _ hlater, found.logs_logIndex log hlater⟩
  · have hnone : ∀ b ∈ [a], b.log? = none := by
      simpa using Call.log?_of_mem_steps hsignal ha
    have hreset : ∀ b ∈ [a], b.isReset = false := by
      simpa using Call.isReset_of_mem_steps ha
    exact found.logs_applyAll_eq_self hnone hreset

/-- Two senders of the same record take turns. -/
def twoSenders : Interleaving fun _ : Bool => blankLogCall where
  turns := blankLogCall.steps.flatMap fun a => [.step true a, .step false a]
  complete i := by cases i <;> rfl
  noReset := by simp

theorem logs_of_twoSenders :
    (storeAt .empty twoSenders.turns).logs.size = 2 ∧
    ∃ merged : List (Bool × LogRecord),
      (storeAt .empty twoSenders.turns).logs.toList = merged.map Prod.snd ∧
      ∀ i, blankLogCall.Delivers ((merged.filter fun x => x.1 = i).map Prod.snd) := by
  obtain ⟨⟨merged, hlog, hdelivers, -⟩, -⟩ := twoSenders.logs_of_interleaving .empty
  exact ⟨rfl, merged, hlog, hdelivers⟩

end Interleaving

end Interleaving

end Telemetry
