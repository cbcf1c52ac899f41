import Telemetry.Proofs.Store.Call
import Telemetry.Proofs.Store.History

/-!
# Calls and resets in any order

Calls are served at once: each takes its steps in order, and between two of them any other call may
take steps and the store may be reset.  A `Run` is such an order of turns, from an empty store up
to some moment, at which any of the calls may be unfinished.  So all states that the store goes
through are the stores of runs (`Run.take`).

What is stored then depends on the turns since the last reset (`Run.recent`).  Where the store is
reset only while no call is at work, those turns hold the first steps of each call that stores
anything since (`Run.prefix_or_looks`).
-/

namespace Telemetry

variable {ι : Type}

/-- A turn of a run: a call takes a step, or the store is reset. -/
inductive Turn (ι : Type) where
  | step (call : ι) (a : Step)
  | reset

namespace Turn

/-- What a turn does to the store. -/
def toStep : Turn ι → Step
  | .step _ a => a
  | .reset => .reset

variable [DecidableEq ι]

/-- The step that a call takes in a turn. -/
def stepOf? (i : ι) : Turn ι → Option Step
  | .step j a => if j = i then some a else none
  | .reset => none

/-- The steps that a call takes in some turns. -/
def stepsOf (i : ι) (turns : List (Turn ι)) : List Step :=
  turns.filterMap (stepOf? i)

theorem stepsOf_append (i : ι) (turns later : List (Turn ι)) :
    stepsOf i (turns ++ later) = stepsOf i turns ++ stepsOf i later :=
  List.filterMap_append

theorem mem_stepsOf {i : ι} {turns : List (Turn ι)} {a : Step} :
    a ∈ stepsOf i turns ↔ .step i a ∈ turns := by
  rw [stepsOf, List.mem_filterMap]
  constructor
  · rintro ⟨turn, hturn, ha⟩
    cases turn with
    | step j b =>
      simp only [stepOf?, Option.ite_none_right_eq_some, Option.some.injEq] at ha
      obtain ⟨rfl, rfl⟩ := ha
      exact hturn
    | reset => cases ha
  · intro h
    exact ⟨_, h, if_pos rfl⟩

theorem stepsOf_sublist (i : ι) (turns : List (Turn ι)) :
    (stepsOf i turns).Sublist (turns.map toStep) := by
  induction turns with
  | nil => exact .slnil
  | cons turn turns ih =>
    rw [List.map_cons, stepsOf]
    cases hturn : turn.stepOf? i with
    | none =>
      rw [List.filterMap_cons_none hturn]
      exact ih.cons _
    | some a =>
      rw [List.filterMap_cons_some hturn]
      cases turn with
      | step j b =>
        obtain rfl := Option.some.inj (Option.ite_none_right_eq_some.mp hturn).2
        exact ih.cons_cons _
      | reset => cases hturn

/-- In turns of a single call it takes all the steps. -/
theorem stepsOf_map_step (i j : ι) (steps : List Step) :
    stepsOf i (steps.map (.step j)) = if j = i then steps else [] := by
  rw [stepsOf, List.filterMap_map]
  by_cases h : j = i
  · have hall : stepOf? i ∘ .step j = some := by
      funext a
      simp [stepOf?, h]
    rw [hall, List.filterMap_some, if_pos h]
  · have hnone : stepOf? i ∘ .step j = fun _ => none := by
      funext a
      simp [stepOf?, h]
    rw [hnone, List.filterMap_none, if_neg h]

end Turn

/-- The step looks at the store and changes nothing. -/
def Step.isLook : Step → Bool
  | .showMetric _ => true
  | _ => false

/-- A call is not at work: it has not begun, or nothing but looks is left of its steps. -/
def Call.IsIdleAfter (call : Call) (taken : List Step) : Prop :=
  taken = [] ∨ ∀ a ∈ call.steps.drop taken.length, a.isLook = true

theorem Call.isReset_of_mem_steps {call : Call} {a : Step} (ha : a ∈ call.steps) :
    a.isReset = false := by
  cases a with
  | reset =>
    obtain ⟨resource, scope, hcarries⟩ := carries_of_mem ha rfl
    cases hcarries
  | _ => rfl

variable [DecidableEq ι]

/-- An order in which calls take their steps and the store is reset. -/
structure Run (calls : ι → Call) where
  turns : List (Turn ι)
  /-- Each call takes its steps in order.  It need not be finished. -/
  inOrder : ∀ i, Turn.stepsOf i turns <+: (calls i).steps

namespace Run

variable {calls : ι → Call}

/-- What is stored at the end of the run. -/
def store (run : Run calls) : Store :=
  .after (run.turns.map Turn.toStep)

/-- The first turns of a run. -/
def take (run : Run calls) (n : Nat) : Run calls where
  turns := run.turns.take n
  inOrder i := ((List.take_prefix n run.turns).filterMap _).trans (run.inOrder i)

/-- The turns since the last reset. -/
def recent (run : Run calls) : List (Turn ι) :=
  run.turns.rtakeWhile fun turn => !turn.toStep.isReset

/-- Whenever the store is reset no call is at work. -/
def ResetsWhenIdle (run : Run calls) : Prop :=
  ∀ before after, run.turns = before ++ .reset :: after →
    ∀ i, (calls i).IsIdleAfter (Turn.stepsOf i before)

theorem ResetsWhenIdle.take {run : Run calls} (h : run.ResetsWhenIdle) (n : Nat) :
    (run.take n).ResetsWhenIdle := by
  intro before after hsplit
  refine h before (after ++ run.turns.drop n) ?_
  rw [← List.cons_append, ← List.append_assoc, ← hsplit]
  exact (List.take_append_drop n run.turns).symm

variable (run : Run calls)

theorem mem_steps_of_mem_turns {i : ι} {a : Step} (h : .step i a ∈ run.turns) :
    a ∈ (calls i).steps :=
  (run.inOrder i).subset (Turn.mem_stepsOf.mpr h)

theorem mem_turns_of_mem_recent {turn : Turn ι} (h : turn ∈ run.recent) : turn ∈ run.turns :=
  (List.rtakeWhile_suffix _ _).subset h

/-- The steps of the run since the last reset are those of its recent turns. -/
theorem sinceReset_map_toStep :
    Step.sinceReset (run.turns.map Turn.toStep) = run.recent.map Turn.toStep := by
  rw [Step.sinceReset, recent, List.rtakeWhile, List.rtakeWhile, ← List.map_reverse,
    List.takeWhile_map, List.map_reverse]
  rfl

/-- Every step since the last reset is taken by a call. -/
theorem mem_map_toStep_recent {a : Step} :
    a ∈ run.recent.map Turn.toStep ↔ ∃ i, .step i a ∈ run.recent := by
  rw [List.mem_map]
  constructor
  · rintro ⟨turn, hturn, rfl⟩
    cases turn with
    | step i a => exact ⟨i, hturn⟩
    | reset => cases List.mem_rtakeWhile_imp hturn
  · rintro ⟨i, hi⟩
    exact ⟨_, hi, rfl⟩

/-- Every step since the last reset is one of a call's own. -/
theorem exists_of_mem_sinceReset {a : Step}
    (h : a ∈ Step.sinceReset (run.turns.map Turn.toStep)) :
    ∃ i, .step i a ∈ run.recent ∧ a ∈ (calls i).steps := by
  rw [sinceReset_map_toStep] at h
  obtain ⟨i, hi⟩ := run.mem_map_toStep_recent.mp h
  exact ⟨i, hi, run.mem_steps_of_mem_turns (run.mem_turns_of_mem_recent hi)⟩

theorem turns_eq_recent_or :
    run.turns = run.recent ∨ ∃ before, run.turns = before ++ .reset :: run.recent := by
  have hsplit : (run.turns.rdropWhile fun turn => !turn.toStep.isReset) ++ run.recent = run.turns :=
    List.rdropWhile_append_rtakeWhile
  rcases List.eq_nil_or_concat (run.turns.rdropWhile fun turn => !turn.toStep.isReset) with
    hnil | ⟨before, turn, hbefore⟩
  · rw [hnil, List.nil_append] at hsplit
    exact .inl hsplit.symm
  · have hlast : turn.toStep.isReset = true := by
      have hne : (run.turns.rdropWhile fun turn => !turn.toStep.isReset) ≠ [] := by simp [hbefore]
      simpa [hbefore] using List.rdropWhile_last_not _ _ hne
    rw [hbefore, List.concat_append] at hsplit
    -- a call has no reset among its steps, so the turn is one of its own
    have hreset : turn = .reset := by
      cases turn with
      | reset => rfl
      | step i a =>
        have ha := run.mem_steps_of_mem_turns (i := i) (a := a) (by rw [← hsplit]; simp)
        rw [Turn.toStep, Call.isReset_of_mem_steps ha] at hlast
        cases hlast
    rw [hreset] at hsplit
    exact .inr ⟨before, hsplit.symm⟩

/-- **After a reset between calls a call has started anew.**  What it has done since are its first
steps, unless it only looks at the store any more. -/
theorem prefix_or_looks (h : run.ResetsWhenIdle) (i : ι) :
    Turn.stepsOf i run.recent <+: (calls i).steps ∨
      ∀ a ∈ Turn.stepsOf i run.recent, a.isLook = true := by
  rcases run.turns_eq_recent_or with hall | ⟨before, hbefore⟩
  · rw [← hall]
    exact .inl (run.inOrder i)
  · have horder := run.inOrder i
    rw [hbefore, Turn.stepsOf_append, Turn.stepsOf, Turn.stepsOf,
      List.filterMap_cons_none (by rfl)] at horder
    rcases h before run.recent hbefore i with hnone | hlooks
    · rw [Turn.stepsOf] at hnone
      rw [hnone] at horder
      exact .inl horder
    · obtain ⟨rest, hrest⟩ := horder
      refine .inr fun a ha => hlooks a ?_
      rw [← hrest, List.append_assoc, Turn.stepsOf, List.drop_left]
      exact List.mem_append_left _ ha

end Run

end Telemetry
