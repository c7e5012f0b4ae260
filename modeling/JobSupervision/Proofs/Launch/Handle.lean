/-
# What a handle can give

A worker ends once, its watcher settles once, and the holder wants it stopped or does not; whatever
they do and in whatever order, a handle that nobody has taken from gives the outcome of the worker's
own end, or that of a cancelled launch if the holder wanted that (`LaunchHandle.Awaits`).  So does
the handle of a launch, however the time goes on (`Launched.awaits_passTo`).
-/
import Mathlib.Tactic.Common
import JobSupervision.Launch.Machine

namespace JobSupervision

/-! ### Handles -/

namespace LaunchHandle

variable {α : Type} {h : LaunchHandle α} {outcome : LaunchOutcome α}

/-- Whether a handle that nobody has taken from can give nothing but an outcome, or that of a
cancelled launch if this is wanted. -/
structure Awaits (h : LaunchHandle α) (outcome : LaunchOutcome α) : Prop where
  /-- Nobody has taken from it. -/
  untaken : h.taken = false
  /-- The end of the worker comes to the outcome. -/
  ended : ∀ o ∈ h.ended, o = outcome
  /-- So does what was settled, unless the worker was stopped. -/
  settled : ∀ o ∈ h.settled, o = outcome ∨ o = .error .cancelled ∧ h.cancelling = true

lemma awaits_fresh (outcome : LaunchOutcome α) : fresh.Awaits outcome := by
  constructor
  · rfl
  · simp [fresh]
  · simp [fresh]

lemma Awaits.finish (ha : h.Awaits outcome) : (h.finish outcome).Awaits outcome := by
  rw [LaunchHandle.finish]
  split_ifs
  · exact ha
  · refine ⟨ha.untaken, fun o ho => ?_, ha.settled⟩
    exact (Option.some.inj ho).symm

lemma Awaits.cancel (ha : h.Awaits outcome) : h.cancel.Awaits outcome := by
  refine ⟨ha.untaken, ha.ended, fun o ho => ?_⟩
  rcases ha.settled o ho with hsame | ⟨hcancelled, -⟩
  · exact .inl hsame
  · exact .inr ⟨hcancelled, rfl⟩

lemma Awaits.watch (ha : h.Awaits outcome) : h.watch.Awaits outcome := by
  rw [LaunchHandle.watch]
  split
  · exact ha
  -- a worker that has ended is not stopped, even if that is wanted too
  · next o _ hended =>
    refine ⟨ha.untaken, ha.ended, fun o' ho' => .inl ?_⟩
    obtain rfl := Option.some.inj ho'
    exact ha.ended o hended
  · split_ifs with hcancelling
    · refine ⟨ha.untaken, ha.ended, fun o ho => .inr ⟨?_, hcancelling⟩⟩
      exact (Option.some.inj ho).symm
    · exact ha

lemma Awaits.of_take? (ha : h.Awaits outcome) {o : LaunchOutcome α} {h' : LaunchHandle α}
    (htake : h.take? = some (o, h')) :
    o = outcome ∨ o = .error .cancelled ∧ h.cancelling = true := by
  rw [take?, ha.untaken, if_neg Bool.false_ne_true, Option.map_eq_some_iff] at htake
  obtain ⟨o', ho', heq⟩ := htake
  cases heq
  exact ha.settled o ho'

@[simp] lemma cancelling_finish (h : LaunchHandle α) (outcome : LaunchOutcome α) :
    (h.finish outcome).cancelling = h.cancelling := by
  rw [finish]
  split_ifs <;> rfl

@[simp] lemma cancelling_watch (h : LaunchHandle α) : h.watch.cancelling = h.cancelling := by
  rw [watch]
  split
  · rfl
  · rfl
  · split_ifs <;> rfl

@[simp] lemma settled_finish (h : LaunchHandle α) (outcome : LaunchOutcome α) :
    (h.finish outcome).settled = h.settled := by
  rw [finish]
  split_ifs <;> rfl

@[simp] lemma taken_finish (h : LaunchHandle α) (outcome : LaunchOutcome α) :
    (h.finish outcome).taken = h.taken := by
  rw [finish]
  split_ifs <;> rfl

lemma ended_watch (h : LaunchHandle α) : h.watch.ended = h.ended := by
  rw [watch]
  split
  · rfl
  · rfl
  · split_ifs <;> rfl

lemma taken_watch (h : LaunchHandle α) : h.watch.taken = h.taken := by
  rw [watch]
  split
  · rfl
  · rfl
  · split_ifs <;> rfl

/-- The watcher settles nothing but what the worker's end comes to, or that it was cancelled. -/
lemma settled_watch (h : LaunchHandle α) :
    h.watch.settled = h.settled.or
      (h.ended.or (if h.cancelling then some (.error .cancelled) else none)) := by
  obtain ⟨ended, cancelling, settled, taken⟩ := h
  cases settled with
  | some outcome => rfl
  | none =>
    cases ended with
    | some outcome => rfl
    | none => cases cancelling <;> rfl

lemma takeWithin_snd (h : LaunchHandle α) (limit : Duration) :
    (h.takeWithin limit).2 = { h with taken := h.isFinished } := by
  obtain ⟨ended, cancelling, settled, taken⟩ := h
  cases taken
  · cases settled <;> rfl
  · rfl

end LaunchHandle

/-! ### Launches as the time goes on -/

namespace Launched

variable {V : Type} {l : Launched V}

lemma endBy_cases (l : Launched V) (now later : Nat) :
    (l.endBy now later).outcome = l.outcome ∧
      ((l.endBy now later).handle = l.handle ∨
        (l.endBy now later).handle = l.handle.finish l.outcome) := by
  rw [endBy]
  split_ifs
  · exact ⟨rfl, .inl rfl⟩
  · split
    · split_ifs
      · exact ⟨rfl, .inr rfl⟩
      · exact ⟨rfl, .inl rfl⟩
    · exact ⟨rfl, .inl rfl⟩

lemma passTo_cases (l : Launched V) (now later : Nat) :
    (l.passTo now later).outcome = l.outcome ∧
      ((l.passTo now later).handle = (l.endBy now later).handle ∨
        (l.passTo now later).handle = (l.endBy now later).handle.watch) := by
  have hended := (l.endBy_cases now later).1
  rw [passTo]
  split
  · split_ifs
    · exact ⟨hended, .inr rfl⟩
    · exact ⟨hended, .inl rfl⟩
  · exact ⟨hended, .inl rfl⟩

@[simp] lemma outcome_passTo (l : Launched V) (now later : Nat) :
    (l.passTo now later).outcome = l.outcome := (l.passTo_cases now later).1

@[simp] lemma cancelling_passTo (l : Launched V) (now later : Nat) :
    (l.passTo now later).handle.cancelling = l.handle.cancelling := by
  have hended : (l.endBy now later).handle.cancelling = l.handle.cancelling := by
    rcases (l.endBy_cases now later).2 with h | h
    · rw [h]
    · rw [h, LaunchHandle.cancelling_finish]
  rcases (l.passTo_cases now later).2 with h | h
  · rw [h, hended]
  · rw [h, LaunchHandle.cancelling_watch, hended]

theorem awaits_passTo (h : l.handle.Awaits l.outcome) (now later : Nat) :
    (l.passTo now later).handle.Awaits l.outcome := by
  have hended : (l.endBy now later).handle.Awaits l.outcome := by
    rcases (l.endBy_cases now later).2 with hsame | hfinish
    · rwa [hsame]
    · rw [hfinish]
      exact h.finish
  rcases (l.passTo_cases now later).2 with hsame | hwatch
  · rwa [hsame]
  · rw [hwatch]
    exact hended.watch

end Launched

end JobSupervision
