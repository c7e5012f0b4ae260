/-
# Counting recovery attempts

Every recovery attempt is published when it starts, and the container counts it.  The counter of
a container is therefore the number of attempts in its record since it last ran, as far as
sixteen bits go (`Recorded.toNat_recoveryAttempts`).
-/
import JobSupervision.Proofs.Supervision.Soundness

namespace JobSupervision

open Supervision Container

/-- Whether an event tells that a recovery attempt starts. -/
def EventPayload.isAttempt : EventPayload → Bool
  | .recoveryAttempt .. => true
  | _ => false

/-- How many recovery attempts are started in a passage. -/
def Passage.attempts (p : Passage) : Nat := p.events.countP (·.isAttempt)

/-- How many recovery attempts were started in a record since the container last ran. -/
def attemptsIn (record : List Passage) : Nat :=
  record.foldl (fun n p => if p.after.state = .running then 0 else n + p.attempts) 0

lemma attemptsIn_concat (record : List Passage) (p : Passage) :
    attemptsIn (record ++ [p]) =
      if p.after.state = .running then 0 else attemptsIn record + p.attempts := by
  simp [attemptsIn]

variable {policy : RetryPolicy}

lemma Container.countP_attemptEvents (c : Container) :
    c.attemptEvents.countP (·.isAttempt) = 1 := by
  by_cases h : c.state = .running <;> simp [attemptEvents, h, EventPayload.isAttempt]

/-- A dialogue step starts an attempt and counts it, or it leaves the counter alone, unless it
clears the counter of a container that runs again. -/
lemma Exchange.attempts_cases {c : Container} {trigger : Trigger} {d : Dialogue Turn}
    (h : Exchange policy c trigger d) :
    ((∃ e, trigger = .operation e ∧ e.Attempts c) ∧ d.events.countP (·.isAttempt) = 1 ∧
      d.container.state = .recovering ∧
      d.container.recoveryAttempts = RetryPolicy.nextAttempt c.recoveryAttempts) ∨
    d.events.countP (·.isAttempt) = 0 ∧
      (d.container.recoveryAttempts = c.recoveryAttempts ∨
        d.container.state = .running ∧ d.container.recoveryAttempts = 0) := by
  cases h with
  | attemptKnown e he => exact .inl ⟨⟨e, rfl, he⟩, c.countP_attemptEvents, rfl, rfl⟩
  | attemptUnknown e he => exact .inl ⟨⟨e, rfl, he⟩, c.countP_attemptEvents, rfl, rfl⟩
  | recovered => exact .inr ⟨rfl, .inr ⟨rfl, rfl⟩⟩
  | _ => exact .inr ⟨rfl, .inl rfl⟩

/-- A passage starts an attempt and counts it, or it leaves the counter alone, unless it clears
the counter of a container that runs again. -/
lemma Passage.Fits.attempts_cases {p : Passage} (hp : p.Fits policy) :
    (p.attempts = 1 ∧ p.after.state = .recovering ∧
      p.after.recoveryAttempts = RetryPolicy.nextAttempt p.before.recoveryAttempts) ∨
    p.attempts = 0 ∧
      (p.after.recoveryAttempts = p.before.recoveryAttempts ∨
        p.after.state = .running ∧ p.after.recoveryAttempts = 0) := by
  cases hp with
  | said hs => exact hs.attempts_cases.imp_left And.right
  | verdict c reason =>
    refine .inr ?_
    rcases c.fail_cases reason with ⟨hsame, hquiet⟩ | ⟨-, hfail, htold⟩
    · exact ⟨by simp [attempts, hquiet], .inl (by rw [hsame])⟩
    · exact ⟨by simp [attempts, htold, EventPayload.isAttempt], .inl (by rw [hfail])⟩

/-- The counter counts the attempts since the container last ran, as far as it goes. -/
theorem Recorded.toNat_recoveryAttempts {first k : Container} {record : List Passage}
    (h : Recorded policy first record k) :
    k.recoveryAttempts.toNat = min (attemptsIn record) 65535 := by
  induction h with
  | start h => obtain ⟨i, rfl | ⟨r, rfl⟩⟩ := h <;> rfl
  | @passage record p h hp ih =>
    rw [attemptsIn_concat]
    rcases hp.attempts_cases with ⟨hone, hrec, hnext⟩ | ⟨hzero, hrest⟩
    · rw [if_neg (by rw [hrec]; decide), hone, hnext, RetryPolicy.toNat_nextAttempt, ih]
      omega
    · by_cases hrun : p.after.state = .running
      -- the counter of a container that runs is clear
      · rw [if_pos hrun, ((h.passage p hp).sound.1.clear (.inr (.inr hrun))).2]
        rfl
      · rw [if_neg hrun, hzero, Nat.add_zero, ← ih]
        rcases hrest with hsame | ⟨hrun', -⟩
        · rw [hsame]
        · exact absurd hrun' hrun

end JobSupervision
