/-
# Why containers failed

A container fails in one passage of its record at most, and what makes it fail there has a text:
the error of the submission, the run that the cluster reported as failed, the reason that the
owner gave, or why a caller gave the container up (`Passage.cause?`).  The last error of a
container that failed is this text, with one exception: if recovery finds the run failed, the
container keeps the last error that it had, which may be none, or a note about an answer that was
not clear, and never tells that the run failed (`Recorded.explained_iff`).
-/
import JobSupervision.Proofs.Supervision.Soundness

namespace JobSupervision

open Supervision

/-! ### What containers in recovery tell -/

namespace Container

lemma ne_failedRun {text : String} (h : text.toList.head? ≠ some 'r') (r : RunId) :
    text ≠ failedRun r := by
  rintro rfl
  exact h (by simp [failedRun, String.toList_append])

/-- Whether a container, as long as it is in recovery, does not tell that a run failed. -/
def Unaware (k : Container) : Prop :=
  k.state = .recovering → ∀ r, k.lastError ≠ some (failedRun r)

lemma Unaware.of_ne {k : Container} {text : String} (hk : k.lastError = some text)
    (h : text.toList.head? ≠ some 'r') : k.Unaware := by
  intro _ r hr
  exact ne_failedRun h r (Option.some.inj (hk.symm.trans hr))

lemma Unaware.of_isNew {k : Container} (h : IsNew k) : k.Unaware := by
  obtain ⟨i, rfl | ⟨r, rfl⟩⟩ := h <;> exact fun hs => by cases hs

end Container

open Container

lemma ClusterError.head?_message (e : ClusterError) : e.message.toList.head? ≠ some 'r' := by
  cases e with
  | submission m =>
    change ("cluster rejected submission: " ++ m).toList.head? ≠ some 'r'
    simp [String.toList_append]
  | transient m =>
    change ("cluster query failed: " ++ m).toList.head? ≠ some 'r'
    simp [String.toList_append]

/-- What is noted about an answer that is not clear does not begin like the news of a failed
run. -/
lemma head?_of_unclear? {r : RunId} {a : Except ClusterError RemoteStatus} {m : String}
    (h : unclear? r a = some m) : m.toList.head? ≠ some 'r' := by
  rcases a with e | status
  · have hm : e.message = m := Option.some.inj h
    exact hm ▸ e.head?_message
  · cases status with
    | unknown =>
      have hm : unknownRun r = m := Option.some.inj h
      rw [← hm]
      change ("cluster reported run " ++ r.text ++ " as unknown").toList.head? ≠ some 'r'
      simp [String.toList_append]
    | _ => cases h

/-- A sound container in recovery does not come to tell that a run failed. -/
lemma Exchange.unaware {policy : RetryPolicy} {c : Container} {trigger : Trigger}
    {d : Dialogue Turn} (h : Exchange policy c trigger d) (hsound : c.Sound) (hc : c.Unaware) :
    d.container.Unaware := by
  have hattempt : c.Active → c.attempting.Unaware := by
    rintro (hs | hs)
    · intro _ r hr
      cases (hsound.clear (.inr (.inr hs))).1.symm.trans hr
    · exact fun _ => hc hs
  cases h with
  | leave | showState | askStatus | stillRunning | sameRun | askStop | notStopped | notStoppable
    | rest => exact hc
  | submit | accepted | rejected | recovered | stopNothing | stopped | escalated =>
    intro hs
    cases hs
  | ended _ _ _ _ hs | foundEnded _ _ _ _ hs =>
    exact fun hrec => absurd hrec (RemoteStatus.final?_ne_recovering hs)
  | lost => exact .of_ne rfl (by simp)
  | enterRecovery h r a m hm | search h r a m hm | giveUp h r a m hm =>
    exact .of_ne rfl (head?_of_unclear? hm)
  | noRun => exact .of_ne rfl (by simp [Container.noRun])
  | noSearch h i e => exact .of_ne rfl e.head?_message
  | attemptKnown e h => exact hattempt h.active
  | attemptUnknown e h => exact hattempt h.active
  | adopt h => exact fun _ => hc h

/-! ### Passages in which a container fails -/

namespace Passage

variable {policy : RetryPolicy} {p : Passage}

/-- Whether the container fails in a passage. -/
def Fails (p : Passage) : Prop := p.before.state ≠ .failed ∧ p.after.state = .failed

/-- What may make a container fail in a passage, as a text: the error of its submission, the
run that is reported as failed, why a caller gives it up, or the reason of its owner. -/
def cause? (p : Passage) : Option String :=
  match p.cause with
  | .trigger (.answer (.submit _) (.error e)) => some e.message
  | .trigger (.answer (.poll r) (.ok .failed)) => some (failedRun r)
  | .trigger (.operation (.weigh _)) => some (GuardedOperation.exhaustion p.before)
  | .verdict reason => some reason
  | _ => none

/-- Whether recovery finds the run failed in a passage. -/
def FoundFailed (p : Passage) : Prop :=
  p.before.state = .recovering ∧ ∃ r, p.cause = .trigger (.answer (.poll r) (.ok .failed))

lemma Fits.of_isTerminal (hp : p.Fits policy) (h : p.before.state.isTerminal = true) :
    p.after = p.before := by
  cases hp with
  | said hs =>
    obtain ⟨v, rfl, -⟩ := hs.of_isTerminal h
    rfl
  | verdict c reason =>
    rcases c.fail_cases reason with ⟨hsame, -⟩ | ⟨hbecome, -⟩
    · exact hsame
    · rw [ContainerState.canBecome_of_isTerminal h] at hbecome
      cases hbecome

lemma Fits.unaware (hp : p.Fits policy) (hsound : p.before.Sound) (h : p.before.Unaware) :
    p.after.Unaware := by
  cases hp with
  | said hs => exact hs.unaware hsound h
  | verdict c reason =>
    dsimp only at h ⊢
    rcases c.fail_cases reason with ⟨hsame, -⟩ | ⟨-, hfail, -⟩
    · rwa [hsame]
    · rw [hfail]
      exact fun hs => by cases hs

/-- A container that fails tells why, unless recovery finds the run failed. -/
lemma Fits.cause_of_fails (hp : p.Fits policy) (h : p.Fails) :
    p.FoundFailed ∨ ∃ cause, p.cause? = some cause ∧ p.after.lastError = some cause := by
  obtain ⟨hbefore, hafter⟩ := h
  cases hp with
  | verdict c reason =>
    rcases c.fail_cases reason with ⟨hsame, -⟩ | ⟨-, hfail, -⟩
    · rw [hsame] at hafter
      exact absurd hafter hbefore
    · exact .inr ⟨reason, rfl, by rw [hfail]⟩
  | said hs =>
    cases hs with
    | leave | showState | stillRunning | askStatus | sameRun | askStop | notStopped
      | notStoppable | rest | search | giveUp | adopt | noRun | noSearch =>
      exact absurd hafter hbefore
    | submit | accepted | lost | enterRecovery | attemptKnown | attemptUnknown | recovered
      | stopNothing | stopped => cases hafter
    | rejected h i e => exact .inr ⟨e.message, rfl, rfl⟩
    | escalated attempted => exact .inr ⟨_, rfl, rfl⟩
    | ended h r status s hs =>
      obtain rfl : s = .failed := hafter
      cases status <;> cases hs
      exact .inr ⟨failedRun r, rfl, rfl⟩
    | foundEnded h r status s hs =>
      obtain rfl : s = .failed := hafter
      cases status <;> cases hs
      exact .inl ⟨h, r, rfl⟩

/-- If recovery finds the run failed, the container fails, and it keeps its last error. -/
lemma Fits.of_foundFailed (hp : p.Fits policy) (h : p.FoundFailed) :
    p.Fails ∧ p.after.lastError = p.before.lastError ∧ ∃ r, p.cause? = some (failedRun r) := by
  obtain ⟨hrec, r, hr⟩ := h
  cases hp with
  | verdict => cases hr
  | said hs =>
    obtain rfl := PassageCause.trigger.inj hr
    refine ⟨⟨fun hf => ?_, ?_⟩, ?_, r, rfl⟩
    · rw [hrec] at hf
      cases hf
    · cases hs with
      | ended h => cases hrec.symm.trans h
      | enterRecovery h => cases hrec.symm.trans h
      | foundEnded h r status s hs =>
        cases hs
        rfl
      | search h r a m hm => cases hm
      | giveUp h r a m hm => cases hm
    · cases hs with
      | ended h => cases hrec.symm.trans h
      | enterRecovery h => cases hrec.symm.trans h
      | foundEnded => rfl
      | search h r a m hm => cases hm
      | giveUp h r a m hm => cases hm

end Passage

/-! ### Records of containers that failed -/

namespace Supervision

/-- Whether a container tells, if it failed, what made it fail in its record. -/
def Explained (record : List Passage) (k : Container) : Prop :=
  k.state = .failed →
    ∃ p ∈ record, p.Fails ∧ ∃ cause, p.cause? = some cause ∧ k.lastError = some cause

end Supervision

namespace Recorded

variable {policy : RetryPolicy} {first k : Container} {record : List Passage}

/-- No form that a container ever had in recovery told that a run failed. -/
lemma unaware (h : Recorded policy first record k) : ∀ p ∈ record, p.before.Unaware := by
  have hboth := h.invariant (P := fun k => k.Sound ∧ k.Unaware)
    (fun k hnew => ⟨.of_isNew hnew, .of_isNew hnew⟩)
    fun p hp hbefore => ⟨hp.sound hbefore.1, hp.unaware hbefore.1 hbefore.2⟩
  exact fun p hp => (hboth.2 p hp).2

/-- A container that failed did so in one passage, which left it as it is now. -/
lemma failing (h : Recorded policy first record k) :
    (k.state ≠ .failed ∧ ∀ p ∈ record, ¬ p.Fails) ∨
      k.state = .failed ∧ ∃ p ∈ record, p.Fails ∧ p.after = k ∧
        ∀ q ∈ record, q.Fails → q = p := by
  induction h with
  | start h =>
    refine .inl ⟨?_, fun p hp => by cases hp⟩
    obtain ⟨i, rfl | ⟨r, rfl⟩⟩ := h <;> exact fun hs => by cases hs
  | @passage record p h hp ih =>
    rcases ih with ⟨hnot, hnone⟩ | ⟨hfailed, q, hq, hfails, hlast, honly⟩
    · by_cases hafter : p.after.state = .failed
      · refine .inr ⟨hafter, p, by simp, ⟨hnot, hafter⟩, rfl, fun q hq hfails => ?_⟩
        rcases List.mem_append.1 hq with hq | hq
        · exact absurd hfails (hnone q hq)
        · exact List.mem_singleton.1 hq
      · refine .inl ⟨hafter, fun q hq hfails => ?_⟩
        rcases List.mem_append.1 hq with hq | hq
        · exact hnone q hq hfails
        · rw [List.mem_singleton.1 hq] at hfails
          exact hafter hfails.2
    -- nothing happens any longer to a container that failed
    · have hend : p.before.state.isTerminal = true := by
        rw [hfailed]
        rfl
      rw [hp.of_isTerminal hend]
      refine .inr ⟨hfailed, q, List.mem_append_left _ hq, hfails, hlast, fun q' hq' hfails' => ?_⟩
      rcases List.mem_append.1 hq' with hq' | hq'
      · exact honly q' hq' hfails'
      · rw [List.mem_singleton.1 hq'] at hfails'
        exact absurd hfailed hfails'.1

/-- A container tells what made it fail exactly if recovery did not find its run failed. -/
theorem explained_iff (h : Recorded policy first record k) :
    Explained record k ↔ ∀ p ∈ record, ¬ p.FoundFailed := by
  constructor
  · intro htells p hp hfound
    obtain ⟨hfails, hkept, r, hcause⟩ := (h.fits hp).of_foundFailed hfound
    rcases h.failing with ⟨-, hnone⟩ | ⟨hfailed, q, hq, -, rfl, honly⟩
    · exact hnone p hp hfails
    · obtain ⟨p', hp', hfails', cause, hcause', herror⟩ := htells hfailed
      -- the passage that is told about is the one in which recovery found the run failed
      cases honly p' hp' hfails'
      cases honly p hp hfails
      cases hcause.symm.trans hcause'
      exact h.unaware p hp hfound.1 r (hkept.symm.trans herror)
  · intro hfound hfailed
    rcases h.failing with ⟨hnot, -⟩ | ⟨-, p, hp, hfails, rfl, -⟩
    · exact absurd hfailed hnot
    · rcases (h.fits hp).cause_of_fails hfails with hp' | hcause
      · exact absurd hp' (hfound p hp)
      · exact ⟨p, hp, hfails, hcause⟩

end Recorded

namespace Supervision.World

variable {σ : Type}

/-- In every run, whatever the owners of containers did with them before, whatever tasks call on
them, and wherever an operation is dropped: a container that failed tells what made it fail
exactly if recovery did not find its run failed. -/
theorem explained_run_iff (rules : Rules) (cluster : Cluster σ) (state : σ)
    (bus : EventBus ContainerEvent) (owned : List Possession) (actions : List (Action σ))
    (c : CellId) :
    let w := holding state bus (owned.map (·.container))
    let record := recordOf owned (w.history rules cluster actions) c
    (∀ k, (w.play rules cluster actions).container? c = some k → Explained record k) ↔
      ∀ p ∈ record, ¬ p.FoundFailed := by
  intro w record
  cases hk : (w.play rules cluster actions).container? c with
  | none =>
    have hnil : record = [] := recordOf_eq_nil hk
    rw [hnil]
    refine iff_of_true ?_ ?_
    · intro k hk'
      cases hk'
    · intro p hp
      cases hp
  | some k =>
    obtain ⟨first, -, hrecorded⟩ := recorded_of_container? hk
    rw [← hrecorded.explained_iff]
    constructor
    · exact fun h => h k rfl
    · intro h k' hk'
      cases hk'
      exact h

/-- A cluster on which every run has failed. -/
def failing : Cluster Unit := .steady (fun identity => .ok ⟨identity.jobId.text⟩) .failed none

/-- A task recovers a restored container, and recovery finds the run failed: the container has
failed and tells nothing. -/
theorem not_explained_foundFailed :
    let owned : List Possession := [⟨.bare ⟨"a"⟩, some ⟨"r"⟩, []⟩]
    let w := holding () ⟨8, 0, [], [], 0⟩ (owned.map (·.container))
    let rules : Rules := ⟨.immediate 1, .standard⟩
    let actions : List (Action Unit) :=
      [.request (.call 0 .recover), .step 0, .step 0, .step 0, .step 0]
    ¬ ∀ k, (w.play rules failing actions).container? 0 = some k →
      Explained (recordOf owned (w.history rules failing actions) 0) k := by
  intro owned w rules actions h
  have hlast : (w.play rules failing actions).container? 0 =
      some ⟨.bare ⟨"a"⟩, .failed, some ⟨"r"⟩, none, 1⟩ := rfl
  obtain ⟨p, -, -, cause, -, herror⟩ := h _ hlast rfl
  cases herror

end Supervision.World

end JobSupervision
