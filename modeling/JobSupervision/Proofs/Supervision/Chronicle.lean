/-
# What containers publish

The events of a container, oldest first, tell its life: the changes of state form one chain,
recovery attempts are numbered without a gap, and what belongs together stands together
(`Faithful`).  What one passage publishes is of a few kinds (`PassageEvents`), and each of them
goes on with such a chronicle (`Faithful.append`), whoever works on the container and wherever an
operation is dropped.  A subscriber of the bus that a run publishes on hears all of it, unless the
bus tells it how much it missed (`World.heard_run`).
-/
import JobSupervision.Proofs.EventBus
import JobSupervision.Proofs.Supervision.Attempts

namespace JobSupervision

open Supervision Container

/-! ### Reading events -/

namespace EventPayload

def isSubmission : EventPayload → Bool
  | .submitted _ => true
  | _ => false

def isStop : EventPayload → Bool
  | .stopped _ => true
  | _ => false

/-- The state after an event that is told in a state. -/
def nextState (s : ContainerState) : EventPayload → ContainerState
  | .stateChanged _ after _ => after
  | _ => s

/-- The attempts since recovery was last entered from running, after one event more. -/
def nextCount (n : Nat) : EventPayload → Nat
  | .stateChanged .running .recovering _ => 0
  | .recoveryAttempt .. => n + 1
  | _ => n

/-- The number of the latest attempt since the container last came to run, after one event
more. -/
def nextNumber (n : UInt16) : EventPayload → UInt16
  | .stateChanged _ .running _ => 0
  | .recoveryAttempt m _ => m
  | _ => n

end EventPayload

open EventPayload

/-- The state that events tell which begin in a state. -/
def stateTold (first : ContainerState) (events : List EventPayload) : ContainerState :=
  events.foldl nextState first

/-- How many recovery attempts are told since recovery was last entered from running. -/
def attemptsTold (events : List EventPayload) : Nat := events.foldl nextCount 0

/-- The number of the latest recovery attempt that is told since the container last came to run,
or zero. -/
def numberTold (events : List EventPayload) : UInt16 := events.foldl nextNumber 0

/-- Whether the events of a container tell its life from its first form to what it is now. -/
structure Faithful (first : Container) (events : List EventPayload) (k : Container) : Prop where
  /-- The container begins as one that was created or restored. -/
  begins : IsNew first
  /-- The first change is from the first state, and every other one from where the one before
  led. -/
  chained : ∀ earlier a b i later, events = earlier ++ .stateChanged a b i :: later →
    a = stateTold first.state earlier
  /-- The last change leads to the state of the container. -/
  present : stateTold first.state events = k.state
  submittedOnce : events.countP (·.isSubmission) ≤ 1
  /-- A submission is told right between the two changes it belongs to. -/
  submitted : ∀ earlier r later, events = earlier ++ .submitted r :: later →
    (∃ before i, earlier = before ++ [.stateChanged .created .submitting i]) ∧
      ∃ rest, later = .stateChanged .submitting .running (some r) :: rest
  /-- No container comes from submitting to running without that being told. -/
  accepted : ∀ earlier i later, events = earlier ++ .stateChanged .submitting .running i :: later →
    ∃ before r, i = some r ∧ earlier = before ++ [.submitted r]
  /-- Attempts are told in recovery only, and numbered from one on, as far as sixteen bits go. -/
  attempt : ∀ earlier n i later, events = earlier ++ .recoveryAttempt n i :: later →
    stateTold first.state earlier = .recovering ∧ n.toNat = min (attemptsTold earlier + 1) 65535
  /-- The latest number is the counter of the container until that comes to run again. -/
  number : k.recoveryAttempts = numberTold events
  cleared : k.state = .running → k.recoveryAttempts = 0
  stoppedOnce : events.countP (·.isStop) ≤ 1
  /-- Right after a stop the container is killed. -/
  stopped : ∀ earlier i later, events = earlier ++ .stopped i :: later →
    later = [.stateChanged (stateTold first.state earlier) .killed i]
  /-- Nothing follows an end. -/
  ended : ∀ earlier a b i later, events = earlier ++ .stateChanged a b i :: later →
    b.isTerminal = true → later = []

/-- What the state of a container says about the events so far. -/
structure StateTells (events : List EventPayload) (k : Container) : Prop where
  /-- While a job is being submitted nothing was told since that began. -/
  submitting : k.state = .submitting →
    ∃ before i, events = before ++ [.stateChanged .created .submitting i]
  unsubmitted : k.state = .created ∨ k.state = .submitting → events.countP (·.isSubmission) = 0
  unstopped : k.state.isTerminal = false → events.countP (·.isStop) = 0
  counted : k.state = .recovering → k.recoveryAttempts.toNat = min (attemptsTold events) 65535

/-! ### The events of a passage -/

namespace ContainerState

variable {s : ContainerState}

lemma eq_created_of_canBecome (h : s.canBecome .submitting = true) : s = .created := by
  cases s <;> first | rfl | cases h

lemma eq_running_of_canBecome (h : s.canBecome .recovering = true) : s = .running := by
  cases s <;> first | rfl | cases h

lemma canBecome_created (s : ContainerState) : s.canBecome .created = false := by
  cases s <;> rfl

end ContainerState

/-- What a passage publishes when it takes a container from one form to another. -/
inductive PassageEvents (c c' : Container) : List EventPayload → Prop where
  | silent (hs : c'.state = c.state) (hn : c'.recoveryAttempts = c.recoveryAttempts) :
      PassageEvents c c' []
  | change {s s' : ContainerState} (i : Option RunId) (h : c.state = s) (h' : c'.state = s')
      (hbecome : s.canBecome s' = true) (hrun : s ≠ .submitting ∨ s' ≠ .running)
      (hn : c'.recoveryAttempts = if s' = .running then 0 else c.recoveryAttempts) :
      PassageEvents c c' [.stateChanged s s' i]
  | accepted (r : RunId) (h : c.state = .submitting) (h' : c'.state = .running)
      (hn : c'.recoveryAttempts = c.recoveryAttempts) :
      PassageEvents c c' [.submitted r, .stateChanged .submitting .running (some r)]
  | entering (i : Option RunId) (h : c.state = .running) (h' : c'.state = .recovering)
      (hn : c'.recoveryAttempts = RetryPolicy.nextAttempt c.recoveryAttempts) :
      PassageEvents c c'
        [.stateChanged .running .recovering i, .recoveryAttempt c'.recoveryAttempts i]
  | attempt (i : Option RunId) (h : c.state = .recovering) (h' : c'.state = .recovering)
      (hn : c'.recoveryAttempts = RetryPolicy.nextAttempt c.recoveryAttempts) :
      PassageEvents c c' [.recoveryAttempt c'.recoveryAttempts i]
  | stopped (i : Option RunId) (h : c.Active) (h' : c'.state = .killed)
      (hn : c'.recoveryAttempts = c.recoveryAttempts) :
      PassageEvents c c' [.stopped i, .stateChanged c.state .killed i]

variable {policy : RetryPolicy}

lemma PassageEvents.of_attempting (c : Container) (h : c.Active) :
    PassageEvents c c.attempting c.attemptEvents := by
  rcases h with h | h
  · have hevents : c.attemptEvents = [.stateChanged .running .recovering c.runId,
        .recoveryAttempt (RetryPolicy.nextAttempt c.recoveryAttempts) c.runId] := by
      simp [attemptEvents, h]
    rw [hevents]
    exact .entering c.runId h rfl rfl
  · have hevents : c.attemptEvents =
        [.recoveryAttempt (RetryPolicy.nextAttempt c.recoveryAttempts) c.runId] := by
      simp [attemptEvents, h]
    rw [hevents]
    exact .attempt c.runId h rfl rfl

/-- An active container comes to an end. -/
lemma PassageEvents.of_end {c c' : Container} {s s' : ContainerState} (i : Option RunId)
    (hc : c.Active) (h : c.state = s) (h' : c'.state = s') (hend : s'.isTerminal = true)
    (hn : c'.recoveryAttempts = c.recoveryAttempts) :
    PassageEvents c c' [.stateChanged s s' i] := by
  have hrun : s' ≠ .running := by
    rintro rfl
    cases hend
  have hbecome := hc.canBecome hend
  rw [h] at hbecome
  exact .change i h h' hbecome (.inr hrun) (by rw [if_neg hrun, hn])

lemma Exchange.passageEvents {c : Container} {trigger : Trigger} {d : Dialogue Turn}
    (h : Exchange policy c trigger d) : PassageEvents c d.container d.events := by
  cases h with
  | leave | showState | askStatus | stillRunning | search | giveUp | sameRun | adopt | noRun
    | noSearch | askStop | notStopped | notStoppable | rest => exact .silent rfl rfl
  | submit h | rejected h | lost h | enterRecovery h =>
    exact .change _ h rfl rfl (.inr nofun) rfl
  | recovered h => exact .change _ h rfl rfl (.inl nofun) rfl
  | accepted h i r => exact .accepted r h rfl rfl
  | ended h r status s hs => exact .of_end _ (.inl h) h rfl (RemoteStatus.isTerminal_final hs) rfl
  | foundEnded h r status s hs =>
    exact .of_end _ (.inr h) h rfl (RemoteStatus.isTerminal_final hs) rfl
  | attemptKnown e h | attemptUnknown e h => exact .of_attempting c h.active
  | stopNothing h | stopped h => exact .stopped _ h rfl rfl
  | escalated attempted h => exact .of_end _ (GuardedOperation.active_of_needed h) rfl rfl rfl rfl

lemma Passage.Fits.passageEvents {p : Passage} (hp : p.Fits policy) :
    PassageEvents p.before p.after p.events := by
  cases hp with
  | said h => exact h.passageEvents
  | verdict c reason =>
    rcases c.fail_cases reason with ⟨hsame, htold⟩ | ⟨hbecome, hfail, htold⟩
    · simp only [hsame, htold]
      exact .silent rfl rfl
    · simp only [hfail, htold]
      exact .change c.runId rfl rfl hbecome (.inr nofun) rfl

/-! ### Places of events -/

section Places

variable {α : Type} {events added earlier later : List α} {e x y : α}

/-- An event of a chronicle stands before the events that were added last or among them. -/
lemma place_append (h : events ++ added = earlier ++ e :: later) :
    (∃ rest, events = earlier ++ e :: rest ∧ later = rest ++ added) ∨
      ∃ front, earlier = events ++ front ∧ added = front ++ e :: later := by
  rcases List.append_eq_append_iff.1 h with ⟨front, rfl, hadded⟩ | ⟨rest, rfl, hlater⟩
  · exact .inr ⟨front, rfl, hadded⟩
  · cases rest with
    | nil => exact .inr ⟨[], by simp, by simpa using hlater.symm⟩
    | cons z rest =>
      obtain ⟨rfl, rfl⟩ := List.cons_eq_cons.1 hlater
      exact .inl ⟨rest, rfl, rfl⟩

lemma place_singleton (h : [x] = earlier ++ e :: later) : earlier = [] ∧ e = x ∧ later = [] := by
  cases earlier with
  | nil =>
    obtain ⟨rfl, rfl⟩ := List.cons_eq_cons.1 h
    exact ⟨rfl, rfl, rfl⟩
  | cons z front => simp at h

lemma place_pair (h : [x, y] = earlier ++ e :: later) :
    earlier = [] ∧ e = x ∧ later = [y] ∨ earlier = [x] ∧ e = y ∧ later = [] := by
  cases earlier with
  | nil =>
    obtain ⟨rfl, rfl⟩ := List.cons_eq_cons.1 h
    exact .inl ⟨rfl, rfl, rfl⟩
  | cons z front =>
    obtain ⟨rfl, hrest⟩ := List.cons_eq_cons.1 h
    obtain ⟨rfl, rfl, rfl⟩ := place_singleton hrest
    exact .inr ⟨rfl, rfl, rfl⟩

end Places

namespace PassageEvents

variable {c c' : Container} {added : List EventPayload}

lemma eq_nil_of_isTerminal (hv : PassageEvents c c' added) (hend : c.state.isTerminal = true) :
    added = [] := by
  cases hv with
  | silent => rfl
  | change i h h' hbecome =>
    rw [h] at hend
    rw [ContainerState.canBecome_of_isTerminal hend] at hbecome
    cases hbecome
  | accepted r h | entering i h | attempt i h =>
    rw [h] at hend
    cases hend
  | stopped i h => exact absurd h (state_of_isTerminal hend).1

lemma isTerminal_of_before (hv : PassageEvents c c' added) (hend : c.state.isTerminal = true) :
    c'.state.isTerminal = true := by
  obtain rfl := hv.eq_nil_of_isTerminal hend
  cases hv with
  | silent hs => rwa [hs]

lemma early_of_after (hv : PassageEvents c c' added)
    (h : c'.state = .created ∨ c'.state = .submitting) :
    c.state = .created ∨ c.state = .submitting := by
  cases hv with
  | silent hs => rwa [← hs]
  | change i hc hc' hbecome =>
    rw [hc'] at h
    rcases h with rfl | rfl
    · rw [ContainerState.canBecome_created] at hbecome
      cases hbecome
    · exact .inl (hc.trans (ContainerState.eq_created_of_canBecome hbecome))
  | accepted r _ h' | entering i _ h' | attempt i _ h' | stopped i _ h' => simp [h'] at h

lemma stateTold_eq (hv : PassageEvents c c' added) : stateTold c.state added = c'.state := by
  cases hv with
  | silent hs => exact hs.symm
  | change i h h' => exact h'.symm
  | accepted r h h' | entering i h h' | stopped i h h' => exact h'.symm
  | attempt i h h' => exact h.trans h'.symm

/-- What stands around an event among those of a passage that begins with a container. -/
def Placed (c : Container) (front later : List EventPayload) : EventPayload → Prop
  | .stateChanged a b i => a = stateTold c.state front ∧ (b.isTerminal = true → later = []) ∧
      (a = .submitting → b = .running → ∃ r, i = some r ∧ front = [.submitted r])
  | .submitted r => c.state = .submitting ∧ front = [] ∧
      later = [.stateChanged .submitting .running (some r)]
  | .recoveryAttempt n _ => n = RetryPolicy.nextAttempt c.recoveryAttempts ∧
      (c.state = .recovering ∧ front = [] ∨
        c.state = .running ∧ ∃ i, front = [.stateChanged .running .recovering i])
  | .stopped i => front = [] ∧ later = [.stateChanged c.state .killed i]

lemma placed (hv : PassageEvents c c' added) {front later : List EventPayload} {e : EventPayload}
    (h : added = front ++ e :: later) : Placed c front later e := by
  cases hv with
  | silent => simp at h
  | change i hc hc' hbecome hrun =>
    obtain ⟨rfl, rfl, rfl⟩ := place_singleton h
    refine ⟨hc.symm, fun _ => rfl, fun hs hs' => ?_⟩
    rcases hrun with hrun | hrun <;> contradiction
  | accepted r hc =>
    rcases place_pair h with ⟨rfl, rfl, rfl⟩ | ⟨rfl, rfl, rfl⟩
    · exact ⟨hc, rfl, rfl⟩
    · exact ⟨hc.symm, nofun, fun _ _ => ⟨r, rfl, rfl⟩⟩
  | entering i hc hc' hn =>
    rcases place_pair h with ⟨rfl, rfl, rfl⟩ | ⟨rfl, rfl, rfl⟩
    · exact ⟨hc.symm, nofun, nofun⟩
    · exact ⟨hn, .inr ⟨hc, i, rfl⟩⟩
  | attempt i hc hc' hn =>
    obtain ⟨rfl, rfl, rfl⟩ := place_singleton h
    exact ⟨hn, .inl ⟨hc, rfl⟩⟩
  | stopped i hc =>
    rcases place_pair h with ⟨rfl, rfl, rfl⟩ | ⟨rfl, rfl, rfl⟩
    · exact ⟨rfl, rfl⟩
    · exact ⟨rfl, fun _ => rfl, nofun⟩

/-- A submission is told when a job that was being submitted comes to run. -/
lemma countP_isSubmission (hv : PassageEvents c c' added) :
    added.countP (·.isSubmission) = 0 ∨
      c.state = .submitting ∧ c'.state = .running ∧ added.countP (·.isSubmission) = 1 := by
  cases hv with
  | accepted r h h' => exact .inr ⟨h, h', rfl⟩
  | _ => exact .inl rfl

lemma countP_isStop (hv : PassageEvents c c' added) :
    added.countP (·.isStop) = 0 ∨
      c.Active ∧ c'.state = .killed ∧ added.countP (·.isStop) = 1 := by
  cases hv with
  | stopped i h h' => exact .inr ⟨h, h', rfl⟩
  | _ => exact .inl rfl

/-- The counter of a container follows the numbers that are told. -/
lemma foldl_nextNumber (hv : PassageEvents c c' added) (hc : c.Sound) :
    added.foldl nextNumber c.recoveryAttempts = c'.recoveryAttempts := by
  cases hv with
  | silent hs hn => exact hn.symm
  | @change s s' i h h' hbecome hrun hn =>
    rw [hn]
    cases s' <;> rfl
  | accepted r h h' hn => exact ((hn.trans (hc.clear (.inr (.inl h))).2)).symm
  | entering i h h' hn | attempt i h h' hn => rfl
  | stopped i h h' hn => exact hn.symm

/-- The attempts that are told in a passage that ends in recovery. -/
lemma foldl_nextCount (hv : PassageEvents c c' added) (hc : c.Sound)
    (h' : c'.state = .recovering)
    {n : Nat} (hn : c.state = .recovering → c.recoveryAttempts.toNat = min n 65535) :
    c'.recoveryAttempts.toNat = min (added.foldl nextCount n) 65535 := by
  cases hv with
  | silent hs hsame =>
    rw [hsame]
    exact hn (hs.symm.trans h')
  | change i hc₀ hc' hbecome hrun hsame =>
    obtain rfl := hc'.symm.trans h'
    obtain rfl := ContainerState.eq_running_of_canBecome hbecome
    rw [hsame, if_neg nofun, (hc.clear (.inr (.inr hc₀))).2]
    rfl
  | accepted r _ hc' | stopped i _ hc' => cases h'.symm.trans hc'
  | entering i hc₀ _ hnext =>
    rw [hnext, RetryPolicy.toNat_nextAttempt, (hc.clear (.inr (.inr hc₀))).2]
    rfl
  | attempt i hc₀ _ hnext =>
    rw [hnext, RetryPolicy.toNat_nextAttempt, hn hc₀]
    simp only [List.foldl_cons, List.foldl_nil, nextCount]
    omega

end PassageEvents

/-! ### Chronicles -/

lemma stateTold_append (first : ContainerState) (events added : List EventPayload) :
    stateTold first (events ++ added) = stateTold (stateTold first events) added := by
  simp [stateTold]

lemma attemptsTold_append (events added : List EventPayload) :
    attemptsTold (events ++ added) = added.foldl nextCount (attemptsTold events) := by
  simp [attemptsTold]

lemma numberTold_append (events added : List EventPayload) :
    numberTold (events ++ added) = added.foldl nextNumber (numberTold events) := by
  simp [numberTold]

lemma StateTells.of_isNew {first : Container} (h : IsNew first) : StateTells [] first := by
  have hstate : first.state = .created ∨ first.state = .running := by
    obtain ⟨i, rfl | ⟨r, rfl⟩⟩ := h
    · exact .inl rfl
    · exact .inr rfl
  refine ⟨fun hs => ?_, fun _ => rfl, fun _ => rfl, fun hs => ?_⟩ <;> simp [hs] at hstate

lemma StateTells.append {c c' : Container} {events added : List EventPayload}
    (h : StateTells events c) (hc : c.Sound) (hv : PassageEvents c c' added) :
    StateTells (events ++ added) c' := by
  constructor
  case submitting =>
    intro hs
    cases hv with
    | silent hsame =>
      rw [List.append_nil]
      exact h.submitting (hsame.symm.trans hs)
    | change i hc hc' hbecome =>
      obtain rfl := hc'.symm.trans hs
      obtain rfl := ContainerState.eq_created_of_canBecome hbecome
      exact ⟨events, i, rfl⟩
    | accepted r _ h' | entering i _ h' | attempt i _ h' | stopped i _ h' => cases hs.symm.trans h'
  case unsubmitted =>
    intro hs
    rw [List.countP_append]
    rcases hv.countP_isSubmission with hnone | ⟨-, hrun, -⟩
    · rw [hnone, Nat.add_zero]
      exact h.unsubmitted (hv.early_of_after hs)
    · rw [hrun] at hs
      simp at hs
  case unstopped =>
    intro hs
    have hbefore : c.state.isTerminal = false := by
      refine Bool.eq_false_iff.2 fun hend => ?_
      rw [hv.isTerminal_of_before hend] at hs
      cases hs
    rw [List.countP_append]
    rcases hv.countP_isStop with hnone | ⟨-, hkilled, -⟩
    · rw [hnone, h.unstopped hbefore]
    · rw [hkilled] at hs
      cases hs
  case counted =>
    intro hs
    rw [attemptsTold_append]
    exact hv.foldl_nextCount hc hs h.counted

namespace Faithful

variable {first c c' : Container} {events added : List EventPayload}

lemma of_isNew (h : IsNew first) : Faithful first [] first where
  begins := h
  chained := by simp
  present := rfl
  submittedOnce := Nat.zero_le 1
  submitted := by simp
  accepted := by simp
  attempt := by simp
  number := by obtain ⟨i, rfl | ⟨r, rfl⟩⟩ := h <;> rfl
  cleared := fun hs => ((Sound.of_isNew h).clear (.inr (.inr hs))).2
  stoppedOnce := Nat.zero_le 1
  stopped := by simp
  ended := by simp

/-- A chronicle goes on with the events of a passage. -/
theorem append (h : Faithful first events c) (hl : StateTells events c) (hc : c.Sound)
    (hc' : c'.Sound) (hv : PassageEvents c c' added) : Faithful first (events ++ added) c' := by
  have htold : ∀ front, stateTold first.state (events ++ front) = stateTold c.state front := by
    intro front
    rw [stateTold_append, h.present]
  -- nothing is published after an end
  have hend : ∀ earlier a b i rest, events = earlier ++ .stateChanged a b i :: rest →
      b.isTerminal = true → rest = [] ∧ added = [] := by
    intro earlier a b i rest he hb
    obtain rfl := h.ended _ _ _ _ _ he hb
    have hstate : c.state = b := by
      rw [← h.present, he, stateTold_append]
      rfl
    exact ⟨rfl, hv.eq_nil_of_isTerminal (hstate ▸ hb)⟩
  constructor
  case begins => exact h.begins
  case chained =>
    intro earlier a b i later he
    rcases place_append he with ⟨rest, hevents, -⟩ | ⟨front, rfl, hadded⟩
    · exact h.chained _ _ _ _ _ hevents
    · rw [htold]
      exact (hv.placed hadded).1
  case present => rw [htold, hv.stateTold_eq]
  case submittedOnce =>
    rw [List.countP_append]
    rcases hv.countP_isSubmission with hnone | ⟨hs, -, hone⟩
    · rw [hnone, Nat.add_zero]
      exact h.submittedOnce
    · exact Nat.le_of_eq (by rw [hone, hl.unsubmitted (.inr hs)])
  case submitted =>
    intro earlier r later he
    rcases place_append he with ⟨rest, hevents, rfl⟩ | ⟨front, rfl, hadded⟩
    · obtain ⟨hbefore, rest', rfl⟩ := h.submitted _ _ _ hevents
      exact ⟨hbefore, rest' ++ added, rfl⟩
    · obtain ⟨hs, rfl, rfl⟩ := hv.placed hadded
      rw [List.append_nil]
      exact ⟨hl.submitting hs, [], rfl⟩
  case accepted =>
    intro earlier i later he
    rcases place_append he with ⟨rest, hevents, -⟩ | ⟨front, rfl, hadded⟩
    · exact h.accepted _ _ _ hevents
    · obtain ⟨r, rfl, rfl⟩ := (hv.placed hadded).2.2 rfl rfl
      exact ⟨events, r, rfl, rfl⟩
  case attempt =>
    intro earlier n i later he
    rcases place_append he with ⟨rest, hevents, -⟩ | ⟨front, rfl, hadded⟩
    · exact h.attempt _ _ _ _ hevents
    · obtain ⟨rfl, ⟨hs, rfl⟩ | ⟨hs, j, rfl⟩⟩ := hv.placed hadded
      · rw [List.append_nil, h.present, RetryPolicy.toNat_nextAttempt, hl.counted hs]
        exact ⟨hs, by omega⟩
      · have hzero : attemptsTold (events ++ [.stateChanged .running .recovering j]) = 0 := by
          simp [attemptsTold, nextCount]
        rw [htold, hzero, RetryPolicy.toNat_nextAttempt, (hc.clear (.inr (.inr hs))).2]
        exact ⟨rfl, rfl⟩
  case number => rw [numberTold_append, ← h.number, hv.foldl_nextNumber hc]
  case cleared => exact fun hs => (hc'.clear (.inr (.inr hs))).2
  case stoppedOnce =>
    rw [List.countP_append]
    rcases hv.countP_isStop with hnone | ⟨hs, -, hone⟩
    · rw [hnone, Nat.add_zero]
      exact h.stoppedOnce
    · have hopen : c.state.isTerminal = false := by rcases hs with hs | hs <;> rw [hs] <;> rfl
      exact Nat.le_of_eq (by rw [hone, hl.unstopped hopen])
  case stopped =>
    intro earlier i later he
    rcases place_append he with ⟨rest, hevents, rfl⟩ | ⟨front, rfl, hadded⟩
    · obtain rfl := h.stopped _ _ _ hevents
      have hnil := (hend (earlier ++ [.stopped i]) _ _ _ [] (by simpa using hevents) rfl).2
      rw [hnil, List.append_nil]
    · obtain ⟨rfl, rfl⟩ := hv.placed hadded
      rw [htold]
      rfl
  case ended =>
    intro earlier a b i later he hb
    rcases place_append he with ⟨rest, hevents, rfl⟩ | ⟨front, rfl, hadded⟩
    · obtain ⟨rfl, hnil⟩ := hend _ _ _ _ _ hevents hb
      exact hnil
    · exact (hv.placed hadded).2.1 hb

end Faithful

/-! ### Records and runs -/

/-- The events that are published in a record, oldest first. -/
def eventsIn (record : List Passage) : List EventPayload := record.flatMap (·.events)

/-- The events in the record of a container tell its life. -/
lemma Recorded.faithful {first k : Container} {record : List Passage}
    (h : Recorded policy first record k) :
    Faithful first (eventsIn record) k ∧ StateTells (eventsIn record) k := by
  induction h with
  | start h => exact ⟨.of_isNew h, .of_isNew h⟩
  | @passage record p h hp ih =>
    obtain ⟨hfaithful, htells⟩ := ih
    have hbefore := h.sound.1
    have hevents : eventsIn (record ++ [p]) = eventsIn record ++ p.events := by simp [eventsIn]
    rw [hevents]
    exact ⟨hfaithful.append htells hbefore (hp.sound hbefore) hp.passageEvents,
      htells.append hbefore hp.passageEvents⟩

namespace Supervision

/-- What a step of dialogue publishes. -/
def DialogueStep.published (s : DialogueStep) : List ContainerEvent :=
  s.dialogue.events.map (.of s.after.jobId)

namespace World

variable {σ : Type} {rules : Rules} {cluster : Cluster σ} {w w' : World σ}

@[simp] lemma bus_goOn (w : World σ) (t : TaskId) (a : Activity) :
    (w.goOn t a).bus = w.bus := rfl

@[simp] lemma bus_leave (w : World σ) (k : σ) (c : CellId) (cell : Cell)
    (events : List EventPayload) :
    (w.leave k c cell events).bus =
      w.bus.publishAll (events.map (.of cell.container.jobId)) := rfl

@[simp] lemma bus_book (w : World σ) (b : Bookkeeping) : (w.book b).bus = w.bus := by
  cases b with
  | keep | take | close | cancel | enter => rfl
  | supervise c j =>
    simp only [book, supervise]
    split <;> rfl
  | forget j =>
    cases hs : w.supervisors.lookup j with
    | none => rw [book_forget_of_none hs]
    | some s => rw [book_forget_of_some hs]; rfl
  | dismiss j =>
    cases hs : w.supervisors.lookup j with
    | none => rw [book_dismiss_of_none hs]
    | some s => rw [book_dismiss_of_some hs]; rfl

@[simp] lemma bus_drop (w : World σ) (t : TaskId) : (w.drop t).bus = w.bus := by
  obtain ⟨cells, hdrop, -⟩ := w.drop_eq t
  rw [hdrop]
  rfl

/-- The bus gets what is said, and nothing else. -/
lemma bus_change {a : Action σ} {s : Option DialogueStep} (h : Change rules cluster w a s w') :
    w'.bus = w.bus.publishAll (s.toList.flatMap DialogueStep.published) := by
  have hsaid : ∀ s' : DialogueStep, w'.bus = w.bus.publishAll s'.published → s = some s' →
      w'.bus = w.bus.publishAll (s.toList.flatMap DialogueStep.published) := by
    rintro s' hs' rfl
    rw [hs', Option.toList_some, List.flatMap_singleton]
  cases h with
  | nothing | moved | queued | requested | created | shared | cancelled | drifted => rfl
  | doomed t | dropped t => exact w.bus_drop t
  | begun t task ht hd request hact b => exact w.bus_book b
  | restored identity runId => rw [bus_book]; rfl
  | asked t task ht hd c stage p hact cell hc hr trigger c' events q next => exact hsaid _ rfl rfl
  | replied t task ht hd c stage p hact cell hc hr trigger c' events reply =>
    refine hsaid _ ?_ rfl
    rw [bus_goOn, bus_book, bus_leave, container_handOn]
    rfl
  | putOff t task ht hd c stage p hact cell hc hr trigger c' events delay e =>
    refine hsaid _ ?_ rfl
    rw [bus_goOn, bus_leave, container_handOn]
    rfl

lemma publishAll_append (bus : EventBus ContainerEvent) (first second : List ContainerEvent) :
    bus.publishAll (first ++ second) = (bus.publishAll first).publishAll second := by
  simp [EventBus.publishAll]

/-- In a run the bus gets what is said in it, in the order in which it is said. -/
theorem bus_play (rules : Rules) (cluster : Cluster σ) (w : World σ) (actions : List (Action σ)) :
    (w.play rules cluster actions).bus =
      w.bus.publishAll ((w.history rules cluster actions).flatMap DialogueStep.published) := by
  induction actions generalizing w with
  | nil => rfl
  | cons a rest ih =>
    have hfirst := bus_change (act_change rules cluster w a)
    calc (w.play rules cluster (a :: rest)).bus
        = ((w.act rules cluster a).play rules cluster rest).bus := rfl
      _ = (w.act rules cluster a).bus.publishAll
            (((w.act rules cluster a).history rules cluster rest).flatMap DialogueStep.published) :=
          ih _
      _ = _ := by rw [hfirst, ← publishAll_append, history, List.flatMap_append]

/-- A subscriber that asks after a run until nothing is left gets what was due to it before and what
is said in the run, but for the events that are gone. -/
lemma drain_play (rules : Rules) (cluster : Cluster σ) (actions : List (Action σ)) {id : Nat}
    {pending : List ContainerEvent} (h : w.bus.Reads id pending) :
    let drained := (w.play rules cluster actions).bus.drain id
    drained.1 = EventBus.allAnswers w.bus.retained
        (pending ++ (w.history rules cluster actions).flatMap DialogueStep.published) ∧
      drained.2.Reads id [] := by
  intro drained
  have hreads := h.publishAll ((w.history rules cluster actions).flatMap DialogueStep.published)
  have hkept := EventBus.retained_publishAll w.bus
    ((w.history rules cluster actions).flatMap DialogueStep.published)
  rw [← bus_play] at hreads hkept
  rw [← hkept]
  exact hreads.drain

/-- A subscriber that comes before a run, to a bus that may have been used, and asks after it until
nothing is left gets exactly what is said in the run: the events that tell the lives of the
containers, in their order, or how many of them are gone and then those that are kept. -/
theorem heard_run (rules : Rules) (cluster : Cluster σ) (state : σ) {capacity : Nat}
    {bus : EventBus ContainerEvent} (hbus : EventBus.create? capacity = some bus)
    (before : List (EventBus.Operation ContainerEvent)) (owned : List Possession)
    (actions : List (Action σ)) :
    let joined := (bus.play before).subscribe
    let w := holding state joined.2 (owned.map (·.container))
    ((w.play rules cluster actions).bus.drain joined.1).1 =
      EventBus.allAnswers bus.retained
        ((w.history rules cluster actions).flatMap DialogueStep.published) := by
  intro joined w
  have hreads : w.bus.Reads joined.1 [] :=
    EventBus.reads_subscribe (EventBus.holds_play (EventBus.holds_of_create? hbus) before)
  have hkept : w.bus.retained = bus.retained := EventBus.retained_play bus before
  rw [← hkept]
  exact (drain_play rules cluster actions hreads).1

/-- In every run, whatever the owners of containers did with them before, whatever tasks call on
them, and wherever an operation is dropped: the bus gets what is said, and the events of a
container tell its life.  With no actions at all this is about what an owner does alone. -/
theorem faithful_run (rules : Rules) (cluster : Cluster σ) (state : σ)
    (bus : EventBus ContainerEvent) (owned : List Possession) (actions : List (Action σ))
    (c : CellId) (k : Container)
    (hk : ((holding state bus (owned.map (·.container))).play rules cluster actions).container? c =
      some k) :
    let w := holding state bus (owned.map (·.container))
    let said := w.history rules cluster actions
    (w.play rules cluster actions).bus = bus.publishAll (said.flatMap DialogueStep.published) ∧
      ∃ first, origin? owned (w.newcomers rules cluster actions) c = some first ∧
        Faithful first (eventsIn (recordOf owned said c)) k := by
  intro w said
  obtain ⟨first, hfirst, hrecorded⟩ := recorded_of_container? hk
  exact ⟨bus_play rules cluster w actions, first, hfirst, hrecorded.faithful.1⟩

/-- A task polls a container in recovery and is dropped while the cluster is asked, and another
one stops the run. -/
theorem faithful_stoppedRecovery :
    let w := holding () ⟨8, 0, [], [], 0⟩ [halfRecovered.container]
    let rules : Rules := ⟨.standard, .standard⟩
    let actions : List (Action Unit) :=
      [.request (.call 0 .poll), .step 0, .step 0, .step 0, .drop 0,
        .request (.call 0 .stop), .step 1, .step 1, .step 1, .step 1]
    let said := w.history rules wandering actions
    let k : Container :=
      ⟨.bare ⟨"a"⟩, .killed, some ⟨"r"⟩, some "cluster reported run r as unknown", 2⟩
    (w.play rules wandering actions).container? 0 = some k ∧
      eventsIn (recordOf [halfRecovered] said 0) =
        [.stateChanged .running .recovering (some ⟨"r"⟩), .recoveryAttempt 1 (some ⟨"r"⟩),
          .recoveryAttempt 2 (some ⟨"r"⟩), .stopped (some ⟨"r"⟩),
          .stateChanged .recovering .killed (some ⟨"r"⟩)] ∧
      (w.play rules wandering actions).bus =
        EventBus.publishAll ⟨8, 0, [], [], 0⟩ (said.flatMap DialogueStep.published) ∧
      ∃ first, origin? [halfRecovered] (w.newcomers rules wandering actions) 0 = some first ∧
        Faithful first (eventsIn (recordOf [halfRecovered] said 0)) k :=
  ⟨rfl, rfl, faithful_run _ _ _ _ [halfRecovered] _ _ _ rfl⟩

end World

end Supervision

end JobSupervision
