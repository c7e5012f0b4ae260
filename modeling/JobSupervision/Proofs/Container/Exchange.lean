/-
# What is said under the lock

A task that has the lock of a container talks in dialogue steps: it begins an operation or hears an
answer, changes the container, and then asks the next question or lets the lock go.  This file
lists every dialogue step there can be (`Exchange`), one constructor for each, and shows that the
dialogue of every operation consists of such dialogue steps, whatever the answers are
(`GuardedOperation.always_hold`).  What later files say about containers is read off this list.
-/
import JobSupervision.Supervision.Run
import Mathlib.Tactic.Common

namespace JobSupervision

/-! ### The words of the list -/

/-- Whether an operation leaves the container as it is and shows it. -/
def GuardedOperation.Leaves (c : Container) : GuardedOperation → Prop
  | .run => c.state ≠ .created
  | .poll => c.state ≠ .running ∧ c.state ≠ .recovering
  | .stop => c.state.isTerminal = true
  | .status => True
  | .state => False
  | .weigh attempted => GuardedOperation.needed c attempted = false
  | .attempt attempted => GuardedOperation.needed c attempted = false

/-- Whether an operation starts a recovery attempt. -/
def GuardedOperation.Attempts (c : Container) : GuardedOperation → Prop
  | .poll => c.state = .recovering
  | .attempt attempted => GuardedOperation.needed c attempted = true
  | _ => False

/-- What is noted about a run when the answer to the question for its status is not clear. -/
def unclear? (runId : RunId) : Except ClusterError RemoteStatus → Option String
  | .ok .unknown => some (Container.unknownRun runId)
  | .error e => some e.message
  | _ => none

/-- The end of a container whose run has the status of an ended run. -/
def RemoteStatus.final? : RemoteStatus → Option ContainerState
  | .succeeded => some .succeeded
  | .failed => some .failed
  | .killed => some .killed
  | _ => none

/-- The change of state that an event tells. -/
def EventPayload.change? : EventPayload → Option (ContainerState × ContainerState)
  | .stateChanged before after _ => some (before, after)
  | _ => none

namespace Container

/-- The container when a recovery attempt has started. -/
def attempting (c : Container) : Container :=
  { c with state := .recovering, recoveryAttempts := RetryPolicy.nextAttempt c.recoveryAttempts }

/-- The events at the start of a recovery attempt. -/
def attemptEvents (c : Container) : List EventPayload :=
  (if c.state = .running then [.stateChanged .running .recovering c.runId] else []) ++
    [.recoveryAttempt (RetryPolicy.nextAttempt c.recoveryAttempts) c.runId]

/-- Whether the container is on its way through the cluster, well or in recovery. -/
def Active (c : Container) : Prop := c.state = .running ∨ c.state = .recovering

/-- The last error after a poll that found the run ended. -/
def endNote (c : Container) (runId : RunId) (status : RemoteStatus) : Option String :=
  if status = .failed then some (failedRun runId) else c.lastError

end Container

open Container GuardedOperation

/-- The steps of dialogue there can be: what comes before, what sets the task talking, and
the dialogue from there on. -/
inductive Exchange (policy : RetryPolicy) : Container → Trigger → Dialogue Turn → Prop where
  /-- The container is shown as it is. -/
  | leave (c : Container) (e : GuardedOperation) (h : e.Leaves c) :
      Exchange policy c (.operation e) (.done ⟨c, [], .reply (present c)⟩)
  /-- The state is shown. -/
  | showState (c : Container) :
      Exchange policy c (.operation .state) (.done ⟨c, [], .reply (.ok (.state c.state))⟩)
  /-- The job is submitted. -/
  | submit (c : Container) (h : c.state = .created) (next) :
      Exchange policy c (.operation .run)
        (.ask { c with state := .submitting } [.stateChanged .created .submitting c.runId]
          (.submit c.identity) next)
  /-- The job was accepted. -/
  | accepted (c : Container) (h : c.state = .submitting) (i : JobIdentity) (r : RunId)
      (hi : i = c.identity) :
      Exchange policy c (.answer (.submit i) (.ok r))
        (.done ⟨{ c with state := .running, runId := some r },
          [.submitted r, .stateChanged .submitting .running (some r)],
          .reply (present { c with state := .running, runId := some r })⟩)
  /-- The job was refused. -/
  | rejected (c : Container) (h : c.state = .submitting) (i : JobIdentity) (e : ContainerError)
      (hi : i = c.identity) :
      Exchange policy c (.answer (.submit i) (.error e))
        (.done ⟨{ c with state := .failed, lastError := some e.message },
          [.stateChanged .submitting .failed c.runId], .reply (.error e)⟩)
  /-- A running container is polled. -/
  | askStatus (c : Container) (h : c.state = .running) (r : RunId) (hr : c.runId = some r) (next) :
      Exchange policy c (.operation .poll) (.ask c [] (.poll r) next)
  /-- A running container without a run cannot be polled. -/
  | lost (c : Container) (h : c.state = .running) (hr : c.runId = none) :
      Exchange policy c (.operation .poll)
        (.done ⟨{ c with state := .recovering, lastError := some "no run id recorded" },
          [.stateChanged .running .recovering c.runId], .again 0 (.weigh true)⟩)
  /-- The run goes on. -/
  | stillRunning (c : Container) (h : c.state = .running) (r : RunId) :
      Exchange policy c (.answer (.poll r) (.ok .running)) (.done ⟨c, [], .reply (present c)⟩)
  /-- The run has ended. -/
  | ended (c : Container) (h : c.state = .running) (r : RunId) (status : RemoteStatus)
      (s : ContainerState) (hs : status.final? = some s) :
      Exchange policy c (.answer (.poll r) (.ok status))
        (.done ⟨{ c with state := s, lastError := c.endNote r status },
          [.stateChanged .running s c.runId],
          .reply (present { c with state := s, lastError := c.endNote r status })⟩)
  /-- It is not clear what became of the run. -/
  | enterRecovery (c : Container) (h : c.state = .running) (r : RunId)
      (a : Except ClusterError RemoteStatus) (m : String) (hm : unclear? r a = some m) :
      Exchange policy c (.answer (.poll r) a)
        (.done ⟨{ c with state := .recovering, lastError := some m },
          [.stateChanged .running .recovering c.runId], .again 0 (.weigh true)⟩)
  /-- A recovery attempt starts with the run that is known. -/
  | attemptKnown (c : Container) (e : GuardedOperation) (h : e.Attempts c) (r : RunId)
      (hr : c.runId = some r) (next) :
      Exchange policy c (.operation e) (.ask c.attempting c.attemptEvents (.poll r) next)
  /-- A recovery attempt starts without a run. -/
  | attemptUnknown (c : Container) (e : GuardedOperation) (h : e.Attempts c) (hr : c.runId = none)
      (next) :
      Exchange policy c (.operation e) (.ask c.attempting c.attemptEvents (.find c.identity) next)
  /-- The run was found well. -/
  | recovered (c : Container) (h : c.state = .recovering) (r : RunId) :
      Exchange policy c (.answer (.poll r) (.ok .running))
        (.done ⟨{ c with state := .running, lastError := none, recoveryAttempts := 0 },
          [.stateChanged .recovering .running c.runId],
          .reply (present { c with state := .running, lastError := none, recoveryAttempts := 0 })⟩)
  /-- The run was found ended. -/
  | foundEnded (c : Container) (h : c.state = .recovering) (r : RunId) (status : RemoteStatus)
      (s : ContainerState) (hs : status.final? = some s) :
      Exchange policy c (.answer (.poll r) (.ok status))
        (.done ⟨{ c with state := s }, [.stateChanged .recovering s c.runId],
          .reply (present { c with state := s })⟩)
  /-- The answer is not clear, and the cluster is asked for another run. -/
  | search (c : Container) (h : c.state = .recovering) (r : RunId)
      (a : Except ClusterError RemoteStatus) (m : String) (hm : unclear? r a = some m) (next) :
      Exchange policy c (.answer (.poll r) a)
        (.ask { c with lastError := some m } [] (.find c.identity) next)
  /-- The answer about the other run is not clear either. -/
  | giveUp (c : Container) (h : c.state = .recovering) (r : RunId)
      (a : Except ClusterError RemoteStatus) (m : String) (hm : unclear? r a = some m) :
      Exchange policy c (.answer (.poll r) a)
        (.done ⟨{ c with lastError := some m }, [], .again 0 (.weigh true)⟩)
  /-- The cluster names the run that is known already. -/
  | sameRun (c : Container) (h : c.state = .recovering) (i : JobIdentity) (r : RunId)
      (hr : c.runId = some r) (hi : i = c.identity) :
      Exchange policy c (.answer (.find i) (.ok (some r))) (.done ⟨c, [], .again 0 (.weigh true)⟩)
  /-- The cluster names another run. -/
  | adopt (c : Container) (h : c.state = .recovering) (i : JobIdentity) (r : RunId)
      (hr : c.runId ≠ some r) (hi : i = c.identity) (next) :
      Exchange policy c (.answer (.find i) (.ok (some r)))
        (.ask { c with runId := some r } [] (.poll r) next)
  /-- The cluster names no run. -/
  | noRun (c : Container) (h : c.state = .recovering) (i : JobIdentity) (hi : i = c.identity) :
      Exchange policy c (.answer (.find i) (.ok none))
        (.done ⟨{ c with lastError := some Container.noRun }, [], .again 0 (.weigh true)⟩)
  /-- The cluster cannot be asked for a run. -/
  | noSearch (c : Container) (h : c.state = .recovering) (i : JobIdentity) (e : ClusterError)
      (hi : i = c.identity) :
      Exchange policy c (.answer (.find i) (.error e))
        (.done ⟨{ c with lastError := some e.message }, [], .again 0 (.weigh true)⟩)
  /-- The run is to be stopped. -/
  | askStop (c : Container) (h : c.Active) (r : RunId) (hr : c.runId = some r) (next) :
      Exchange policy c (.operation .stop) (.ask c [] (.kill r) next)
  /-- There is no run to be stopped. -/
  | stopNothing (c : Container) (h : c.Active) (hr : c.runId = none) :
      Exchange policy c (.operation .stop)
        (.done ⟨{ c with state := .killed },
          [.stopped c.runId, .stateChanged c.state .killed c.runId],
          .reply (present { c with state := .killed })⟩)
  /-- The run was stopped. -/
  | stopped (c : Container) (h : c.Active) (r : RunId) :
      Exchange policy c (.answer (.kill r) (.ok ()))
        (.done ⟨{ c with state := .killed },
          [.stopped c.runId, .stateChanged c.state .killed c.runId],
          .reply (present { c with state := .killed })⟩)
  /-- The run was not stopped. -/
  | notStopped (c : Container) (h : c.Active) (r : RunId) (e : ClusterError) :
      Exchange policy c (.answer (.kill r) (.error e))
        (.done ⟨c, [], .reply (.error (.kill c.jobId r e.message))⟩)
  /-- A container that was not submitted cannot be stopped. -/
  | notStoppable (c : Container) (h : c.state = .created ∨ c.state = .submitting) :
      Exchange policy c (.operation .stop) (.done ⟨c, [], .reply (.error (c.invalid .killed))⟩)
  /-- No attempt is left, and the container is given up. -/
  | escalated (c : Container) (attempted : Bool) (h : needed c attempted = true)
      (hx : policy.exhausted c.recoveryAttempts = true) :
      Exchange policy c (.operation (.weigh attempted))
        (.done ⟨{ c with state := .failed, lastError := some (exhaustion c) },
          [.stateChanged c.state .failed c.runId],
          .reply (.error (.recoveryExhausted c.jobId c.runId c.recoveryAttempts))⟩)
  /-- An attempt is left, and the caller waits before it. -/
  | rest (c : Container) (attempted : Bool) (h : needed c attempted = true)
      (hx : policy.exhausted c.recoveryAttempts = false) :
      Exchange policy c (.operation (.weigh attempted))
        (.done ⟨c, [], .again (policy.backoffMs (RetryPolicy.nextAttempt c.recoveryAttempts))
          (.attempt attempted)⟩)

/-- Whether every step of a dialogue has a property, whatever the answers are. -/
def Dialogue.Always {α : Type} (P : Container → Trigger → Dialogue α → Prop) :
    Container → Trigger → Dialogue α → Prop
  | c, trigger, .done r => P c trigger (.done r)
  | c, trigger, .ask c' events q next =>
    P c trigger (.ask c' events q next) ∧ ∀ a, Always P c' (.answer q a) (next a)

lemma Dialogue.Always.head {α : Type} {P : Container → Trigger → Dialogue α → Prop}
    {c : Container}
    {trigger : Trigger} {d : Dialogue α} (h : d.Always P c trigger) : P c trigger d := by
  cases d with
  | done r => exact h
  | ask c' events q next => exact h.1

/-! ### Every operation consists of such dialogue steps -/

variable {policy : RetryPolicy}

lemma always_run (c : Container) :
    (c.run.map conclude).Always (Exchange policy) c (.operation .run) := by
  by_cases h : c.state = .created
  · obtain ⟨identity, state, runId, lastError, attempts⟩ := c
    subst h
    refine ⟨.submit _ rfl _, fun a => ?_⟩
    cases a with
    | ok r => exact .accepted _ rfl identity r rfl
    | error e => exact .rejected _ rfl identity e rfl
  · rw [run_of_ne_created h]
    exact .leave c .run h

lemma always_stop (c : Container) :
    (c.stop.map conclude).Always (Exchange policy) c (.operation .stop) := by
  obtain ⟨identity, state, runId, lastError, attempts⟩ := c
  cases state with
  | created => exact .notStoppable _ (.inl rfl)
  | submitting => exact .notStoppable _ (.inr rfl)
  | running =>
    cases runId with
    | none => exact .stopNothing _ (.inl rfl) rfl
    | some r =>
      refine ⟨.askStop _ (.inl rfl) r rfl _, fun a => ?_⟩
      cases a with
      | ok u => exact .stopped _ (.inl rfl) r
      | error e => exact .notStopped _ (.inl rfl) r e
  | recovering =>
    cases runId with
    | none => exact .stopNothing _ (.inr rfl) rfl
    | some r =>
      refine ⟨.askStop _ (.inr rfl) r rfl _, fun a => ?_⟩
      cases a with
      | ok u => exact .stopped _ (.inr rfl) r
      | error e => exact .notStopped _ (.inr rfl) r e
  | succeeded => exact .leave _ .stop rfl
  | failed => exact .leave _ .stop rfl
  | killed => exact .leave _ .stop rfl

/-- Taking a status during recovery: what is clear settles the container, and the rest is up to
what follows. -/
lemma always_settle (c : Container) (h : c.state = .recovering) (r : RunId)
    {goOn : Container → Operation} (a : Except ClusterError RemoteStatus)
    (hgo : ∀ m, unclear? r a = some m →
      ((goOn { c with lastError := some m }).map concludeOrRecover).Always (Exchange policy) c
        (.answer (.poll r) a)) :
    ((settle c r a goOn).map concludeOrRecover).Always (Exchange policy) c
      (.answer (.poll r) a) := by
  obtain ⟨identity, state, runId, lastError, attempts⟩ := c
  subst h
  rcases a with e | status
  · exact hgo _ rfl
  · cases status with
    | running => exact .recovered _ rfl r
    | succeeded => exact .foundEnded _ rfl r .succeeded _ rfl
    | failed => exact .foundEnded _ rfl r .failed _ rfl
    | killed => exact .foundEnded _ rfl r .killed _ rfl
    | unknown => exact hgo _ rfl

/-- Searching for a run, after whatever led to the search. -/
lemma always_search (c : Container) (h : c.state = .recovering) {before : Container}
    {trigger : Trigger} {events : List EventPayload}
    (hask : ∀ next, Exchange policy before trigger (.ask c events (.find c.identity) next)) :
    (((search c).prepend events).map concludeOrRecover).Always
      (Exchange policy) before trigger := by
  simp only [search, Dialogue.prepend, List.append_nil, Dialogue.map_ask]
  refine ⟨hask _, fun a => ?_⟩
  rcases a with e | _ | found
  · exact .noSearch c h c.identity e rfl
  · exact .noRun c h c.identity rfl
  · by_cases hr : c.runId = some found
    · simp only [hr, if_true]
      exact .sameRun c h c.identity found hr rfl
    · simp only [hr, if_false]
      refine ⟨.adopt c h c.identity found hr rfl _, fun a => ?_⟩
      exact always_settle { c with runId := some found } h found a fun m hm =>
        .giveUp { c with runId := some found } h found a m hm

/-- One recovery attempt on a container that has just entered recovery or is in it already. -/
lemma always_attempt (c : Container) {e : GuardedOperation} (he : e.Attempts c)
    {events : List EventPayload}
    (hev : c.attemptEvents =
      events ++ [.recoveryAttempt (RetryPolicy.nextAttempt c.recoveryAttempts) c.runId]) :
    (((Container.attempt { c with state := .recovering }).prepend events).map
      concludeOrRecover).Always (Exchange policy) c (.operation e) := by
  obtain ⟨identity, state, runId, lastError, attempts⟩ := c
  cases runId with
  | none =>
    simp only [Container.attempt, Dialogue.prepend_prepend]
    refine always_search (attempting ⟨identity, state, none, lastError, attempts⟩) rfl
      fun next => ?_
    have hask := @Exchange.attemptUnknown policy ⟨identity, state, none, lastError, attempts⟩ e he
      rfl next
    rw [hev] at hask
    exact hask
  | some r =>
    refine ⟨?_, fun a => ?_⟩
    · have hask := fun next => @Exchange.attemptKnown policy
        ⟨identity, state, some r, lastError, attempts⟩ e he r rfl next
      rw [hev] at hask
      exact hask _
    · have hsearch := @Exchange.search policy
        (attempting ⟨identity, state, some r, lastError, attempts⟩) rfl r a
      refine always_settle (attempting ⟨identity, state, some r, lastError, attempts⟩) rfl r a
        fun m hm => ?_
      rw [← Dialogue.prepend_nil (search _)]
      exact always_search _ rfl fun next => hsearch m hm next

lemma always_recover {c : Container} {e : GuardedOperation} (he : e.Attempts c) (h : c.Active) :
    (c.recover.map concludeOrRecover).Always (Exchange policy) c (.operation e) := by
  obtain ⟨identity, state, runId, lastError, attempts⟩ := c
  rcases h with h | h
  · subst h
    exact always_attempt _ he rfl
  · subst h
    rw [← Dialogue.prepend_nil (recover _)]
    exact always_attempt _ he rfl

lemma always_poll (c : Container) :
    (c.poll.map concludeOrRecover).Always (Exchange policy) c (.operation .poll) := by
  by_cases hrec : c.state = .recovering
  · have hpoll : c.poll = c.recover := by simp [Container.poll, hrec]
    rw [hpoll]
    exact always_recover hrec (.inr hrec)
  by_cases hrun : c.state = .running
  · obtain ⟨identity, state, runId, lastError, attempts⟩ := c
    subst hrun
    cases runId with
    | none => exact .lost _ rfl rfl
    | some r =>
      refine ⟨.askStatus _ rfl r rfl _, fun a => ?_⟩
      rcases a with e | status
      · exact .enterRecovery _ rfl r _ _ rfl
      · cases status with
        | running => exact .stillRunning _ rfl r
        | succeeded => exact .ended _ rfl r .succeeded _ rfl
        | failed => exact .ended _ rfl r .failed _ rfl
        | killed => exact .ended _ rfl r .killed _ rfl
        | unknown => exact .enterRecovery _ rfl r _ _ rfl
  · have hpoll : c.poll = stay c := by
      unfold Container.poll
      split <;> simp_all
    rw [hpoll]
    exact .leave c .poll ⟨hrun, hrec⟩

lemma GuardedOperation.active_of_needed {c : Container} {attempted : Bool}
    (h : needed c attempted = true) : c.Active := by
  unfold needed at h
  split at h
  · exact .inr ‹_›
  · exact .inl ‹_›
  · cases h

lemma always_weigh (c : Container) (attempted : Bool) :
    ((GuardedOperation.weigh attempted).hold policy c).Always (Exchange policy) c
      (.operation (.weigh attempted)) := by
  simp only [GuardedOperation.hold]
  by_cases hn : needed c attempted = true
  · rw [if_pos hn]
    by_cases hx : policy.exhausted c.recoveryAttempts = true
    · simp only [RetryPolicy.decide, hx, if_true]
      have hbecome : c.state.canBecome .failed = true := by
        rcases active_of_needed hn with h | h <;> rw [h] <;> rfl
      simp only [escalate, Container.fail, become_of_canBecome hbecome]
      exact .escalated c attempted hn hx
    · rw [Bool.not_eq_true] at hx
      simp only [RetryPolicy.decide, hx]
      exact .rest c attempted hn hx
  · rw [if_neg hn]
    exact .leave c _ (by simpa [GuardedOperation.Leaves] using hn)

/-- Every dialogue step of the dialogue of an operation is in the list. -/
theorem GuardedOperation.always_hold (c : Container) (e : GuardedOperation) :
    (e.hold policy c).Always (Exchange policy) c (.operation e) := by
  cases e with
  | run => exact always_run c
  | poll => exact always_poll c
  | stop => exact always_stop c
  | status => exact .leave c .status trivial
  | state => exact .showState c
  | weigh attempted => exact always_weigh c attempted
  | attempt attempted =>
    simp only [GuardedOperation.hold]
    by_cases hn : needed c attempted = true
    · rw [if_pos hn]
      exact always_recover hn (active_of_needed hn)
    · rw [if_neg hn]
      exact .leave c _ (by simpa [GuardedOperation.Leaves] using hn)

/-! ### What every dialogue step has in common -/

lemma GuardedOperation.Attempts.active {c : Container} {e : GuardedOperation} (h : e.Attempts c) :
    c.Active := by
  cases e with
  | poll => exact .inr h
  | attempt attempted => exact active_of_needed h
  | _ => exact h.elim

lemma Container.state_of_isTerminal {c : Container} (h : c.state.isTerminal = true) :
    ¬ c.Active ∧ c.state ≠ .created ∧ c.state ≠ .submitting := by
  refine ⟨?_, ?_, ?_⟩
  · rintro (hs | hs) <;> rw [hs] at h <;> cases h
  · intro hs
    rw [hs] at h
    cases h
  · intro hs
    rw [hs] at h
    cases h

lemma Container.Active.canBecome {c : Container} (h : c.Active) {s : ContainerState}
    (hs : s.isTerminal = true) : c.state.canBecome s = true := by
  rcases h with h | h <;> rw [h] <;> cases s <;> first | rfl | cases hs

/-- The change of state that the start of a recovery attempt tells. -/
lemma Container.Active.change_attemptEvents {c : Container} (h : c.Active) :
    c.attemptEvents.filterMap EventPayload.change? = [] ∧ .recovering = c.state ∨
      c.attemptEvents.filterMap EventPayload.change? = [(c.state, .recovering)] ∧
        c.state.canBecome .recovering = true := by
  rcases h with hs | hs
  · exact .inr (by simp [attemptEvents, hs, EventPayload.change?, ContainerState.canBecome])
  · exact .inl (by simp [attemptEvents, hs, EventPayload.change?])

lemma RemoteStatus.isTerminal_final {status : RemoteStatus} {s : ContainerState}
    (h : status.final? = some s) : s.isTerminal = true := by
  cases status <;> cases h <;> rfl

lemma RemoteStatus.final?_ne_recovering {status : RemoteStatus} {s : ContainerState}
    (h : status.final? = some s) : s ≠ .recovering := by
  rintro rfl
  cases isTerminal_final h

/-- A dialogue step tells the one change of state that it makes, and the state changes only as it
may. -/
lemma Exchange.change {c : Container} {trigger : Trigger} {d : Dialogue Turn}
    (h : Exchange policy c trigger d) :
    d.events.filterMap EventPayload.change? = [] ∧ d.container.state = c.state ∨
      d.events.filterMap EventPayload.change? = [(c.state, d.container.state)] ∧
        c.state.canBecome d.container.state = true := by
  cases h with
  | leave | showState | stillRunning | askStatus | sameRun | askStop | notStopped | notStoppable
    | rest | search | giveUp | adopt | noRun | noSearch => exact .inl ⟨rfl, rfl⟩
  | submit h | accepted h | rejected h | lost h | enterRecovery h | recovered h =>
    refine .inr ?_
    rw [h]
    exact ⟨rfl, rfl⟩
  | ended h r status s hs =>
    have hbecome := Active.canBecome (.inl h) (RemoteStatus.isTerminal_final hs)
    rw [h] at hbecome ⊢
    exact .inr ⟨rfl, hbecome⟩
  | foundEnded h r status s hs =>
    have hbecome := Active.canBecome (.inr h) (RemoteStatus.isTerminal_final hs)
    rw [h] at hbecome ⊢
    exact .inr ⟨rfl, hbecome⟩
  | attemptKnown e h => exact h.active.change_attemptEvents
  | attemptUnknown e h => exact h.active.change_attemptEvents
  | stopNothing h | stopped h => exact .inr ⟨rfl, h.canBecome rfl⟩
  | escalated attempted h => exact .inr ⟨rfl, (active_of_needed h).canBecome rfl⟩

/-- The state changes only as it may. -/
lemma Exchange.canBecome {c : Container} {trigger : Trigger} {d : Dialogue Turn}
    (h : Exchange policy c trigger d) :
    d.container.state = c.state ∨ c.state.canBecome d.container.state = true :=
  h.change.imp And.right And.right

lemma Exchange.identity {c : Container} {trigger : Trigger} {d : Dialogue Turn}
    (h : Exchange policy c trigger d) : d.container.identity = c.identity := by
  cases h <;> rfl

/-- A snapshot in a reply shows the container as it is left. -/
lemma Exchange.snapshot_eq {c c' : Container} {trigger : Trigger} {events : List EventPayload}
    {shown : Snapshot}
    (h : Exchange policy c trigger (.done ⟨c', events, .reply (.ok (.snapshot shown))⟩)) :
    shown = c'.snapshot := by
  cases h <;> rfl

/-! ### The end of a container -/

/-- A container that has ended, or its state, is shown as it is, and nothing else happens. -/
lemma Exchange.of_isTerminal {c : Container} {trigger : Trigger} {d : Dialogue Turn}
    (h : Exchange policy c trigger d) (hc : c.state.isTerminal = true) :
    ∃ v, d = .done ⟨c, [], .reply (.ok v)⟩ ∧
      (v = .snapshot c.snapshot ∨ trigger = .operation .state ∧ v = .state c.state) := by
  obtain ⟨hactive, hcreated, hsubmitting⟩ := Container.state_of_isTerminal hc
  cases h with
  | leave e hleaves => exact ⟨_, rfl, .inl rfl⟩
  | showState => exact ⟨_, rfl, .inr ⟨rfl, rfl⟩⟩
  | submit h => exact absurd h hcreated
  | accepted h | rejected h => exact absurd h hsubmitting
  | askStatus h | lost h | stillRunning h | ended h | enterRecovery h =>
    exact absurd (.inl h) hactive
  | recovered h | foundEnded h | search h | giveUp h | sameRun h | adopt h | noRun h
    | noSearch h => exact absurd (.inr h) hactive
  | attemptKnown e h | attemptUnknown e h => exact absurd h.active hactive
  | askStop h | stopNothing h | stopped h | notStopped h => exact absurd h hactive
  | notStoppable h => exact (h.elim hcreated hsubmitting).elim
  | escalated attempted h | rest attempted h => exact absurd (active_of_needed h) hactive

/-- Whoever brings a container to its end shows it, unless the container is given up or the job
was refused. -/
lemma Exchange.reply_of_end {c : Container} {trigger : Trigger} {d : Dialogue Turn}
    (h : Exchange policy c trigger d) (hbefore : c.state.isTerminal = false)
    (hafter : d.container.state.isTerminal = true) :
    ∃ events reply, d = .done ⟨d.container, events, .reply reply⟩ ∧
      (reply = present d.container ∨
        (∃ attempted, trigger = .operation (.weigh attempted)) ∧
          reply = .error (.recoveryExhausted c.jobId c.runId c.recoveryAttempts) ∨
        ∃ i e, trigger = .answer (.submit i) (.error e) ∧ reply = .error e) := by
  -- most dialogue steps leave the container in a state that is no end
  have hstays : d.container.state = c.state → d.container.state.isTerminal = false := fun hs =>
    hs ▸ hbefore
  have hopen : d.container.state.isTerminal = false →
      ∃ events reply, d = .done ⟨d.container, events, .reply reply⟩ ∧
        (reply = present d.container ∨
          (∃ attempted, trigger = .operation (.weigh attempted)) ∧
            reply = .error (.recoveryExhausted c.jobId c.runId c.recoveryAttempts) ∨
          ∃ i e, trigger = .answer (.submit i) (.error e) ∧ reply = .error e) := fun hs =>
    absurd hafter (by rw [hs]; decide)
  cases h with
  | leave | showState | stillRunning | askStatus | sameRun | askStop | notStopped | notStoppable
    | rest | search | giveUp | adopt | noRun | noSearch => exact hopen (hstays rfl)
  | submit | accepted | lost | enterRecovery | attemptKnown | attemptUnknown | recovered =>
    exact hopen rfl
  | ended | foundEnded | stopNothing | stopped => exact ⟨_, _, rfl, .inl rfl⟩
  | rejected h i e => exact ⟨_, _, rfl, .inr (.inr ⟨i, e, rfl, rfl⟩)⟩
  | escalated attempted => exact ⟨_, _, rfl, .inr (.inl ⟨⟨attempted, rfl⟩, rfl⟩)⟩

end JobSupervision
