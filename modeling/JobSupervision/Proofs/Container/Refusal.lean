/-
# Refused operations

An operation that a container refuses, because of its state or because the cluster did not stop
the run, leaves no trace: the container is as it was, nothing is published and nothing is
counted.  What an operation comes to is read off its dialogue, once for each operation
(`comesTo_run`, `comesTo_stop`, `comesTo_fail`, and `Inquires` for polling and recovering).  A
run that was stopped ends its container, and a container that has ended asks nothing any more,
so the actions of one owner stop at most one run.
-/
import JobSupervision.Proofs.Container.Exchange
import JobSupervision.Supervision.Account

namespace JobSupervision

open Container

variable {α σ : Type}

/-! ### What dialogues come to -/

namespace Dialogue

/-- What a dialogue comes to: the answers that were given, and the end with all events. -/
inductive ComesTo : Dialogue α → List Answered → Finished α → Prop
  /-- Nothing is asked. -/
  | done (r : Finished α) : ComesTo (.done r) [] r
  /-- A question is answered, and then others. -/
  | ask {c : Container} {events : List EventPayload} {q : Query} {next : q.Answer → Dialogue α}
    (a : q.Answer) {answers : List Answered} {r : Finished α} (h : ComesTo (next a) answers r) :
    ComesTo (.ask c events q next) (⟨q, a⟩ :: answers) { r with events := events ++ r.events }

/-- A dialogue held with a cluster comes to what the cluster answered. -/
lemma comesTo_hold (cluster : Cluster σ) (d : Dialogue α) (s : Setting (σ × List Answered)) :
    ∃ answers, d.ComesTo answers (d.hold cluster.minding s).1 ∧
      (d.hold cluster.minding s).2.cluster.2 = s.cluster.2 ++ answers := by
  induction d generalizing s with
  | done r => exact ⟨[], .done r, (List.append_nil _).symm⟩
  | ask c events q next ih =>
    let a := (cluster.answer (cluster.ask s.cluster.1 q).1 q).2
    obtain ⟨answers, hcomes, hkept⟩ := ih a
      ⟨(cluster.minding.answer (cluster.minding.ask s.cluster q).1 q).1,
        s.clock + (cluster.ask s.cluster.1 q).2⟩
    refine ⟨⟨q, a⟩ :: answers, .ask a hcomes, hkept.trans ?_⟩
    simp [Cluster.minding, a]

variable {c : Container} {events : List EventPayload} {answers : List Answered} {r : Finished α}

lemma ComesTo.of_done {r' : Finished α} (h : (Dialogue.done r').ComesTo answers r) :
    answers = [] ∧ r = r' := by
  cases h with
  | done => exact ⟨rfl, rfl⟩

lemma ComesTo.of_ask {q : Query} {next : q.Answer → Dialogue α}
    (h : (Dialogue.ask c events q next).ComesTo answers r) :
    ∃ a rest r', answers = ⟨q, a⟩ :: rest ∧ (next a).ComesTo rest r' ∧
      r = { r' with events := events ++ r'.events } := by
  cases h with
  | ask a h => exact ⟨a, _, _, rfl, h, rfl⟩

end Dialogue

/-! ### Each operation -/

section Operations

variable {c : Container} {answers : List Answered}
  {r : Finished (Except ContainerError ContainerState)}

/-- What submitting the job comes to. -/
theorem comesTo_run (h : c.run.ComesTo answers r) :
    (c.state ≠ .created ∧ answers = [] ∧ r = ⟨c, [], .ok c.state⟩) ∨
      (∃ runId, c.state = .created ∧ answers = [⟨.submit c.identity, .ok runId⟩] ∧
        r = ⟨{ c with state := .running, runId := some runId },
          [.stateChanged .created .submitting c.runId, .submitted runId,
            .stateChanged .submitting .running (some runId)], .ok .running⟩) ∨
      ∃ e, c.state = .created ∧ answers = [⟨.submit c.identity, .error e⟩] ∧
        r = ⟨{ c with state := .failed, lastError := some e.message },
          [.stateChanged .created .submitting c.runId, .stateChanged .submitting .failed c.runId],
          .error e⟩ := by
  by_cases hc : c.state = .created
  · refine .inr ?_
    obtain ⟨identity, state, runId, lastError, attempts⟩ := c
    subst hc
    obtain ⟨a, rest, r', rfl, hnext, rfl⟩ := Dialogue.ComesTo.of_ask h
    cases a with
    | ok runId =>
      obtain ⟨rfl, rfl⟩ := hnext.of_done
      exact .inl ⟨runId, rfl, rfl, rfl⟩
    | error e =>
      obtain ⟨rfl, rfl⟩ := hnext.of_done
      exact .inr ⟨e, rfl, rfl, rfl⟩
  · rw [run_of_ne_created hc] at h
    obtain ⟨rfl, rfl⟩ := h.of_done
    exact .inl ⟨hc, rfl, rfl⟩

/-- What stopping the run comes to. -/
inductive Stops (c : Container) :
    List Answered → Finished (Except ContainerError ContainerState) → Prop where
  /-- The container has ended. -/
  | ended (h : c.state.isTerminal = true) : Stops c [] ⟨c, [], .ok c.state⟩
  /-- The container has not run yet. -/
  | early (h : c.state = .created ∨ c.state = .submitting) :
      Stops c [] ⟨c, [], .error (c.invalid .killed)⟩
  /-- There is no run to be stopped. -/
  | nothing (h : c.Active) (hr : c.runId = none) :
      Stops c [] ⟨{ c with state := .killed },
        [.stopped c.runId, .stateChanged c.state .killed c.runId], .ok .killed⟩
  /-- The run was stopped. -/
  | stopped (h : c.Active) (runId : RunId) (hr : c.runId = some runId) :
      Stops c [⟨.kill runId, .ok ()⟩] ⟨{ c with state := .killed },
        [.stopped c.runId, .stateChanged c.state .killed c.runId], .ok .killed⟩
  /-- The run was not stopped. -/
  | refused (h : c.Active) (runId : RunId) (hr : c.runId = some runId) (e : ClusterError) :
      Stops c [⟨.kill runId, .error e⟩] ⟨c, [], .error (.kill c.jobId runId e.message)⟩

lemma stop_of_runId_eq_none (hc : c.Active) (hr : c.runId = none) : c.stop = endStopped c := by
  obtain ⟨identity, state, runId, lastError, attempts⟩ := c
  cases hr
  rcases hc with hs | hs <;> cases hs <;> rfl

lemma stop_of_runId_eq_some (hc : c.Active) {runId : RunId} (hr : c.runId = some runId) :
    ∃ next, c.stop = .ask c [] (.kill runId) next ∧ next (.ok ()) = endStopped c ∧
      ∀ e, next (.error e) = .done ⟨c, [], .error (.kill c.jobId runId e.message)⟩ := by
  obtain ⟨identity, state, runId, lastError, attempts⟩ := c
  cases hr
  rcases hc with hs | hs <;> cases hs <;> exact ⟨_, rfl, rfl, fun _ => rfl⟩

lemma stops_of_active (hc : c.Active) (h : c.stop.ComesTo answers r) : Stops c answers r := by
  have hbecome : c.state.canBecome .killed = true := hc.canBecome rfl
  cases hr : c.runId with
  | none =>
    rw [stop_of_runId_eq_none hc hr, endStopped, become_of_canBecome hbecome] at h
    obtain ⟨rfl, rfl⟩ := h.of_done
    exact .nothing hc hr
  | some runId =>
    obtain ⟨next, hstop, hok, herror⟩ := stop_of_runId_eq_some hc hr
    rw [hstop] at h
    obtain ⟨a, rest, r', rfl, hnext, rfl⟩ := h.of_ask
    cases a with
    | ok u =>
      rw [hok, endStopped, become_of_canBecome hbecome] at hnext
      obtain ⟨rfl, rfl⟩ := hnext.of_done
      exact .stopped hc runId hr
    | error e =>
      rw [herror] at hnext
      obtain ⟨rfl, rfl⟩ := hnext.of_done
      exact .refused hc runId hr e

lemma stops (h : c.stop.ComesTo answers r) : Stops c answers r := by
  cases hs : c.state with
  | running => exact stops_of_active (.inl hs) h
  | recovering => exact stops_of_active (.inr hs) h
  | created | submitting =>
    have hstop : c.stop = .done ⟨c, [], .error (c.invalid .killed)⟩ := by
      simp [Container.stop, hs, ContainerState.isTerminal]
    rw [hstop] at h
    obtain ⟨rfl, rfl⟩ := h.of_done
    exact .early (by simp [hs])
  | succeeded | failed | killed =>
    have hend : c.state.isTerminal = true := by rw [hs]; rfl
    rw [stop_of_isTerminal hend] at h
    obtain ⟨rfl, rfl⟩ := h.of_done
    exact .ended hend

/-- Giving the job up is refused without a trace, or it ends the container. -/
lemma fail_eq_or (c : Container) (reason : String) :
    c.fail reason = ⟨c, [], .error (c.invalid .failed)⟩ ∨
      c.state.canBecome .failed = true ∧
        c.fail reason = ⟨{ c with state := .failed, lastError := some reason },
          [.stateChanged c.state .failed c.runId], .ok .failed⟩ := by
  by_cases h : c.state.canBecome .failed = true
  · exact .inr ⟨h, by simp [Container.fail, become_of_canBecome h]⟩
  · rw [Bool.not_eq_true] at h
    exact .inl (by simp [Container.fail, become_of_not_canBecome h])

/-- An operation that asks for nothing but the status of runs and the run of the job, whose
errors are inconclusive queries, and which leaves a container that was submitted. -/
inductive Inquires : Operation → Prop where
  /-- The operation has ended. -/
  | done (r : Finished (Except ContainerError ContainerState))
    (hresult : ∀ e, r.result = .error e → e.isTransient = true)
    (hstate : r.container.state ≠ .created ∧ r.container.state ≠ .submitting) : Inquires (.done r)
  /-- A status is asked for. -/
  | poll {c : Container} {events : List EventPayload} {runId : RunId}
    {next : (Query.poll runId).Answer → Operation} (h : ∀ a, Inquires (next a)) :
    Inquires (.ask c events (.poll runId) next)
  /-- A run is asked for. -/
  | find {c : Container} {events : List EventPayload} {identity : JobIdentity}
    {next : (Query.find identity).Answer → Operation} (h : ∀ a, Inquires (next a)) :
    Inquires (.ask c events (.find identity) next)

lemma Inquires.prepend {d : Operation} (h : Inquires d) (events : List EventPayload) :
    Inquires (d.prepend events) := by
  cases h with
  | done r hresult hstate => exact .done _ hresult hstate
  | poll h => exact .poll h
  | find h => exact .find h

/-- Such an operation stops no run, whatever the answers are. -/
lemma Inquires.of_comesTo {d : Operation} (hd : Inquires d) (h : d.ComesTo answers r) :
    answers.filterMap Answered.stopped? = [] ∧
      (∀ e, r.result = .error e → e.isTransient = true) ∧
      r.container.state ≠ .created ∧ r.container.state ≠ .submitting := by
  induction h with
  | done r =>
    cases hd with
    | done _ hresult hstate => exact ⟨rfl, hresult, hstate⟩
  | ask a h ih =>
    cases hd with
    | poll hnext => exact ih (hnext a)
    | find hnext => exact ih (hnext a)

lemma inquires_become {s : ContainerState} (h : c.state.canBecome s = true)
    (hs : s ≠ .created ∧ s ≠ .submitting) : Inquires (.done (c.become s)) := by
  rw [become_of_canBecome h]
  exact .done _ (fun e he => by cases he) hs

lemma inquires_end (hc : c.Active) {s : ContainerState} (hs : s.isTerminal = true) :
    Inquires (.done (c.become s)) :=
  inquires_become (hc.canBecome hs) (state_of_isTerminal (c := { c with state := s }) hs).2

lemma inquires_giveUpAttempt (h : c.state = .recovering) : Inquires (giveUpAttempt c) :=
  .done _ (fun e he => by cases he; rfl) (by simp [h])

lemma inquires_settle {goOn : Container → Operation} (h : c.state = .recovering)
    (hgo : ∀ c', c'.state = .recovering → Inquires (goOn c')) (runId : RunId)
    (a : Except ClusterError RemoteStatus) : Inquires (settle c runId a goOn) := by
  rcases a with e | status
  · exact hgo _ h
  · cases status with
    | running =>
      have hbecome : c.state.canBecome .running = true := by rw [h]; rfl
      exact inquires_become (c := { c with recoveryAttempts := 0, lastError := none }) hbecome
        (by decide)
    | succeeded | failed | killed => exact inquires_end (.inr h) rfl
    | unknown => exact hgo _ h

lemma inquires_search (h : c.state = .recovering) : Inquires (search c) := by
  refine .find fun a => ?_
  rcases a with e | _ | found
  · exact inquires_giveUpAttempt h
  · exact inquires_giveUpAttempt h
  · dsimp only
    split
    · exact inquires_giveUpAttempt h
    · refine .poll fun a => ?_
      exact inquires_settle (c := { c with runId := some found }) h
        (fun _ => inquires_giveUpAttempt) found a

lemma inquires_attempt (h : c.state = .recovering) : Inquires (attempt c) := by
  let started := { c with recoveryAttempts := RetryPolicy.nextAttempt c.recoveryAttempts }
  unfold attempt
  dsimp only
  split
  · refine .poll fun a => ?_
    exact inquires_settle (c := started) h (fun _ => inquires_search) _ a
  · exact (inquires_search (c := started) h).prepend _

lemma inquires_recover (hc : c.Active) : Inquires c.recover := by
  unfold recover
  rcases hc with h | h <;> rw [h] <;> dsimp only
  · refine (inquires_attempt ?_).prepend _
    rw [become_of_canBecome (by rw [h]; rfl)]
  · exact inquires_attempt h

lemma inquires_enterRecovering (h : c.state = .running) (reason : String) :
    Inquires (enterRecovering c reason) := by
  have hbecome : c.state.canBecome .recovering = true := by rw [h]; rfl
  unfold enterRecovering
  rw [become_of_canBecome (c := { c with lastError := some reason }) hbecome]
  exact .done _ (fun e he => by cases he; rfl) ⟨nofun, nofun⟩

lemma inquires_poll_of_running (h : c.state = .running) : Inquires c.poll := by
  obtain ⟨identity, state, runId, lastError, attempts⟩ := c
  subst h
  cases runId with
  | none => exact inquires_enterRecovering (c := ⟨identity, .running, none, _, _⟩) rfl _
  | some runId =>
    have hlost := inquires_enterRecovering
      (c := ⟨identity, .running, some runId, lastError, attempts⟩) rfl
    refine .poll fun a => ?_
    rcases a with e | status
    · exact hlost _
    · cases status with
      | running => exact .done _ (fun e he => by cases he) ⟨nofun, nofun⟩
      | succeeded | failed | killed => exact inquires_end (.inl rfl) rfl
      | unknown => exact hlost _

lemma inquires_poll (hc : c.Active) : Inquires c.poll := by
  rcases hc with h | h
  · exact inquires_poll_of_running h
  · have hpoll : c.poll = c.recover := by simp [Container.poll, h]
    rw [hpoll]
    exact inquires_recover (.inr h)

/-- Polling and recovering leave a container that is not active as it is. -/
lemma stays_or_inquires (c : Container) {action : OwnerAction}
    (hd : action = .poll ∨ action = .recover) :
    action.operation c = stay c ∨ Inquires (action.operation c) := by
  by_cases hc : c.Active
  · rcases hd with rfl | rfl
    · exact .inr (inquires_poll hc)
    · exact .inr (inquires_recover hc)
  · refine .inl ?_
    have hrunning : c.state ≠ .running := fun h => hc (.inl h)
    have hrecovering : c.state ≠ .recovering := fun h => hc (.inr h)
    rcases hd with rfl | rfl
    · unfold OwnerAction.operation Container.poll
      cases hs : c.state <;> first | rfl | exact absurd hs hrunning | exact absurd hs hrecovering
    · unfold OwnerAction.operation recover
      cases hs : c.state <;> first | rfl | exact absurd hs hrunning | exact absurd hs hrecovering

end Operations

/-! ### Actions -/

namespace Account

/-- An account tells what the operation came to. -/
def Holds (a : Account) : Prop := (a.action.operation a.before).ComesTo a.answers a.finished

/-- Whether the result is that the state does not allow a change. -/
def IsRefused (a : Account) : Prop :=
  ∃ job current next, a.result = .error (.invalidTransition job current next)

/-- Whether the result is the error that the submission of the job was answered with. -/
def HandsOn (a : Account) : Prop :=
  a.action = .run ∧
    ∃ e, a.answers = [⟨.submit a.before.identity, .error e⟩] ∧ a.result = .error e

/-- Whether an action left no trace. -/
structure Traceless (a : Account) : Prop where
  /-- The container is as it was, and so is what it shows of itself. -/
  same : a.after = a.before
  /-- Nothing was published. -/
  silent : a.events = []
  /-- Nothing was counted. -/
  uncounted : ∀ m, a.count m = m

variable {a : Account}

lemma traceless (hfinished : ∃ result, a.finished = ⟨a.before, [], result⟩) : a.Traceless := by
  obtain ⟨result, h⟩ := hfinished
  have hevents : a.events = [] := by rw [events, h]
  exact ⟨by rw [after, h], hevents, fun m => by rw [count, hevents]; rfl⟩

lemma Holds.of_isTerminal (h : a.Holds) (hend : a.before.state.isTerminal = true) :
    a.answers = [] ∧ a.after = a.before := by
  obtain ⟨before, action, answers, finished⟩ := a
  have hstay : ∀ {answers finished}, before.stay.ComesTo answers finished →
      answers = [] ∧ finished.container = before := by
    intro answers finished h
    obtain ⟨rfl, rfl⟩ := h.of_done
    exact ⟨rfl, rfl⟩
  dsimp only [Holds] at h hend
  cases action with
  | run =>
    refine hstay ?_
    rwa [OwnerAction.operation, run_of_ne_created (state_of_isTerminal hend).2.1] at h
  | poll =>
    refine hstay ?_
    rwa [OwnerAction.operation, poll_of_isTerminal hend] at h
  | recover =>
    refine hstay ?_
    rwa [OwnerAction.operation, recover_of_isTerminal hend] at h
  | stop =>
    refine hstay ?_
    rwa [OwnerAction.operation, stop_of_isTerminal hend] at h
  | fail reason =>
    obtain ⟨rfl, rfl⟩ := h.of_done
    refine ⟨rfl, ?_⟩
    rw [after, Container.fail,
      become_of_not_canBecome (ContainerState.canBecome_of_isTerminal hend)]

/-- Polling and recovering stop no run, and their errors are inconclusive queries. -/
lemma Holds.inquires (h : a.Holds) (haction : a.action = .poll ∨ a.action = .recover) :
    a.answers.filterMap Answered.stopped? = [] ∧
      (∀ e, a.result = .error e → e.isTransient = true) ∧
      (a.before.state ≠ .submitting → a.after.state ≠ .submitting) := by
  rcases stays_or_inquires a.before haction with hd | hd
  · rw [Holds, hd] at h
    obtain ⟨hanswers, hfinished⟩ := h.of_done
    refine ⟨by rw [hanswers]; rfl, fun e he => ?_, fun hbefore => by rwa [after, hfinished]⟩
    rw [result, hfinished] at he
    cases he
  · obtain ⟨hanswers, hresult, -, hstate⟩ := hd.of_comesTo h
    exact ⟨hanswers, hresult, fun _ => hstate⟩

/-- An action stops no run, or it is a stop, which stops the run that is recorded and ends the
container. -/
lemma Holds.stopped (h : a.Holds) :
    a.answers.filterMap Answered.stopped? = [] ∨
      ∃ r, a.answers.filterMap Answered.stopped? = [r] ∧ a.action = .stop ∧
        a.before.runId = some r ∧ a.after = { a.before with state := .killed } := by
  have hinquires := fun haction => (h.inquires haction).1
  obtain ⟨before, action, answers, finished⟩ := a
  dsimp only [Holds] at h hinquires
  cases action with
  | run =>
    rcases comesTo_run h with ⟨-, rfl, -⟩ | ⟨runId, -, rfl, -⟩ | ⟨e, -, rfl, -⟩
    · exact .inl rfl
    · exact .inl rfl
    · exact .inl rfl
  | poll => exact .inl (hinquires (.inl rfl))
  | recover => exact .inl (hinquires (.inr rfl))
  | stop =>
    cases stops h with
    | ended | early | nothing | refused => exact .inl rfl
    | stopped hc r hr => exact .inr ⟨r, rfl, rfl, hr, rfl⟩
  | fail reason => exact .inl (by rw [h.of_done.1]; rfl)

/-- No action that is carried out to its end leaves the container while it is submitted. -/
lemma Holds.state_ne_submitting (h : a.Holds) (hbefore : a.before.state ≠ .submitting) :
    a.after.state ≠ .submitting := by
  have hinquires := fun haction => (h.inquires haction).2.2 hbefore
  obtain ⟨before, action, answers, finished⟩ := a
  dsimp only [Holds, after] at h hbefore hinquires ⊢
  cases action with
  | run =>
    rcases comesTo_run h with ⟨-, -, rfl⟩ | ⟨runId, -, -, rfl⟩ | ⟨e, -, -, rfl⟩
    · exact hbefore
    · exact nofun
    · exact nofun
  | poll => exact hinquires (.inl rfl)
  | recover => exact hinquires (.inr rfl)
  | stop =>
    cases stops h with
    | ended | early | refused => exact hbefore
    | nothing | stopped => exact nofun
  | fail reason =>
    rw [h.of_done.2]
    rcases fail_eq_or before reason with hfail | ⟨-, hfail⟩ <;> rw [hfail]
    · exact hbefore
    · exact nofun

/-- Submitting, polling and recovering are never refused by the state, but submitting hands on
whatever error the submission was answered with. -/
lemma Holds.handsOn (h : a.Holds)
    (haction : a.action = .run ∨ a.action = .poll ∨ a.action = .recover) (hrefused : a.IsRefused) :
    a.HandsOn := by
  obtain ⟨job, current, next, hresult⟩ := hrefused
  rcases haction with haction | haction
  · obtain ⟨before, action, answers, finished⟩ := a
    dsimp only [Holds, result] at h haction hresult
    subst haction
    rcases comesTo_run h with ⟨-, -, rfl⟩ | ⟨runId, -, -, rfl⟩ | ⟨e, -, rfl, rfl⟩
    · cases hresult
    · cases hresult
    · exact ⟨rfl, e, rfl, rfl⟩
  · cases (h.inquires haction).2.1 _ hresult

/-- What a stop says that fails: the container has not run yet, or its run was not stopped. -/
lemma Holds.stop_error (h : a.Holds) (haction : a.action = .stop) {e : ContainerError}
    (he : a.result = .error e) :
    a.finished = ⟨a.before, [], .error e⟩ ∧
      ((a.before.state = .created ∨ a.before.state = .submitting) ∧ e = a.before.invalid .killed ∨
        ∃ r m, a.before.runId = some r ∧ e = .kill a.before.jobId r m) := by
  obtain ⟨before, action, answers, finished⟩ := a
  dsimp only [Holds, result] at h haction he
  subst haction
  cases stops h with
  | ended | nothing | stopped => cases he
  | early hc =>
    cases he
    exact ⟨rfl, .inl ⟨hc, rfl⟩⟩
  | refused hc r hr e =>
    cases he
    exact ⟨rfl, .inr ⟨r, e.message, hr, rfl⟩⟩

lemma Holds.fail_refused (h : a.Holds) {reason : String} (haction : a.action = .fail reason)
    (hrefused : a.IsRefused) : ∃ result, a.finished = ⟨a.before, [], result⟩ := by
  obtain ⟨before, action, answers, finished⟩ := a
  obtain ⟨job, current, next, hresult⟩ := hrefused
  dsimp only [Holds, result] at h haction hresult
  subst haction
  obtain ⟨-, rfl⟩ := h.of_done
  rcases fail_eq_or before reason with hfail | ⟨-, hfail⟩
  · exact ⟨_, hfail⟩
  · rw [hfail] at hresult
    cases hresult

end Account

/-! ### All actions of an owner -/

/-- An action that is carried out is told as it came to pass. -/
lemma OwnerAction.holds_carryOut (cluster : Cluster σ) (c : Container) (s : Setting σ)
    (action : OwnerAction) :
    (action.carryOut cluster c s).1.Holds := by
  obtain ⟨answers, hcomes, hkept⟩ :=
    (action.operation c).comesTo_hold cluster ⟨(s.cluster, []), s.clock⟩
  rw [List.nil_append] at hkept
  rwa [← hkept] at hcomes

namespace Container

variable {cluster : Cluster σ} {c : Container} {s : Setting σ} {actions : List OwnerAction}

/-- Every account tells what came to pass, and no action begins while the job is submitted. -/
lemma holds_of_mem_accounts (hc : c.state ≠ .submitting) {a : Account}
    (ha : a ∈ c.accounts cluster s actions) : a.Holds ∧ a.before.state ≠ .submitting := by
  induction actions generalizing c s with
  | nil => cases ha
  | cons action rest ih =>
    have hfirst := action.holds_carryOut cluster c s
    rcases List.mem_cons.1 ha with rfl | ha
    · exact ⟨hfirst, hc⟩
    · exact ih (hfirst.state_ne_submitting hc) ha

lemma held_of_mem_accounts {a : Account} (ha : a ∈ c.accounts cluster s actions) :
    ∃ s', a.finished = ((a.action.operation a.before).hold cluster s').1 := by
  induction actions generalizing c s with
  | nil => cases ha
  | cons action rest ih =>
    rcases List.mem_cons.1 ha with rfl | ha
    · exact ⟨s, congrArg Prod.fst (action.carryOut_eq cluster c s)⟩
    · exact ih ha

lemma stoppedRuns_of_isTerminal (hc : c.state.isTerminal = true) :
    stoppedRuns (c.accounts cluster s actions) = [] := by
  induction actions generalizing c s with
  | nil => rfl
  | cons action rest ih =>
    obtain ⟨hanswers, hafter⟩ := (action.holds_carryOut cluster c s).of_isTerminal hc
    have hstill : (action.carryOut cluster c s).1.after.state.isTerminal = true := by rwa [hafter]
    simpa [accounts, stoppedRuns, hanswers] using ih hstill

/-- All actions together stop at most one run: the first stop ends the container. -/
lemma length_stoppedRuns_le_one : (stoppedRuns (c.accounts cluster s actions)).length ≤ 1 := by
  induction actions generalizing c s with
  | nil => exact Nat.zero_le _
  | cons action rest ih =>
    simp only [accounts, stoppedRuns, List.flatMap_cons, List.filterMap_append]
    rcases (action.holds_carryOut cluster c s).stopped with hnone | ⟨r, hone, -, -, hafter⟩
    · rw [hnone]
      exact ih
    · have hend : (action.carryOut cluster c s).1.after.state.isTerminal = true := by
        rw [hafter]
        rfl
      have hrest : stoppedRuns ((action.carryOut cluster c s).1.after.accounts cluster
          (action.carryOut cluster c s).2 rest) = [] := stoppedRuns_of_isTerminal hend
      rw [stoppedRuns] at hrest
      rw [hone, hrest]
      exact Nat.le_refl 1

end Container

/-- Operations that are refused change nothing, and what the actions stop is their run, once. -/
structure RefusesQuietly (excused : Account → Prop) (accounts : List Account) : Prop where
  /-- The state never refuses to submit, to poll and to recover. -/
  allowed : ∀ a ∈ accounts, a.action = .run ∨ a.action = .poll ∨ a.action = .recover →
    a.IsRefused → excused a
  /-- It refuses to stop only a container that was just created, -/
  early : ∀ a ∈ accounts, a.action = .stop → a.IsRefused → a.before.state = .created
  /-- and other stops fail only because the run that is recorded was not stopped. -/
  failed : ∀ a ∈ accounts, a.action = .stop → ∀ e, a.result = .error e → a.IsRefused ∨
    ∃ r m, a.before.runId = some r ∧ e = .kill a.before.jobId r m
  /-- A stop that fails leaves no trace, -/
  stop : ∀ a ∈ accounts, a.action = .stop → ∀ e, a.result = .error e → a.Traceless
  /-- and neither does giving the job up if that is refused. -/
  fail : ∀ a ∈ accounts, ∀ reason, a.action = .fail reason → a.IsRefused → a.Traceless
  /-- A run that is stopped is the one that is recorded, and then the container is killed. -/
  killed : ∀ a ∈ accounts, ∀ r ∈ a.answers.filterMap Answered.stopped?,
    a.before.runId = some r ∧ a.after.state = .killed ∧ a.after.runId = some r
  /-- At most one run is stopped, and once. -/
  once : (stoppedRuns accounts).length ≤ 1

/-- Whatever an owner does with a container, each action to its end, and whatever the cluster
answers: what is refused changes nothing, where a submission is excused that hands on the error
it was answered with.  The accounts are those of the operations as they are held with the
cluster. -/
theorem refusesQuietly_accounts (cluster : Cluster σ) (s : Setting σ) (identity : JobIdentity)
    (restored : Option RunId) (actions : List OwnerAction) :
    let accounts := (Possession.first ⟨identity, restored, []⟩).accounts cluster s actions
    RefusesQuietly Account.HandsOn accounts ∧
      ∀ a ∈ accounts, ∃ s', a.finished = ((a.action.operation a.before).hold cluster s').1 := by
  intro accounts
  refine ⟨?_, fun _ => held_of_mem_accounts⟩
  have hfirst : (Possession.first ⟨identity, restored, []⟩).state ≠ .submitting := by
    cases restored <;> exact nofun
  have hmem : ∀ a ∈ (Possession.first ⟨identity, restored, []⟩).accounts cluster s actions,
      a.Holds ∧ a.before.state ≠ .submitting := fun _ => holds_of_mem_accounts hfirst
  refine ⟨fun a ha => (hmem a ha).1.handsOn, ?_, ?_, ?_, ?_, ?_, length_stoppedRuns_le_one⟩
  · intro a ha haction ⟨job, current, next, hresult⟩
    rcases ((hmem a ha).1.stop_error haction hresult).2 with ⟨hstate, -⟩ | ⟨r, m, -, he⟩
    · exact hstate.resolve_right (hmem a ha).2
    · cases he
  · intro a ha haction e he
    rcases ((hmem a ha).1.stop_error haction he).2 with ⟨-, rfl⟩ | hkill
    · exact .inl ⟨_, _, _, he⟩
    · exact .inr hkill
  · intro a ha haction e he
    exact Account.traceless ⟨_, ((hmem a ha).1.stop_error haction he).1⟩
  · intro a ha reason haction hrefused
    exact Account.traceless ((hmem a ha).1.fail_refused haction hrefused)
  · intro a ha r hr
    rcases (hmem a ha).1.stopped with hnone | ⟨r', hone, -, hrun, hafter⟩
    · rw [hnone] at hr
      cases hr
    · rw [hone, List.mem_singleton] at hr
      subst hr
      rw [hafter]
      exact ⟨hrun, rfl, hrun⟩

/-- A cluster whose answer to every submission is that a state does not allow a change. -/
def contrary : Cluster Unit :=
  .steady (fun identity => .error (.invalidTransition identity.jobId .created .killed)) .unknown
    none

/-- If nothing is excused, a submission that is answered with such an error does not comply. -/
theorem not_refusesQuietly_contrary :
    ¬ RefusesQuietly (fun _ => False)
      ((Container.create (.bare ⟨"a"⟩)).accounts contrary ⟨(), 0⟩ [.run]) := fun h =>
  h.allowed _ (List.mem_singleton.2 rfl) (.inl rfl) ⟨⟨"a"⟩, .created, .killed, rfl⟩

end JobSupervision
