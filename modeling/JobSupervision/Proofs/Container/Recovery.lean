/-
# Recovery by one caller

A caller who has a running container to himself polls it.  What he hears and when he waits is
followed here from the first question to the reply: fruitless attempts one after the other
(`Fruitless`), each with a question for the run that is known, at most one for the run of the job,
and at most one for a run that is new, until an answer is clear or no attempt is left
(`PollOutcome`).
-/
import JobSupervision.Proofs.Container.Calls

namespace JobSupervision

open Container

variable {policy : RetryPolicy} {identity : JobIdentity} {k k' : Container} {r r' : RunId}
  {said steps : List CallStep} {i : Nat}

/-! ### Answers -/

/-- Whether an answer tells nothing about a run: the cluster does not know it, or cannot be
asked. -/
def IsUnclear : Except ClusterError RemoteStatus → Prop
  | .ok status => status = .unknown
  | .error _ => True

/-- The state of a container whose run has a status, unless that is unknown. -/
def RemoteStatus.state? : RemoteStatus → Option ContainerState
  | .running => some .running
  | status => status.final?

/-- What an attempt hears that comes to nothing, and the run that is known before and after. -/
inductive Misses (identity : JobIdentity) (r : RunId) : List CallStep → RunId → Prop
  /-- The cluster names the run that is known. -/
  | known (a : Except ClusterError RemoteStatus) (ha : IsUnclear a) :
    Misses identity r [.asked (.poll r) a, .asked (.find identity) (.ok (some r))] r
  /-- The cluster names no run. -/
  | none (a : Except ClusterError RemoteStatus) (ha : IsUnclear a) :
    Misses identity r [.asked (.poll r) a, .asked (.find identity) (.ok none)] r
  /-- The cluster cannot be asked for a run. -/
  | unasked (a : Except ClusterError RemoteStatus) (ha : IsUnclear a) (e : ClusterError) :
    Misses identity r [.asked (.poll r) a, .asked (.find identity) (.error e)] r
  /-- The cluster names another run, but nothing clear about it. -/
  | adopted (a : Except ClusterError RemoteStatus) (ha : IsUnclear a) (r' : RunId) (hr : r' ≠ r)
    (a' : Except ClusterError RemoteStatus) (ha' : IsUnclear a') :
    Misses identity r [.asked (.poll r) a, .asked (.find identity) (.ok (some r')),
      .asked (.poll r') a'] r'

/-- What an attempt hears that finds the run, the run that is known before and after, and its
status. -/
inductive Finds (identity : JobIdentity) (r : RunId) :
    List CallStep → RunId → RemoteStatus → Prop
  /-- The status of the run that is known is clear. -/
  | known (status : RemoteStatus) (h : status ≠ .unknown) :
    Finds identity r [.asked (.poll r) (.ok status)] r status
  /-- The cluster names another run, and its status is clear. -/
  | adopted (a : Except ClusterError RemoteStatus) (ha : IsUnclear a) (r' : RunId) (hr : r' ≠ r)
    (status : RemoteStatus) (h : status ≠ .unknown) :
    Finds identity r [.asked (.poll r) a, .asked (.find identity) (.ok (some r')),
      .asked (.poll r') (.ok status)] r' status

/-! ### Containers on the way -/

/-- A container that runs well under a run. -/
structure Container.RunsAs (k : Container) (r : RunId) : Prop where
  /-- It runs. -/
  state : k.state = .running
  /-- The run that is known. -/
  runId : k.runId = some r
  /-- It has no error and made no attempts. -/
  clear : k.lastError = none ∧ k.recoveryAttempts = 0

/-- A container in recovery after so many attempts. -/
structure Container.Recovers (k : Container) (identity : JobIdentity) (attempts : Nat)
    (r : RunId) : Prop where
  /-- It is in recovery. -/
  state : k.state = .recovering
  /-- Its job stays. -/
  identity : k.identity = identity
  /-- So many attempts were started. -/
  attempts : k.recoveryAttempts.toNat = attempts
  /-- The run that is known. -/
  runId : k.runId = some r

/-- A container after the status of its run was found to be clear. -/
structure Container.SettledAs (k : Container) (identity : JobIdentity) (attempts : Nat)
    (r : RunId) (status : RemoteStatus) : Prop where
  /-- Its state is that of the run. -/
  state : status.state? = some k.state
  /-- Its job stays. -/
  identity : k.identity = identity
  /-- The attempts are forgotten if it runs, and kept otherwise. -/
  attempts : k.recoveryAttempts.toNat = if k.state = .running then 0 else attempts
  /-- If it runs it has no error. -/
  clear : k.state = .running → k.lastError = none
  /-- The run whose status it is. -/
  runId : k.runId = some r

/-- A container that was given up after so many attempts. -/
structure Container.GivenUp (k : Container) (identity : JobIdentity) (attempts : Nat)
    (r : RunId) : Prop where
  /-- It has failed. -/
  state : k.state = .failed
  /-- Its job stays. -/
  identity : k.identity = identity
  /-- So many attempts were started. -/
  attempts : k.recoveryAttempts.toNat = attempts
  /-- The run that was known last. -/
  runId : k.runId = some r

lemma toNat_nextAttempt_of_lt {n : UInt16} (h : n.toNat < 65535) :
    (RetryPolicy.nextAttempt n).toNat = n.toNat + 1 := by
  rw [RetryPolicy.toNat_nextAttempt]
  omega

lemma nextAttempt_eq {n : UInt16} (h : n.toNat < 65535) :
    RetryPolicy.nextAttempt n = .ofNat (n.toNat + 1) := by
  rw [← UInt16.toNat_inj, toNat_nextAttempt_of_lt h, UInt16.toNat_ofNat']
  omega

/-! ### What an operation hears -/

open GuardedOperation (concludeOrRecover present needed)

/-- A status that is clear settles a container, and any other answer leaves it in recovery. -/
lemma hears_settle (hk : k.Recovers identity i r) {goOn : Container → Operation}
    {a : Except ClusterError RemoteStatus} {f : Finished Turn}
    (h : ((settle k r a goOn).map concludeOrRecover).Hears said (.done f)) :
    (said = [] ∧ ∃ status, a = .ok status ∧ status ≠ .unknown ∧
      f.container.SettledAs identity i r status ∧ f.result = .reply (present f.container)) ∨
    IsUnclear a ∧ ∃ k', k'.Recovers identity i r ∧
      ((goOn k').map concludeOrRecover).Hears said (.done f) := by
  obtain ⟨identity, state, runId, lastError, attempts⟩ := k
  obtain ⟨rfl, rfl, rfl, rfl⟩ := hk
  rcases a with e | status
  · refine .inr ⟨trivial, _, ?_, h⟩
    exact ⟨rfl, rfl, rfl, rfl⟩
  · cases status with
    | unknown =>
      refine .inr ⟨rfl, _, ?_, h⟩
      exact ⟨rfl, rfl, rfl, rfl⟩
    | running =>
      obtain ⟨rfl, hf⟩ := h.of_done
      cases hf
      exact .inl ⟨rfl, _, rfl, nofun, ⟨rfl, rfl, rfl, fun _ => rfl, rfl⟩, rfl⟩
    | succeeded | failed | killed =>
      obtain ⟨rfl, hf⟩ := h.of_done
      cases hf
      exact .inl ⟨rfl, _, rfl, nofun, ⟨rfl, rfl, rfl, nofun, rfl⟩, rfl⟩

/-- An attempt that is given up is followed by another one, if there is one left. -/
lemma hears_giveUpAttempt {f : Finished Turn}
    (h : ((giveUpAttempt k).map concludeOrRecover).Hears said (.done f)) :
    said = [] ∧ f.container = k ∧ f.result = .again 0 (.weigh true) := by
  obtain ⟨rfl, hf⟩ := h.of_done
  cases hf
  exact ⟨rfl, rfl, rfl⟩

/-- What an attempt hears from the question for the run of the job on. -/
lemma hears_search (hk : k.Recovers identity i r) {f : Finished Turn}
    (h : ((search k).map concludeOrRecover).Hears said (.done f))
    {a : Except ClusterError RemoteStatus} (ha : IsUnclear a) :
    (∃ r', Misses identity r (.asked (.poll r) a :: said) r' ∧
      f.container.Recovers identity i r' ∧ f.result = .again 0 (.weigh true)) ∨
    ∃ r' status, Finds identity r (.asked (.poll r) a :: said) r' status ∧
      f.container.SettledAs identity i r' status ∧ f.result = .reply (present f.container) := by
  obtain ⟨b, rest, rfl, hrest⟩ := h.of_ask
  obtain ⟨hstate, rfl, hattempts, hr⟩ := hk
  have hlost (e : Option String) : Recovers { k with lastError := e } k.identity i r :=
    ⟨hstate, rfl, hattempts, hr⟩
  rcases b with e | _ | found
  · obtain ⟨rfl, hcontainer, hresult⟩ := hears_giveUpAttempt hrest
    exact .inl ⟨r, .unasked a ha e, hcontainer ▸ hlost _, hresult⟩
  · obtain ⟨rfl, hcontainer, hresult⟩ := hears_giveUpAttempt hrest
    exact .inl ⟨r, .none a ha, hcontainer ▸ hlost _, hresult⟩
  · by_cases hfound : found = r
    · subst hfound
      simp only [hr, if_true] at hrest
      obtain ⟨rfl, hcontainer, hresult⟩ := hears_giveUpAttempt hrest
      exact .inl ⟨found, .known a ha, hcontainer ▸ hlost _, hresult⟩
    -- another run is adopted and asked about, and the container forgets the one before
    · have hne : ¬ k.runId = some found := by
        rw [hr]
        exact fun he => hfound (Option.some.inj he).symm
      simp only [hne, if_false] at hrest
      obtain ⟨a', rest', rfl, hrest'⟩ := hrest.of_ask
      have hadopted : Recovers { k with runId := some found } k.identity i found :=
        ⟨hstate, rfl, hattempts, rfl⟩
      rcases hears_settle hadopted hrest' with
        ⟨rfl, status, rfl, hstatus, hsettled, hresult⟩ | ⟨ha', k', hk', hrest'⟩
      · exact .inr ⟨found, status, .adopted a ha found hfound status hstatus, hsettled, hresult⟩
      · obtain ⟨rfl, hcontainer, hresult⟩ := hears_giveUpAttempt hrest'
        exact .inl ⟨found, .adopted a ha found hfound a' ha', hcontainer ▸ hk', hresult⟩

/-- What an attempt hears, up to its end. -/
lemma hears_attempt (hk : k.Recovers identity i r) (hi : i < 65535) {f : Finished Turn}
    (h : ((GuardedOperation.attempt true).hold policy k).Hears said (.done f)) :
    (∃ r', Misses identity r said r' ∧ f.container.Recovers identity (i + 1) r' ∧
      f.result = .again 0 (.weigh true)) ∨
    ∃ r' status, Finds identity r said r' status ∧
      f.container.SettledAs identity (i + 1) r' status ∧
      f.result = .reply (present f.container) := by
  obtain ⟨identity, state, runId, lastError, attempts⟩ := k
  obtain ⟨rfl, rfl, rfl, rfl⟩ := hk
  have hstarted : Recovers ⟨identity, .recovering, some r, lastError,
      RetryPolicy.nextAttempt attempts⟩ identity (attempts.toNat + 1) r :=
    ⟨rfl, rfl, toNat_nextAttempt_of_lt hi, rfl⟩
  obtain ⟨a, rest, rfl, hrest⟩ := h.of_ask
  rcases hears_settle hstarted hrest with
    ⟨rfl, status, rfl, hstatus, hsettled, hresult⟩ | ⟨ha, k', hk', hrest⟩
  · exact .inr ⟨r, status, .known status hstatus, hsettled, hresult⟩
  · exact hears_search hk' hrest ha

/-- What the first poll of a container hears that is known to run. -/
lemma hears_poll (hk : k.RunsAs r) {f : Finished Turn}
    (h : (GuardedOperation.poll.hold policy k).Hears said (.done f)) :
    ∃ a, said = [.asked (.poll r) a] ∧
      (IsUnclear a ∧ f.container.Recovers k.identity 0 r ∧ f.result = .again 0 (.weigh true) ∨
        ∃ status, a = .ok status ∧ status ≠ .unknown ∧
          f.container.SettledAs k.identity 0 r status ∧
          f.result = .reply (present f.container)) := by
  obtain ⟨identity, state, runId, lastError, attempts⟩ := k
  obtain ⟨rfl, rfl, rfl, rfl⟩ := hk
  obtain ⟨a, rest, rfl, hrest⟩ := h.of_ask
  refine ⟨a, ?_⟩
  rcases a with e | status
  · obtain ⟨rfl, hf⟩ := hrest.of_done
    cases hf
    exact ⟨rfl, .inl ⟨trivial, ⟨rfl, rfl, rfl, rfl⟩, rfl⟩⟩
  · cases status with
    | unknown =>
      obtain ⟨rfl, hf⟩ := hrest.of_done
      cases hf
      exact ⟨rfl, .inl ⟨rfl, ⟨rfl, rfl, rfl, rfl⟩, rfl⟩⟩
    | running =>
      obtain ⟨rfl, hf⟩ := hrest.of_done
      cases hf
      exact ⟨rfl, .inr ⟨_, rfl, nofun, ⟨rfl, rfl, rfl, fun _ => rfl, rfl⟩, rfl⟩⟩
    | succeeded | failed | killed =>
      obtain ⟨rfl, hf⟩ := hrest.of_done
      cases hf
      exact ⟨rfl, .inr ⟨_, rfl, nofun, ⟨rfl, rfl, rfl, nofun, rfl⟩, rfl⟩⟩

/-- What is done with a container in recovery when the next attempt is weighed. -/
lemma hears_weigh (hk : k.Recovers identity i r) {f : Finished Turn}
    (h : ((GuardedOperation.weigh true).hold policy k).Hears said (.done f)) :
    said = [] ∧ (i < policy.maxAttempts.toNat ∧ f.container = k ∧
        f.result = .again (policy.backoffMs (.ofNat (i + 1))) (.attempt true) ∨
      policy.maxAttempts.toNat ≤ i ∧ f.container.GivenUp identity i r ∧
        f.result = .reply (.error (.recoveryExhausted identity.jobId (some r) (.ofNat i)))) := by
  obtain ⟨identity, state, runId, lastError, attempts⟩ := k
  obtain ⟨rfl, rfl, rfl, rfl⟩ := hk
  by_cases hmax : policy.maxAttempts ≤ attempts
  -- a container in recovery can fail, so that giving it up is never refused
  · have hd : policy.decide attempts = .escalate := if_pos (decide_eq_true hmax)
    simp only [GuardedOperation.hold, needed, if_true, hd] at h
    obtain ⟨rfl, hf⟩ := h.of_done
    cases hf
    refine ⟨rfl, .inr ⟨UInt16.le_iff_toNat_le.1 hmax, ⟨rfl, rfl, rfl, rfl⟩, ?_⟩⟩
    rw [UInt16.ofNat_toNat]
    rfl
  · have hlt : attempts.toNat < policy.maxAttempts.toNat :=
      Nat.lt_of_not_le fun hle => hmax (UInt16.le_iff_toNat_le.2 hle)
    have hnext : RetryPolicy.nextAttempt attempts = .ofNat (attempts.toNat + 1) :=
      nextAttempt_eq (Nat.lt_of_lt_of_le hlt (Nat.le_of_lt_succ policy.maxAttempts.toNat_lt))
    have hd : policy.decide attempts = .retry (RetryPolicy.nextAttempt attempts)
        (policy.backoffMs (RetryPolicy.nextAttempt attempts)) :=
      if_neg (by simpa [RetryPolicy.exhausted] using hmax)
    simp only [GuardedOperation.hold, needed, if_true, hd] at h
    obtain ⟨rfl, hf⟩ := h.of_done
    cases hf
    exact ⟨rfl, .inl ⟨hlt, rfl, by rw [hnext]⟩⟩

/-! ### The whole call -/

/-- What a caller hears while all comes to nothing, up to the time at which the next attempt is
weighed: how many attempts were made, and the run that is known then. -/
inductive Fruitless (policy : RetryPolicy) (identity : JobIdentity) (first : RunId) :
    Nat → List CallStep → RunId → Prop
  /-- The first question did not tell anything. -/
  | asked (a : Except ClusterError RemoteStatus) (ha : IsUnclear a) :
    Fruitless policy identity first 0 [.asked (.poll first) a, .turned 0 (.weigh true)] first
  /-- Another attempt, which was due, came after its delay and did not tell anything either. -/
  | missed {i : Nat} {steps : List CallStep} {r : RunId}
    (h : Fruitless policy identity first i steps r) (hi : i < policy.maxAttempts.toNat)
    {said : List CallStep} {r' : RunId} (hm : Misses identity r said r') :
    Fruitless policy identity first (i + 1) (steps ++
      [.turned (policy.backoffMs (.ofNat (i + 1))) (.attempt true)] ++ said ++
      [.turned 0 (.weigh true)]) r'

/-- What a caller hears who polls a container with a run, his reply, and the container then. -/
inductive PollOutcome (policy : RetryPolicy) (identity : JobIdentity) (first : RunId) :
    List CallStep → CallReply → Container → Prop
  /-- The first answer is clear. -/
  | atOnce {status : RemoteStatus} {k : Container} (hk : k.SettledAs identity 0 first status) :
    PollOutcome policy identity first [.asked (.poll first) (.ok status)] (present k) k
  /-- An attempt, which was due, came after its delay and found the run. -/
  | found {i : Nat} {steps : List CallStep} {r : RunId}
    (h : Fruitless policy identity first i steps r) (hi : i < policy.maxAttempts.toNat)
    {said : List CallStep} {r' : RunId} {status : RemoteStatus}
    (hf : Finds identity r said r' status) {k : Container}
    (hk : k.SettledAs identity (i + 1) r' status) :
    PollOutcome policy identity first
      (steps ++ [.turned (policy.backoffMs (.ofNat (i + 1))) (.attempt true)] ++ said) (present k) k
  /-- No attempt is left. -/
  | exhausted {steps : List CallStep} {r : RunId}
    (h : Fruitless policy identity first policy.maxAttempts.toNat steps r) {k : Container}
    (hk : k.GivenUp identity policy.maxAttempts.toNat r) :
    PollOutcome policy identity first steps
      (.error (.recoveryExhausted identity.jobId (some r) policy.maxAttempts)) k

/-- Where a caller who polls stands when he is to come back for an operation. -/
inductive Underway (policy : RetryPolicy) (first : Container) (known : RunId) :
    List CallStep → Container → GuardedOperation → Prop
  /-- He begins. -/
  | start : Underway policy first known [] first .poll
  /-- The next attempt is to be weighed. -/
  | weighing {i : Nat} {steps : List CallStep} {r : RunId} {k : Container}
    (h : Fruitless policy first.identity known i steps r) (hi : i ≤ policy.maxAttempts.toNat)
    (hk : k.Recovers first.identity i r) : Underway policy first known steps k (.weigh true)
  /-- The next attempt is to be made. -/
  | attempting {i : Nat} {steps : List CallStep} {r : RunId} {k : Container}
    (h : Fruitless policy first.identity known i steps r) (hi : i < policy.maxAttempts.toNat)
    (hk : k.Recovers first.identity i r) :
    Underway policy first known
      (steps ++ [.turned (policy.backoffMs (.ofNat (i + 1))) (.attempt true)]) k (.attempt true)

section Poll

variable {first : Container} {known : RunId} {e : GuardedOperation}

/-- A caller who polls comes from one operation to the next, or to his reply. -/
lemma Underway.hears (h : Underway policy first known steps k e) (hfirst : first.RunsAs known)
    {f : Finished Turn} (hd : (e.hold policy k).Hears said (.done f)) :
    (∃ delay e', f.result = .again delay e' ∧
      Underway policy first known (steps ++ said ++ [.turned delay e']) f.container e') ∨
    ∃ reply, f.result = .reply reply ∧
      PollOutcome policy first.identity known (steps ++ said) reply f.container := by
  cases h with
  | start =>
    obtain ⟨a, rfl, ⟨ha, hk, hresult⟩ | ⟨status, rfl, -, hk, hresult⟩⟩ := hears_poll hfirst hd
    · exact .inl ⟨_, _, hresult, .weighing (.asked a ha) (Nat.zero_le _) hk⟩
    · exact .inr ⟨_, hresult, .atOnce hk⟩
  | weighing h hi hk =>
    obtain ⟨rfl, ⟨hlt, hcontainer, hresult⟩ | ⟨hle, hgiven, hresult⟩⟩ := hears_weigh hk hd
    · rw [List.append_nil, hcontainer]
      exact .inl ⟨_, _, hresult, .attempting h hlt hk⟩
    · obtain rfl := Nat.le_antisymm hi hle
      rw [UInt16.ofNat_toNat] at hresult
      rw [List.append_nil]
      exact .inr ⟨_, hresult, .exhausted h hgiven⟩
  | attempting h hi hk =>
    -- the counter of the container still has a next number, whatever the policy allows
    have hlt := Nat.lt_of_lt_of_le hi (Nat.le_of_lt_succ policy.maxAttempts.toNat_lt)
    obtain ⟨r', hm, hk', hresult⟩ | ⟨r', status, hf, hk', hresult⟩ := hears_attempt hk hlt hd
    · exact .inl ⟨_, _, hresult, .weighing (.missed h hi hm) hi hk'⟩
    · exact .inr ⟨_, hresult, .found h hi hf hk'⟩

/-- Wherever a caller who polls is to come back, he is on his way. -/
lemma underway_of_leads (h : Leads policy first .poll steps k e) (hfirst : first.RunsAs known) :
    Underway policy first known steps k e := by
  induction h with
  | start => exact .start
  | turn h hd ih =>
    obtain ⟨delay, e', hresult, hunder⟩ | ⟨reply, hresult, -⟩ := ih.hears hfirst hd
    · cases hresult
      exact hunder
    · cases hresult

/-! ### What a call costs -/

lemma costs_enterRecovering (k : Container) (reason : String) :
    (k.enterRecovering reason).Costs 0 0 := by
  unfold enterRecovering
  dsimp only
  split <;> exact .done ..

lemma costs_poll (hk : k.RunsAs r) : (GuardedOperation.poll.hold policy k).Costs 1 0 := by
  refine Dialogue.Costs.map (d := k.poll) ?_ concludeOrRecover
  simp only [poll, hk.state, hk.runId]
  refine .poll fun a => ?_
  rcases a with e | status
  · exact costs_enterRecovering k _
  · cases status with
    | unknown => exact costs_enterRecovering k _
    | _ => exact .done ..

lemma costs_weigh (k : Container) : ((GuardedOperation.weigh true).hold policy k).Costs 0 0 := by
  simp only [GuardedOperation.hold]
  split
  · split <;> exact .done ..
  · exact .done ..

lemma costs_settle {polls finds : Nat} {goOn : Container → Operation}
    (h : ∀ k, (goOn k).Costs polls finds) (k : Container) (r : RunId)
    (a : Except ClusterError RemoteStatus) : (settle k r a goOn).Costs polls finds := by
  rcases a with e | status
  · exact h _
  · cases status with
    | unknown => exact h _
    | _ => exact .done ..

lemma costs_search (k : Container) : k.search.Costs 1 1 := by
  refine .find fun a => ?_
  rcases a with e | _ | found
  · exact .done ..
  · exact .done ..
  · dsimp only
    split
    · exact .done ..
    · exact .poll fun a => costs_settle (fun _ => .done ..) _ found a

/-- An attempt asks for the status of the run that is known, for the run of the job, and for the
status of a run that is new. -/
lemma costs_attempt (hk : k.Recovers identity i r) :
    ((GuardedOperation.attempt true).hold policy k).Costs 2 1 := by
  simp only [GuardedOperation.hold, needed, hk.state, if_true, Container.recover, Container.attempt,
    hk.runId]
  exact .poll fun a => (costs_settle costs_search _ r a).map concludeOrRecover

/-- What fruitless attempts cost. -/
lemma Fruitless.bounds (h : Fruitless policy identity r i steps r') :
    (queriesOf steps).countP Query.isPoll ≤ 1 + 2 * i ∧
      (queriesOf steps).countP Query.isFind ≤ i ∧ weight steps ≤ 3 + 7 * i := by
  induction h with
  | asked a ha => simp [weight, Query.isPoll, Query.isFind]
  | missed h hi hm ih =>
    obtain ⟨hpolls, hfinds, hweight⟩ := ih
    cases hm <;>
      simp only [queriesOf_append, queriesOf_turned, queriesOf_asked, queriesOf_nil, weight_append,
        weight, List.countP_append, List.countP_cons, List.countP_nil, Query.isPoll, Query.isFind,
        if_true, Bool.false_eq_true, if_false] <;>
      omega

/-- However far a caller who polls comes, he asks no more than one status, and two statuses and
one run for each attempt. -/
lemma Underway.bounds (h : Underway policy first known steps k e) (hfirst : first.RunsAs known)
    {d : Dialogue Turn} (hd : (e.hold policy k).Hears said d) :
    (queriesOf (steps ++ said) ++ d.query?.toList).countP Query.isPoll ≤
        1 + 2 * policy.maxAttempts.toNat ∧
      (queriesOf (steps ++ said) ++ d.query?.toList).countP Query.isFind ≤
        policy.maxAttempts.toNat ∧
      weight (steps ++ said) ≤ 3 + 7 * policy.maxAttempts.toNat := by
  -- what was asked up to the operation, and what the operation asks
  have hsplit (p : Query → Bool) : (queriesOf (steps ++ said) ++ d.query?.toList).countP p =
      (queriesOf steps).countP p + (queriesOf said ++ d.query?.toList).countP p := by
    rw [queriesOf_append, List.append_assoc, List.countP_append]
  rw [hsplit, hsplit, weight_append]
  cases h with
  | start =>
    obtain ⟨hpolls, hfinds, hweight⟩ := (costs_poll hfirst).bounds hd
    simp only [queriesOf_nil, List.countP_nil, weight]
    omega
  | weighing h hi hk =>
    obtain ⟨hpolls, hfinds, hweight⟩ := (costs_weigh k).bounds hd
    have := h.bounds
    omega
  | attempting h hi hk =>
    obtain ⟨hpolls, hfinds, hweight⟩ := (costs_attempt hk).bounds hd
    have := h.bounds
    simp only [queriesOf_append, queriesOf_turned, queriesOf_nil, List.append_nil, weight_append,
      weight]
    omega

end Poll

end JobSupervision
