/-
# One caller

A request for a call on a container to which nobody else comes meanwhile is followed here from its
start to its end.  What happens to the caller is read off the dialogue steps about the container
(`World.heard`), and wherever he stands (`Standing`) that is what leads there from operation to
operation.  For a caller who polls a running container it is the first question, and then the
attempts one after the other, each when its delay is over (`World.recoversInOrder_run`).
-/
import JobSupervision.Proofs.Container.Recovery
import JobSupervision.Proofs.Supervision.Shutdown
import JobSupervision.Proofs.Supervision.Locks

namespace JobSupervision

/-- What a trigger adds to what happens in a call. -/
def Trigger.steps : Trigger → List CallStep
  | .operation _ => []
  | .answer q a => [.asked q a]

/-- What the end of a dialogue adds to what happens in a call. -/
def Dialogue.steps (d : Dialogue Turn) : List CallStep :=
  match d.result? with
  | some (.again delay operation) => [.turned delay operation]
  | _ => []

namespace Supervision

variable {σ : Type} {rules : Rules} {cluster : Cluster σ} {w w' : World σ} {t : TaskId} {c : CellId}

/-- What a dialogue step adds to what happens in a call. -/
def DialogueStep.steps (s : DialogueStep) : List CallStep := s.trigger.steps ++ s.dialogue.steps

/-- What whoever called to have the reply does after a dialogue at some time. -/
inductive Proceeds (c : CellId) (clock : Nat) : Dialogue Turn → Activity → Prop where
  /-- A question is open. -/
  | asks (k : Container) (events : List EventPayload) (q : Query) (next) (due : Nat) :
    Proceeds c clock (.ask k events q next) (.calling c (.asking q next due) .deliver)
  /-- The call has ended. -/
  | ends (k : Container) (events : List EventPayload) (reply : CallReply) :
    Proceeds c clock (.done ⟨k, events, .reply reply⟩) (.finished (callResult reply))
  /-- The caller is to come back. -/
  | turns (k : Container) (events : List EventPayload) (delay : Nat) (e : GuardedOperation) :
    Proceeds c clock (.done ⟨k, events, .again delay e⟩)
      (.calling c (if delay = 0 then .arriving e else .resting e (clock + delay)) .deliver)

namespace World

/-- What happens in a run to whoever calls on a container. -/
def heard (rules : Rules) (cluster : Cluster σ) (w : World σ) (actions : List (Action σ))
    (c : CellId) : List CallStep :=
  (about c (w.history rules cluster actions)).flatMap DialogueStep.steps

/-- The questions that are asked in a run about a container, oldest first. -/
def queries (rules : Rules) (cluster : Cluster σ) (w : World σ) (actions : List (Action σ))
    (c : CellId) : List Query :=
  (about c (w.history rules cluster actions)).filterMap DialogueStep.query?

/-- Whether a task goes on in an action. -/
def goesOnIn (w : World σ) (t : TaskId) : Action σ → Bool
  | .step i => i = t && w.isEnabled t
  | _ => false

/-- How often a task goes on in a run. -/
def turns (rules : Rules) (cluster : Cluster σ) (t : TaskId) : World σ → List (Action σ) → Nat
  | _, [] => 0
  | w, a :: rest => (w.goesOnIn t a).toNat + turns rules cluster t (w.act rules cluster a) rest

lemma heard_append (rules : Rules) (cluster : Cluster σ) (w : World σ)
    (first second : List (Action σ)) (c : CellId) :
    w.heard rules cluster (first ++ second) c =
      w.heard rules cluster first c ++
        (w.play rules cluster first).heard rules cluster second c := by
  rw [heard, history_append, about_append, List.flatMap_append]
  rfl

lemma queries_append (rules : Rules) (cluster : Cluster σ) (w : World σ)
    (first second : List (Action σ)) (c : CellId) :
    w.queries rules cluster (first ++ second) c =
      w.queries rules cluster first c ++
        (w.play rules cluster first).queries rules cluster second c := by
  rw [queries, history_append, about_append, List.filterMap_append]
  rfl

lemma turns_append (rules : Rules) (cluster : Cluster σ) (w : World σ) (t : TaskId)
    (first second : List (Action σ)) :
    turns rules cluster t w (first ++ second) =
      turns rules cluster t w first +
        turns rules cluster t (w.play rules cluster first) second := by
  induction first generalizing w with
  | nil => exact (Nat.zero_add _).symm
  | cons a rest ih =>
    rw [List.cons_append, turns, turns, ih, Nat.add_assoc]
    rfl

lemma turns_singleton (rules : Rules) (cluster : Cluster σ) (w : World σ) (t : TaskId)
    (a : Action σ) : turns rules cluster t w [a] = (w.goesOnIn t a).toNat := rfl

lemma said_of_dialogueStep {s : DialogueStep} (h : w.dialogueStep? rules cluster t = some s) :
    w.heard rules cluster [.step t] s.cell = s.steps ∧
      w.queries rules cluster [.step t] s.cell = s.query?.toList := by
  have habout : about s.cell (w.history rules cluster [.step t]) = [s] := by
    rw [history, history, dialogueStepOf?, h]
    exact about_singleton s
  rw [heard, queries, habout]
  constructor
  · exact List.flatMap_singleton ..
  · cases hq : s.query? <;> simp [hq]

lemma said_of_ne {a : Action σ}
    (h : ∀ s, w.dialogueStepOf? rules cluster a = some s → s.cell ≠ c) :
    w.heard rules cluster [a] c = [] ∧ w.queries rules cluster [a] c = [] := by
  have habout : about c (w.history rules cluster [a]) = [] := by
    refine about_eq_nil fun s hs => h s ?_
    simpa [history] using hs
  rw [heard, queries, habout]
  exact ⟨rfl, rfl⟩

lemma said_of_none (h : w.dialogueStep? rules cluster t = none) :
    w.heard rules cluster [.step t] c = [] ∧ w.queries rules cluster [.step t] c = [] :=
  said_of_ne fun s hs => by cases h.symm.trans hs

/-! ### How a caller goes on -/

/-- What is left to do for whoever called to have the reply depends on what he says. -/
lemma proceeds_of_converse {x : Activity} (hx : w.activity? t = some x) (d : Dialogue Turn) :
    ∃ x', (w.converse rules cluster t c .deliver d).activity? t = some x' ∧
      Proceeds c w.clock d x' := by
  cases d with
  | ask k events q next =>
    exact ⟨_, activity?_goOn_of_some (by exact hx) _, .asks k events q next _⟩
  | done r =>
    obtain ⟨k, events, reply | ⟨delay, e⟩⟩ := r
    · exact ⟨_, activity?_goOn_of_some (by exact hx) _, .ends k events reply⟩
    · refine ⟨_, ?_, .turns k events delay e⟩
      simp only [converse]
      split
      · exact activity?_goOn_of_some (by exact hx) _
      · exact activity?_goOn_of_some (by exact hx) _

/-- A task says something when it goes on with a call on a container that is there. -/
lemma exists_utterance {s : DialogueStep} (h : w.dialogueStep? rules cluster t = some s) :
    ∃ task stage cell, w.task? t = some task ∧ w.isEnabled t = true ∧ w.isDoomed task = false ∧
      task.activity = .calling s.cell stage s.purpose ∧ w.cell? s.cell = some cell ∧
      w.utterance? rules cluster cell stage = some (s.trigger, s.dialogue) := by
  unfold dialogueStep? at h
  cases ht : w.task? t with
  | none => simp [ht] at h
  | some task =>
    simp only [ht] at h
    split at h
    · cases h
    · next hgo =>
      rw [Bool.not_eq_true, Bool.or_eq_false_iff, Bool.not_eq_false'] at hgo
      split at h
      · next c stage p hact =>
        obtain ⟨cell, hc, hmap⟩ := Option.bind_eq_some_iff.1 h
        obtain ⟨u, hu, rfl⟩ := Option.map_eq_some_iff.1 hmap
        exact ⟨task, stage, cell, rfl, hgo.1, hgo.2, hact, hc, hu⟩
      · cases h

lemma proceeds_of_dialogueStep {s : DialogueStep} (h : w.dialogueStep? rules cluster t = some s)
    (hp : s.purpose = .deliver) :
    ∃ x, (w.step rules cluster t).activity? t = some x ∧ Proceeds s.cell w.clock s.dialogue x := by
  obtain ⟨task, stage, cell, ht, henabled, hd, hact, hc, hu⟩ := exists_utterance h
  have hr : w.callReady t s.cell stage = true := by
    simpa [isEnabled, ht, hd, Task.isFinished, hact, isReady] using henabled
  obtain ⟨k, hk⟩ := stepCall_converse (p := s.purpose) hc hr hu
  have hstep : w.step rules cluster t =
      w.stepCall rules cluster t s.cell s.purpose cell stage := by
    simp [step, henabled, ht, hd, hact, hc]
  rw [hstep, hk, hp]
  exact proceeds_of_converse (by exact activity?_eq ht) s.dialogue

end World

/-! ### Where a caller stands -/

/-- Where a caller stands whose request is for an operation on a container: what has happened to
him, what was asked for him, how often he went on, the container, and what he does. -/
inductive Standing (policy : RetryPolicy) (first : Container) (begun : GuardedOperation)
    (c : CellId) :
    List CallStep → List Query → Nat → Container → Activity → Prop where
  /-- He has not begun. -/
  | fresh : Standing policy first begun c [] [] 0 first (.fresh (.call c begun))
  /-- He comes for the lock. -/
  | arriving {steps : List CallStep} {k : Container} {e : GuardedOperation}
    (h : Leads policy first begun steps k e) {n : Nat} (hn : n ≤ weight steps + 1) :
    Standing policy first begun c steps (queriesOf steps) n k (.calling c (.arriving e) .deliver)
  /-- He waits out a delay. -/
  | resting {steps : List CallStep} {k : Container} {e : GuardedOperation}
    (h : Leads policy first begun steps k e) {n : Nat} (hn : n ≤ weight steps) (due : Nat) :
    Standing policy first begun c steps (queriesOf steps) n k
      (.calling c (.resting e due) .deliver)
  /-- He waits for an answer. -/
  | asking {steps said : List CallStep} {k k' : Container} {e : GuardedOperation}
    {events : List EventPayload} {q : Query} {next : q.Answer → Dialogue Turn}
    (h : Leads policy first begun steps k e)
    (hd : (e.hold policy k).Hears said (.ask k' events q next)) {n : Nat}
    (hn : n ≤ weight (steps ++ said) + 2) (due : Nat) :
    Standing policy first begun c (steps ++ said) (queriesOf (steps ++ said) ++ [q]) n k'
      (.calling c (.asking q next due) .deliver)
  /-- He has his reply. -/
  | replied {steps said : List CallStep} {k k' : Container} {e : GuardedOperation}
    {events : List EventPayload} {reply : CallReply} (h : Leads policy first begun steps k e)
    (hd : (e.hold policy k).Hears said (.done ⟨k', events, .reply reply⟩)) {n : Nat}
    (hn : n ≤ weight (steps ++ said) + 2) :
    Standing policy first begun c (steps ++ said) (queriesOf (steps ++ said)) n k'
      (.finished (callResult reply))

/-- Where a caller stands after a dialogue that is part of an operation. -/
lemma Proceeds.standing {policy : RetryPolicy} {first k : Container} {begun e : GuardedOperation}
    {steps said : List CallStep} {d : Dialogue Turn} {clock n : Nat} {x : Activity}
    (hx : Proceeds c clock d x) (h : Leads policy first begun steps k e)
    (hd : (e.hold policy k).Hears said d) (hn : n ≤ weight (steps ++ said) + 2) :
    Standing policy first begun c (steps ++ said ++ d.steps)
      (queriesOf (steps ++ said) ++ d.query?.toList) n d.container x := by
  cases hx with
  | asks k' events q next due =>
    rw [show Dialogue.steps (.ask k' events q next) = [] from rfl, List.append_nil]
    exact .asking h hd hn due
  | ends k' events reply =>
    rw [show Dialogue.steps (.done ⟨k', events, .reply reply⟩) = [] from rfl, List.append_nil]
    exact (List.append_nil (queriesOf (steps ++ said))).symm ▸ .replied h hd hn
  | turns k' events delay e' =>
    have hleads := h.turn hd
    have hweight : n ≤ weight (steps ++ said ++ [.turned delay e']) := by
      rwa [weight_append]
    have hasked : queriesOf (steps ++ said) ++ [] =
        queriesOf (steps ++ said ++ [.turned delay e']) := by
      rw [queriesOf_append _ [_]]
      rfl
    split
    · exact hasked ▸ .arriving hleads (Nat.le_succ_of_le hweight)
    · exact hasked ▸ .resting hleads hweight _

/-- Whoever stands somewhere in a call calls on his container to have the reply. -/
lemma Standing.calling {policy : RetryPolicy} {first k : Container} {begun : GuardedOperation}
    {steps : List CallStep} {asked : List Query} {n : Nat} {c' : CellId} {stage : CallStage}
    {p : Purpose} (h : Standing policy first begun c steps asked n k (.calling c' stage p)) :
    p = .deliver := by
  cases h <;> rfl

section Poll

variable {policy : RetryPolicy} {first k : Container} {known : RunId} {steps : List CallStep}
  {asked : List Query} {n : Nat} {x : Activity}

/-- What a caller who polls a running container comes to. -/
lemma Standing.outcome {r : TaskResult}
    (h : Standing policy first .poll c steps asked n k (.finished r))
    (hfirst : first.RunsAs known) :
    ∃ reply, r = callResult reply ∧ PollOutcome policy first.identity known steps reply k ∧
      asked = queriesOf steps := by
  cases h with
  | @replied _ _ _ _ _ _ reply h hd hn =>
    obtain ⟨delay, e', hr, -⟩ | ⟨reply', hr, houtcome⟩ :=
      (underway_of_leads h hfirst).hears hfirst hd
    · cases hr
    · cases hr
      exact ⟨reply, rfl, houtcome, rfl⟩

/-- Wherever a caller stands who polls a running container, no more was asked for him than an
attempt may ask, and he went on only so often. -/
lemma Standing.bounds (h : Standing policy first .poll c steps asked n k x)
    (hfirst : first.RunsAs known) :
    asked.countP Query.isPoll ≤ 1 + 2 * policy.maxAttempts.toNat ∧
      asked.countP Query.isFind ≤ policy.maxAttempts.toNat ∧
      n ≤ 5 + 7 * policy.maxAttempts.toNat := by
  have hbounds : ∀ {steps said : List CallStep} {k : Container} {e : GuardedOperation}
    {d : Dialogue Turn},
      Leads policy first .poll steps k e → (e.hold policy k).Hears said d → _ := fun h hd =>
    (underway_of_leads h hfirst).bounds hfirst hd
  cases h with
  | fresh => simp
  -- between operations, the next one has asked nothing yet
  | arriving h hn =>
    have := hbounds h (.nil _)
    simp only [List.append_nil, List.countP_append] at this
    omega
  | resting h hn due =>
    have := hbounds h (.nil _)
    simp only [List.append_nil, List.countP_append] at this
    omega
  | asking h hd hn due =>
    obtain ⟨hpolls, hfinds, hweight⟩ := hbounds h hd
    exact ⟨hpolls, hfinds, by omega⟩
  | replied h hd hn =>
    obtain ⟨hpolls, hfinds, hweight⟩ := hbounds h hd
    rw [show Dialogue.query? (.done _) = none from rfl, Option.toList_none, List.append_nil]
      at hpolls hfinds
    exact ⟨hpolls, hfinds, by omega⟩

end Poll

namespace World

/-- Whether nobody but one task calls on a container. -/
def Alone (w : World σ) (t : TaskId) (c : CellId) : Prop :=
  ∀ i, i ≠ t → ∀ stage p, w.activity? i ≠ some (.calling c stage p)

lemma Alone.allRestBut (h : w.Alone t c) : w.AllRestBut c (some t) := fun i stage p hi hx =>
  absurd hx (h i (fun he => hi (congrArg some he)) stage p)

lemma dialogueStep?_of_not_isEnabled (h : w.isEnabled t = false) :
    w.dialogueStep? rules cluster t = none := by
  unfold dialogueStep?
  cases w.task? t with
  | none => rfl
  | some task => simp [h]

lemma eq_step_of_dialogueStep {a : Action σ} {s : DialogueStep}
    (h : Change rules cluster w a (some s) w') : a = .step s.task := by
  cases h <;> rfl

/-- Whether a run leads to a world. -/
def Reached (rules : Rules) (cluster : Cluster σ) (w : World σ) : Prop :=
  ∃ state bus actions, (empty state bus).play rules cluster actions = w

/-- Whether a caller stands somewhere in a world. -/
def Stands (w : World σ) (t : TaskId) (policy : RetryPolicy) (first : Container)
    (begun : GuardedOperation)
    (c : CellId) (steps : List CallStep) (asked : List Query) (n : Nat) : Prop :=
  ∃ x k, w.activity? t = some x ∧ w.container? c = some k ∧
    Standing policy first begun c steps asked n k x

variable {first k : Container} {begun e : GuardedOperation} {steps : List CallStep}
    {asked : List Query}
  {n : Nat} {x : Activity} {later : List (Action σ)}

namespace Reached

lemma play (hw : w.Reached rules cluster) (later : List (Action σ)) :
    (w.play rules cluster later).Reached rules cluster := by
  obtain ⟨state, bus, actions, rfl⟩ := hw
  exact ⟨state, bus, actions ++ later, play_append ..⟩

lemma act (hw : w.Reached rules cluster) (a : Action σ) :
    (w.act rules cluster a).Reached rules cluster := hw.play [a]

/-- A task that calls to have a reply is not dropped when it goes on. -/
lemma exists_task (hw : w.Reached rules cluster) {stage : CallStage}
    (hx : w.activity? t = some (.calling c stage .deliver)) :
    ∃ task, w.task? t = some task ∧ task.activity = .calling c stage .deliver ∧
      w.isDoomed task = false := by
  obtain ⟨state, bus, actions, rfl⟩ := hw
  obtain ⟨task, ht, hact⟩ := Option.map_eq_some_iff.1 hx
  have hf : task.isFinished = false := by rw [Task.isFinished, hact]
  exact ⟨task, ht, hact, isDoomed_of_supervised? ht hf (hact ▸ rfl)⟩

lemma isEnabled_of_calling (hw : w.Reached rules cluster) {stage : CallStage}
    (hx : w.activity? t = some (.calling c stage .deliver)) :
    w.isEnabled t = w.callReady t c stage := by
  obtain ⟨task, ht, hact, hd⟩ := hw.exists_task hx
  simp [isEnabled, ht, hd, Task.isFinished, hact, isReady]

/-- Whoever waited for an answer hears it when it is there. -/
lemma dialogueStep?_of_asking (hw : w.Reached rules cluster) {q : Query}
    {next : q.Answer → Dialogue Turn} {due : Nat}
    (hx : w.activity? t = some (.calling c (.asking q next due) .deliver))
    (hk : w.container? c = some k) (henabled : w.isEnabled t = true) :
    ∃ a, w.dialogueStep? rules cluster t = some ⟨t, .deliver, c, k, .answer q a, next a⟩ := by
  obtain ⟨task, ht, hact, hd⟩ := hw.exists_task hx
  obtain ⟨cell, hc, rfl⟩ := Option.map_eq_some_iff.1 hk
  refine ⟨(cluster.answer w.cluster q).2, ?_⟩
  simp [dialogueStep?, ht, henabled, hd, hact, hc, utterance?]

/-- Whoever waited out a delay comes for the lock when it is over. -/
lemma step_of_resting (hw : w.Reached rules cluster) {due : Nat}
    (hx : w.activity? t = some (.calling c (.resting e due) .deliver))
    (hk : w.container? c = some k) (henabled : w.isEnabled t = true) :
    w.step rules cluster t = w.call t c e .deliver ∧ w.dialogueStep? rules cluster t = none := by
  obtain ⟨task, ht, hact, hd⟩ := hw.exists_task hx
  obtain ⟨cell, hc, rfl⟩ := Option.map_eq_some_iff.1 hk
  constructor
  · simp [step, ht, henabled, hd, hact, hc, stepCall]
  · simp [dialogueStep?, ht, henabled, hd, hact, hc, utterance?]

/-- Whoever comes for the lock of a container to which nobody else comes has it at once. -/
lemma dialogueStep?_of_arriving (hw : w.Reached rules cluster)
    (hx : w.activity? t = some (.calling c (.arriving e) .deliver))
    (hk : w.container? c = some k) (halone : w.Alone t c) :
    w.dialogueStep? rules cluster t =
      some ⟨t, .deliver, c, k, .operation e, e.hold rules.policy k⟩ := by
  obtain ⟨state, bus, actions, rfl⟩ := hw
  obtain ⟨cell, hc, rfl⟩ := Option.map_eq_some_iff.1 hk
  exact dialogueStep?_of_allRestBut hx rfl halone.allRestBut hc

end Reached

namespace Stands

/-- Where a caller stands after he said something. -/
lemma of_dialogueStep {trigger : Trigger} {said : List CallStep} {d : Dialogue Turn}
    (hs : w.dialogueStep? rules cluster t = some ⟨t, .deliver, c, k, trigger, d⟩)
    {before : Container} (h : Leads rules.policy first begun steps before e)
    (hd : (e.hold rules.policy before).Hears (said ++ trigger.steps) d)
    (hn : n ≤ weight (steps ++ (said ++ trigger.steps)) + 2) :
    (w.act rules cluster (.step t)).Stands t rules.policy first begun c
      (steps ++ said ++ w.heard rules cluster [.step t] c)
      (queriesOf (steps ++ (said ++ trigger.steps)) ++ w.queries rules cluster [.step t] c) n := by
  have hchange := act_change rules cluster w (.step t)
  rw [dialogueStepOf?, hs] at hchange
  obtain ⟨x', hx', hproceeds⟩ := proceeds_of_dialogueStep hs rfl
  obtain ⟨hheard, hasked⟩ := said_of_dialogueStep hs
  refine ⟨x', d.container, hx', (container?_of_dialogueStep hchange).2, ?_⟩
  rw [hheard, hasked, DialogueStep.steps, ← List.append_assoc, List.append_assoc steps]
  exact hproceeds.standing h hd hn

lemma purpose {policy : RetryPolicy} (h : w.Stands t policy first begun c steps asked n)
    {s : DialogueStep} (hs : w.dialogueStep? rules cluster t = some s) : s.purpose = .deliver := by
  obtain ⟨x, k, hx, -, h⟩ := h
  have hchange := act_change rules cluster w (.step t)
  rw [dialogueStepOf?, hs] at hchange
  obtain ⟨stage, hcalling, -⟩ := activity?_of_dialogueStep hchange
  cases eq_step_of_dialogueStep hchange
  cases hx.symm.trans hcalling
  exact h.calling

/-- A caller to whose container nobody else comes goes on. -/
lemma step (h : w.Stands t rules.policy first begun c steps asked n)
    (hw : w.Reached rules cluster) (halone : w.Alone t c) (henabled : w.isEnabled t = true) :
    (w.act rules cluster (.step t)).Stands t rules.policy first begun c
      (steps ++ w.heard rules cluster [.step t] c)
      (asked ++ w.queries rules cluster [.step t] c) (n + 1) := by
  obtain ⟨x, k, hx, hk, h⟩ := h
  cases h with
  | fresh =>
    obtain ⟨state, bus, actions, rfl⟩ := hw
    obtain ⟨hstep, hnone⟩ := step_of_fresh_run hx
    rw [World.act, hstep, (said_of_none hnone).1, (said_of_none hnone).2]
    exact ⟨_, first, activity?_goOn_of_some hx _, hk, .arriving .start (Nat.le_refl 1)⟩
  | @arriving _ _ e h _ hn =>
    have hs := hw.dialogueStep?_of_arriving hx hk halone
    have hheard : (e.hold rules.policy k).Hears ([] ++ Trigger.steps (.operation e))
        (e.hold rules.policy k) := .nil _
    have hstands := of_dialogueStep (n := n + 1) hs h hheard (by
      rw [Trigger.steps, List.append_nil, List.append_nil]
      omega)
    simpa [Trigger.steps] using hstands
  | resting h hn due =>
    obtain ⟨hstep, hnone⟩ := hw.step_of_resting hx hk henabled
    rw [World.act, hstep, (said_of_none hnone).1, (said_of_none hnone).2, List.append_nil,
      List.append_nil]
    exact ⟨_, k, activity?_goOn_of_some hx _, hk, .arriving h (Nat.succ_le_succ hn)⟩
  | asking h hd hn due =>
    obtain ⟨a, hs⟩ := hw.dialogueStep?_of_asking hx hk henabled
    have hstands := of_dialogueStep (n := n + 1) hs h (hd.snoc a) (by
      rw [← List.append_assoc, weight_append]
      exact Nat.succ_le_succ hn)
    simpa [Trigger.steps] using hstands
  | replied h hd hn =>
    obtain ⟨task, ht, hact⟩ := Option.map_eq_some_iff.1 hx
    simp [isEnabled, ht, Task.isFinished, hact] at henabled

/-- Whatever happens in a world in which nobody else comes to the container of a caller, he stays
where he stands or goes on. -/
lemma act (h : w.Stands t rules.policy first begun c steps asked n)
    (hw : w.Reached rules cluster) (halone : w.Alone t c) {a : Action σ} (hdrop : a ≠ .drop t) :
    (w.act rules cluster a).Stands t rules.policy first begun c
      (steps ++ w.heard rules cluster [a] c) (asked ++ w.queries rules cluster [a] c)
      (n + turns rules cluster t w [a]) := by
  rw [turns_singleton]
  by_cases hstep : a = .step t
  · subst hstep
    by_cases henabled : w.isEnabled t = true
    · have hgoes : w.goesOnIn t (.step t) = true := by simp [goesOnIn, henabled]
      rw [hgoes]
      exact h.step hw halone henabled
    · rw [Bool.not_eq_true] at henabled
      have hgoes : w.goesOnIn t (.step t) = false := by simp [goesOnIn, henabled]
      obtain ⟨hheard, hasked⟩ :=
        said_of_none (c := c) (dialogueStep?_of_not_isEnabled henabled)
      rw [hgoes, hheard, hasked, World.act, step_of_not_isEnabled henabled]
      simpa using h
  · obtain ⟨x, k, hx, hk, h⟩ := h
    have hchange := act_change rules cluster w a
    -- whoever talks about the container would call on it
    have helsewhere : ∀ s, w.dialogueStepOf? rules cluster a = some s → s.cell ≠ c := by
      rintro s hs rfl
      rw [hs] at hchange
      obtain ⟨stage, hcalling, -⟩ := activity?_of_dialogueStep hchange
      refine halone s.task ?_ stage s.purpose hcalling
      rintro rfl
      exact hstep (eq_step_of_dialogueStep hchange)
    have hgoes : w.goesOnIn t a = false := by
      cases a with
      | step i =>
        have hne : i ≠ t := fun he => hstep (congrArg Action.step he)
        simp [goesOnIn, hne]
      | _ => rfl
    obtain ⟨hheard, hasked⟩ := said_of_ne helsewhere
    rw [hgoes, hheard, hasked]
    refine ⟨x, k, activity?_of_change_of_ne hchange hx hstep hdrop,
      (container?_of_ne hchange (lt_of_container? hk) helsewhere).trans hk, ?_⟩
    simpa using h

/-- Whoever has not come to the end of his call can go on after some time. -/
lemma exists_isEnabled {policy : RetryPolicy}
    (h : w.Stands t policy first begun c steps asked n) (hw : w.Reached rules cluster)
    (hnot : w.result? t = none) :
    ∃ millis, (w.act rules cluster (.pass millis)).isEnabled t = true := by
  obtain ⟨x, k, hx, -, h⟩ := h
  have hcalling : ∀ {stage due}, x = .calling c stage .deliver →
      (∀ w : World σ, due ≤ w.clock → w.callReady t c stage = true) →
      ∃ millis, (w.act rules cluster (.pass millis)).isEnabled t = true := by
    rintro stage due rfl hready
    refine ⟨due, ?_⟩
    rw [(hw.act (.pass due)).isEnabled_of_calling (by exact hx)]
    exact hready _ (Nat.le_add_left ..)
  cases h with
  | fresh =>
    obtain ⟨task, ht, hact⟩ := Option.map_eq_some_iff.1 hx
    refine ⟨0, ?_⟩
    have ht' : (w.act rules cluster (.pass 0)).task? t = some task := ht
    simp [isEnabled, ht', Task.isFinished, hact, isReady]
  | arriving => exact @hcalling _ 0 rfl fun _ _ => rfl
  | resting h hn due => exact hcalling rfl fun _ => decide_eq_true
  | asking h hd hn due => exact hcalling rfl fun _ => decide_eq_true
  | replied => cases hnot.symm.trans (result?_of_activity? hx)

end Stands

/-- Throughout a run in which nobody else comes to the container of a caller and he is not dropped,
he stands where all that happened to him leads. -/
lemma Reached.stands (hw : w.Reached rules cluster)
    (hx : w.activity? t = some (.fresh (.call c begun))) (hk : w.container? c = some first)
    (h : Throughout rules cluster w later fun w a => w.Alone t c ∧ a ≠ .drop t) :
    (w.play rules cluster later).Stands t rules.policy first begun c
      (w.heard rules cluster later c) (w.queries rules cluster later c)
      (turns rules cluster t w later) := by
  induction later using List.reverseRecOn with
  | nil => exact ⟨_, _, hx, hk, .fresh⟩
  | append_singleton later a ih =>
    obtain ⟨hbefore, halone, hdrop⟩ := h.of_concat
    rw [play_concat, turns_append, heard_append, queries_append]
    exact (ih hbefore).act (hw.play later) halone hdrop

lemma activity?_play_of_turns (hx : w.activity? t = some x)
    (hnot : turns rules cluster t w later = 0) (hkept : .drop t ∉ later) :
    (w.play rules cluster later).activity? t = some x := by
  induction later using List.reverseRecOn with
  | nil => exact hx
  | append_singleton later a ih =>
    rw [turns_append, turns_singleton, Nat.add_eq_zero_iff, Bool.toNat_eq_zero] at hnot
    rw [List.mem_append, not_or, List.mem_singleton] at hkept
    have hbefore := ih hnot.1 hkept.1
    rw [play_concat]
    by_cases hstep : a = .step t
    · subst hstep
      have henabled : (w.play rules cluster later).isEnabled t = false := by
        simpa [goesOnIn] using hnot.2
      rwa [World.act, step_of_not_isEnabled henabled]
    · exact activity?_of_change_of_ne (act_change rules cluster _ a) hbefore hstep
        (Ne.symm hkept.2)

/-- A caller who was told to come back can go on as soon as his delay is over, and not before. -/
lemma Reached.isEnabled_iff_of_turned (hw : w.Reached rules cluster) {s : DialogueStep}
    {delay : Nat} (hs : w.dialogueStep? rules cluster t = some s) (hp : s.purpose = .deliver)
    (hr : s.dialogue.result? = some (.again delay e))
    (hnot : turns rules cluster t (w.act rules cluster (.step t)) later = 0)
    (hkept : .drop t ∉ later) :
    ((w.act rules cluster (.step t)).play rules cluster later).isEnabled t = true ↔
      delay = 0 ∨
        w.clock + delay ≤ ((w.act rules cluster (.step t)).play rules cluster later).clock := by
  obtain ⟨x, hx, hproceeds⟩ := proceeds_of_dialogueStep hs hp
  obtain rfl : x = .calling s.cell (if delay = 0 then .arriving e else
      .resting e (w.clock + delay)) .deliver := by
    generalize s.dialogue = d at hr hproceeds
    cases hproceeds with
    | asks | ends => cases hr
    | turns =>
      cases hr
      rfl
  -- he waits all the time, since nobody else moves him
  have hlater := activity?_play_of_turns (by exact hx) hnot hkept
  rw [((hw.act (.step t)).play later).isEnabled_of_calling hlater]
  by_cases hdelay : delay = 0
  · simp [hdelay, callReady]
  · simp [hdelay, callReady]

/-! ### Recovery in order -/

/-- What comes of a call that polls a running container with a run, in a run of the world. -/
structure RecoversInOrder (rules : Rules) (cluster : Cluster σ) (w : World σ) (t : TaskId)
    (c : CellId) (first : Container) (known : RunId) (later : List (Action σ)) : Prop where
  /-- If the call has ended, what happened to the caller is one question for the run, and then
  attempts in their order, up to a clear answer or to the last attempt; the result and the
  container are what that comes to, and nothing else was asked about the container. -/
  ends : ∀ result, (w.play rules cluster later).result? t = some result →
    ∃ reply k, result = callResult reply ∧
      (w.play rules cluster later).container? c = some k ∧
      PollOutcome rules.policy first.identity known (w.heard rules cluster later c) reply k ∧
      w.queries rules cluster later c = queriesOf (w.heard rules cluster later c)
  /-- While the caller waits out the delay before an attempt he cannot go on, and afterwards he
  can. -/
  waits : ∀ before between s delay e, later = before ++ .step t :: between →
    (w.play rules cluster before).dialogueStep? rules cluster t = some s →
    s.dialogue.result? = some (.again delay e) →
    turns rules cluster t (w.play rules cluster (before ++ [.step t])) between = 0 →
      ((w.play rules cluster later).isEnabled t = true ↔
        delay = 0 ∨
          (w.play rules cluster before).clock + delay ≤ (w.play rules cluster later).clock)
  /-- One status is asked for, and two for each attempt, at most. -/
  polls : (w.queries rules cluster later c).countP Query.isPoll ≤
    1 + 2 * rules.policy.maxAttempts.toNat
  /-- The run of the job is asked for once for each attempt, at most. -/
  finds : (w.queries rules cluster later c).countP Query.isFind ≤ rules.policy.maxAttempts.toNat
  /-- The caller goes on only so often. -/
  turns : turns rules cluster t w later ≤ 5 + 7 * rules.policy.maxAttempts.toNat
  /-- As long as his call has not ended he can go on, after some time. -/
  goesOn : (w.play rules cluster later).result? t = none →
    ∃ millis, ((w.play rules cluster later).act rules cluster (.pass millis)).isEnabled t = true

/-- In every world that a run leads to, whatever the cluster answers: if somebody begins to poll a
container that runs and nobody else comes to it meanwhile, recovery goes in order. -/
theorem recoversInOrder_run (rules : Rules) (cluster : Cluster σ) (state : σ)
    (bus : EventBus ContainerEvent) (actions later : List (Action σ)) (t : TaskId) (c : CellId)
    (first : Container) (known : RunId)
    (hx : ((empty state bus).play rules cluster actions).activity? t =
      some (.fresh (.call c .poll)))
    (hk : ((empty state bus).play rules cluster actions).container? c = some first)
    (hstate : first.state = .running) (hrun : first.runId = some known)
    (h : Throughout rules cluster ((empty state bus).play rules cluster actions) later fun w a =>
      w.Alone t c ∧ a ≠ .drop t) :
    RecoversInOrder rules cluster ((empty state bus).play rules cluster actions) t c first known
      later := by
  have hfirst : first.RunsAs known := by
    obtain ⟨new, -, hlife⟩ := life_of_container? hk
    exact ⟨hstate, hrun, hlife.recorded.sound.1.clear (.inr (.inr hstate))⟩
  have hw : ((empty state bus).play rules cluster actions).Reached rules cluster :=
    ⟨state, bus, actions, rfl⟩
  have hstands := hw.stands hx hk h
  obtain ⟨x, k, hx', hk', hstanding⟩ := id hstands
  obtain ⟨hpolls, hfinds, hturns⟩ := hstanding.bounds hfirst
  refine ⟨?_, ?_, hpolls, hfinds, hturns, hstands.exists_isEnabled (hw.play later)⟩
  · intro result hresult
    cases hx'.symm.trans (result?_eq hresult)
    obtain ⟨reply, hreply, houtcome, hasked⟩ := hstanding.outcome hfirst
    exact ⟨reply, k, hreply, hk', houtcome, hasked⟩
  · rintro before between s delay e rfl hs hr hnot
    have hbefore : Throughout rules cluster _ before _ :=
      List.take_left ▸ h.take before.length
    have hp := (hw.stands hx hk hbefore).purpose hs
    have hkept : .drop t ∉ between := by
      intro hmem
      obtain ⟨n, hn⟩ := List.mem_iff_getElem?.1
        (List.mem_append_right before (List.mem_cons_of_mem (Action.step t) hmem))
      exact (h n _ hn).2 rfl
    rw [play_concat] at hnot
    rw [play_append]
    exact (hw.play before).isEnabled_iff_of_turned hs hp hr hnot hkept

/-- A container is shared, and somebody begins to poll it. -/
def polledOnce : List (Action Unit) :=
  [.share (.bare ⟨"a"⟩) (some ⟨"r"⟩), .request (.call 0 .poll)]

/-- The caller hears that the run is unknown, waits for a millisecond, makes an attempt, and hears
the same and that there is no run for the job. -/
def inVain : List (Action Unit) :=
  [.step 0, .step 0, .step 0, .step 0, .pass 1, .step 0, .step 0, .step 0, .step 0, .step 0]

/-- Where one attempt is allowed, the container is given up after it. -/
theorem recoversInOrder_inVain :
    let rules : Rules := ⟨⟨1, 1, 1⟩, .standard⟩
    let w := (empty () ⟨8, 0, [], [], 0⟩).play rules .oblivious polledOnce
    (w.play rules .oblivious inVain).result? 0 =
        some (.error (.container (.recoveryExhausted ⟨"a"⟩ (some ⟨"r"⟩) 1))) ∧
      RecoversInOrder rules .oblivious w 0 0 (.restore (.bare ⟨"a"⟩) ⟨"r"⟩) ⟨"r"⟩ inVain := by
  intro rules w
  refine ⟨by decide, recoversInOrder_run rules .oblivious () ⟨8, 0, [], [], 0⟩ polledOnce inVain 0 0
    _ _ rfl rfl rfl rfl fun n a ha => ⟨fun i hi stage p hx => ?_, ?_⟩⟩
  · -- there is one task all the time
    have hone : ∀ n < inVain.length,
        (w.play rules .oblivious (inVain.take n)).tasks.length = 1 := by decide
    have hlt := lt_of_activity? hx
    rw [hone n (List.getElem?_eq_some_iff.1 ha).1] at hlt
    exact hi (Nat.lt_one_iff.1 hlt)
  · rintro rfl
    have hmem := List.mem_of_getElem? ha
    simp [inVain] at hmem

end World

end Supervision

end JobSupervision
