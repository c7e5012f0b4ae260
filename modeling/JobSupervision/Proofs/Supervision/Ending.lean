/-
# Ends of containers

The state of a container changes only as it may, and every change is told.  A container that
has ended stays as it is for good: whoever calls on it afterwards, or comes back from a wait, is
shown the container, nothing is asked about it and nothing is published.  The call that brings a
container to its end shows the end too, with two exceptions: a caller who gives the container up
is told that the attempts are used up, and a caller whose job was refused is told why.
-/
import JobSupervision.Proofs.Supervision.Course
import JobSupervision.Proofs.Supervision.Record

namespace JobSupervision

namespace Supervision

variable {σ : Type} {rules : Rules} {cluster : Cluster σ} {w : World σ}

/-- Whether a dialogue step ends a call by showing a container, or its state if the call asks for
that. -/
def DialogueStep.Shows (k : Container) (s : DialogueStep) : Prop :=
  s.reply? = some (GuardedOperation.present k) ∨
    s.trigger = .operation .state ∧ s.reply? = some (.ok (.state k.state))

/-- Whether the caller gives the container up and is told that the attempts are used up. -/
def DialogueStep.GivesUp (s : DialogueStep) : Prop :=
  (∃ attempted, s.trigger = .operation (.weigh attempted)) ∧
    s.reply? = some (.error
      (.recoveryExhausted s.before.jobId s.before.runId s.before.recoveryAttempts))

/-- Whether the caller has the job refused and is told why. -/
def DialogueStep.IsRefused (s : DialogueStep) : Prop :=
  ∃ i e, s.trigger = .answer (.submit i) (.error e) ∧ s.reply? = some (.error e)

/-- Whether a container comes to its end in a run as it may, for good, and quietly.  Callers
that are excused need not be shown the end when they bring it about. -/
structure EndsQuietly (excused : DialogueStep → Prop) (rules : Rules) (cluster : Cluster σ)
    (w : World σ) (actions : List (Action σ)) (c : CellId) : Prop where
  /-- From one moment to the next the state changes only as it may. -/
  allowed : ∀ n k k', (w.play rules cluster (actions.take n)).container? c = some k →
    (w.play rules cluster (actions.take (n + 1))).container? c = some k' →
      k'.state = k.state ∨ k.state.canBecome k'.state = true
  /-- What is said changes the state once at most, as it may, and tells the change. -/
  told : ∀ s ∈ about c (w.history rules cluster actions),
    s.dialogue.events.filterMap EventPayload.change? = [] ∧ s.after.state = s.before.state ∨
      s.dialogue.events.filterMap EventPayload.change? = [(s.before.state, s.after.state)] ∧
        s.before.state.canBecome s.after.state = true
  /-- A container that has ended stays as it is. -/
  stays : ∀ n m k, n ≤ m → (w.play rules cluster (actions.take n)).container? c = some k →
    k.state.isTerminal = true → (w.play rules cluster (actions.take m)).container? c = some k
  /-- Whatever is said about it afterwards shows it, asks nothing and publishes nothing. -/
  quiet : ∀ n k, (w.play rules cluster (actions.take n)).container? c = some k →
    k.state.isTerminal = true →
      ∀ s ∈ about c ((w.play rules cluster (actions.take n)).history rules cluster
          (actions.drop n)),
        s.Shows k ∧ s.query? = none ∧ s.dialogue.events = []
  /-- Whoever's call on it ends afterwards, other than by being dropped, has it as the result, or
  its state after a call that asks for that. -/
  results : ∀ n m k t stage r, n ≤ m →
    (w.play rules cluster (actions.take n)).container? c = some k → k.state.isTerminal = true →
      (w.play rules cluster (actions.take m)).activity? t = some (.calling c stage .deliver) →
      (w.play rules cluster (actions.take (m + 1))).activity? t = some (.finished r) →
        r = .ok .nothing ∨ r = callResult (GuardedOperation.present k) ∨
          stage.operation? = some .state ∧ r = callResult (.ok (.state k.state))
  /-- Whoever brings it to its end is shown the end or is excused. -/
  ending : ∀ s ∈ about c (w.history rules cluster actions), s.before.state.isTerminal = false →
    s.after.state.isTerminal = true →
      s.query? = none ∧ (s.reply? = some (GuardedOperation.present s.after) ∨ excused s)

namespace World

/-- From one moment to the next the state of a container changes only as it may. -/
lemma Attentive.canBecome_act (hatt : w.Attentive rules.policy) {c : CellId} {k k' : Container}
    (hk : w.container? c = some k) (a : Action σ)
    (hk' : (w.act rules cluster a).container? c = some k') :
    k'.state = k.state ∨ k.state.canBecome k'.state = true := by
  have hchange := act_change rules cluster w a
  by_cases hsaid : ∃ s, w.dialogueStepOf? rules cluster a = some s ∧ s.cell = c
  · obtain ⟨s, hs, rfl⟩ := hsaid
    rw [hs] at hchange
    obtain ⟨hbefore, hafter⟩ := container?_of_dialogueStep hchange
    cases hk.symm.trans hbefore
    cases hk'.symm.trans hafter
    exact (hatt.exchange hchange).canBecome
  · have hsame := container?_of_ne hchange (lt_of_container? hk) fun s hs hc => hsaid ⟨s, hs, hc⟩
    rw [hsame, hk] at hk'
    cases hk'
    exact .inl rfl

/-- A dialogue step about a container that has ended shows it and leaves it as it is. -/
lemma Attentive.shows_of_isTerminal (hatt : w.Attentive rules.policy) {a : Action σ}
    {s : DialogueStep} (hs : w.dialogueStepOf? rules cluster a = some s) {k : Container}
    (hk : w.container? s.cell = some k) (hend : k.state.isTerminal = true) :
    (s.Shows k ∧ s.query? = none ∧ s.dialogue.events = []) ∧
      (w.act rules cluster a).container? s.cell = some k := by
  have hchange := act_change rules cluster w a
  rw [hs] at hchange
  obtain ⟨hbefore, hafter⟩ := container?_of_dialogueStep hchange
  cases hk.symm.trans hbefore
  obtain ⟨v, hd, hv⟩ := (hatt.exchange hchange).of_isTerminal hend
  have hreply : s.reply? = some (.ok v) := by
    rw [DialogueStep.reply?, hd]
    rfl
  refine ⟨⟨?_, ?_, ?_⟩, ?_⟩
  · rcases hv with rfl | ⟨htrigger, rfl⟩
    · exact .inl hreply
    · exact .inr ⟨htrigger, hreply⟩
  · rw [DialogueStep.query?, hd]
    rfl
  · rw [hd]
    rfl
  · rw [hafter, DialogueStep.after, hd]
    rfl

/-- A container that has ended stays as it is, and whatever is said about it shows it. -/
lemma Attentive.quiet_of_isTerminal (hatt : w.Attentive rules.policy) (cluster : Cluster σ)
    {c : CellId} {k : Container} (hk : w.container? c = some k) (hend : k.state.isTerminal = true)
    (actions : List (Action σ)) :
    (w.play rules cluster actions).container? c = some k ∧
      ∀ s ∈ about c (w.history rules cluster actions),
        s.Shows k ∧ s.query? = none ∧ s.dialogue.events = [] := by
  induction actions generalizing w with
  | nil => exact ⟨hk, fun s hs => by cases hs⟩
  | cons a rest ih =>
    have hchange := act_change rules cluster w a
    have hatt' := hatt.change hchange
    rw [history, about_append]
    by_cases hsaid : ∃ s, w.dialogueStepOf? rules cluster a = some s ∧ s.cell = c
    · obtain ⟨s, hs, rfl⟩ := hsaid
      obtain ⟨hshows, hk'⟩ := hatt.shows_of_isTerminal hs hk hend
      obtain ⟨hlast, hrest⟩ := ih hatt' hk'
      refine ⟨hlast, fun s' hs' => ?_⟩
      rw [hs, Option.toList_some, about_singleton] at hs'
      rcases List.mem_append.1 hs' with hs' | hs'
      · rw [List.mem_singleton.1 hs']
        exact hshows
      · exact hrest s' hs'
    · have hne : ∀ s, w.dialogueStepOf? rules cluster a = some s → s.cell ≠ c := fun s hs hc =>
        hsaid ⟨s, hs, hc⟩
      have hk' := (container?_of_ne hchange (lt_of_container? hk) hne).trans hk
      rw [about_eq_nil fun s hs => hne s (Option.mem_toList.1 hs), List.nil_append]
      exact ih hatt' hk'

/-- A call on a container that has ended, if it ends and is not dropped, has the container as its
result, or the state of the container if it asks for that. -/
lemma Attentive.result_of_isTerminal (hatt : w.Attentive rules.policy) {a : Action σ}
    {c : CellId} {k : Container} (hk : w.container? c = some k) (hend : k.state.isTerminal = true)
    {t : TaskId} {stage : CallStage} {r : TaskResult}
    (hx : w.activity? t = some (.calling c stage .deliver))
    (hr : (w.act rules cluster a).activity? t = some (.finished r)) :
    r = .ok .nothing ∨ r = callResult (GuardedOperation.present k) ∨
      stage.operation? = some .state ∧ r = callResult (.ok (.state k.state)) := by
  rcases result_of_change (act_change rules cluster w a) hx hr with
    hnothing | ⟨s, hs, rfl, -, hfits, reply, hreply, rfl⟩
  · exact .inl hnothing
  · obtain ⟨⟨hshown | ⟨htrigger, hshown⟩, -⟩, -⟩ := hatt.shows_of_isTerminal hs hk hend
    · cases hreply.symm.trans hshown
      exact .inr (.inl rfl)
    · cases hreply.symm.trans hshown
      rw [htrigger] at hfits
      exact .inr (.inr ⟨CallStage.operation?_of_fits hfits, rfl⟩)

/-- In every run, whatever containers there are at its beginning and whatever tasks call on
them: a container comes to its end as it may, for good, and quietly, where a caller who gives it
up is excused, and one whose job was refused. -/
theorem endsQuietly_run (rules : Rules) (cluster : Cluster σ) (state : σ)
    (bus : EventBus ContainerEvent) (containers : List Container) (actions : List (Action σ))
    (c : CellId) :
    EndsQuietly (fun s => s.GivesUp ∨ s.IsRefused) rules cluster (holding state bus containers)
      actions c := by
  have hatt : ∀ n, ((holding state bus containers).play rules cluster
      (actions.take n)).Attentive rules.policy := fun n =>
    attentive_play rules cluster (attentive_holding _ state bus containers) _
  have hexchange : ∀ s ∈ about c ((holding state bus containers).history rules cluster actions),
      Exchange rules.policy s.before s.trigger s.dialogue := fun s hs =>
    exchange_of_mem_history (attentive_holding _ state bus containers) (List.mem_filter.1 hs).1
  have hstays : ∀ n m k, n ≤ m →
      ((holding state bus containers).play rules cluster (actions.take n)).container? c = some k →
      k.state.isTerminal = true →
      ((holding state bus containers).play rules cluster (actions.take m)).container? c =
        some k := by
    intro n m k hle hk hend
    obtain ⟨i, rfl⟩ := Nat.exists_eq_add_of_le hle
    rw [List.take_add, play_append]
    exact ((hatt n).quiet_of_isTerminal cluster hk hend _).1
  refine ⟨?_, fun s hs => (hexchange s hs).change, hstays,
    fun n k hk hend => ((hatt n).quiet_of_isTerminal cluster hk hend _).2, ?_, ?_⟩
  · intro n k k' hk hk'
    cases ha : actions[n]? with
    | none =>
      rw [List.take_add_one, ha, Option.toList_none, List.append_nil, hk] at hk'
      cases hk'
      exact .inl rfl
    | some a =>
      rw [play_take_succ rules cluster _ ha] at hk'
      exact (hatt n).canBecome_act hk a hk'
  · intro n m k t stage r hle hk hend hx hr
    cases ha : actions[m]? with
    | none =>
      rw [List.take_add_one, ha, Option.toList_none, List.append_nil, hx] at hr
      cases hr
    | some a =>
      rw [play_take_succ rules cluster _ ha] at hr
      exact (hatt m).result_of_isTerminal (hstays n m k hle hk hend) hend hx hr
  · intro s hs hbefore hafter
    obtain ⟨events, reply, hd, hreply⟩ := (hexchange s hs).reply_of_end hbefore hafter
    have hreply? : s.reply? = some reply := by
      rw [DialogueStep.reply?, hd]
      rfl
    refine ⟨by rw [DialogueStep.query?, hd]; rfl, ?_⟩
    rw [hreply?]
    rcases hreply with hshown | ⟨htrigger, hgiven⟩ | ⟨i, e, htrigger, hrefused⟩
    · exact .inl (congrArg some hshown)
    · exact .inr (.inl ⟨htrigger, hreply?.trans (congrArg some hgiven)⟩)
    · exact .inr (.inr ⟨i, e, htrigger, hreply?.trans (congrArg some hrefused)⟩)

/-- A cluster that accepts no job. -/
def refusing : Cluster Unit :=
  .steady (fun identity => .error (.submission identity.jobId "quota exceeded")) .unknown none

/-- A job is submitted once, and it is refused. -/
def refusedRun : List (Action Unit) :=
  [.share (.bare ⟨"a"⟩) none, .request (.call 0 .run), .step 0, .step 0, .step 0]

/-- If only callers who give the container up are excused, a caller whose job is refused does not
comply: the container has ended, and the caller is not shown the end. -/
theorem not_endsQuietly_refusedRun :
    ¬ EndsQuietly DialogueStep.GivesUp ⟨.standard, .standard⟩ refusing
      (holding () ⟨8, 0, [], [], 0⟩ []) refusedRun 0 := by
  intro h
  have hmem := List.mem_of_getElem? (l := about 0 ((holding () ⟨8, 0, [], [], 0⟩ []).history
    ⟨.standard, .standard⟩ refusing refusedRun)) (i := 1) rfl
  rcases (h.ending _ hmem rfl rfl).2 with hshown | ⟨-, hgiven⟩
  · cases hshown
  · cases hgiven

end World

end Supervision

end JobSupervision
