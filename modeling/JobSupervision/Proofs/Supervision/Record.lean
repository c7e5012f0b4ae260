/-
# Records

The record of a container tells everything that it went through: what its owner did with it
alone, and then what was said about it in a run.  Every passage in a record is in the list of
dialogue steps, or gives the job up (`Passage.Fits`), and each begins with the container as the one
before left it (`Recorded`).  What holds of new containers and is kept by such passages
therefore holds of every form that a container ever has (`Recorded.invariant`).
-/
import JobSupervision.Proofs.Supervision.History
import JobSupervision.Supervision.Possession

namespace JobSupervision

open Supervision

/-- The passages that there can be. -/
inductive Passage.Fits (policy : RetryPolicy) : Passage → Prop where
  /-- Somebody says something about the container. -/
  | said {c : Container} {trigger : Trigger} {d : Dialogue Turn} (h : Exchange policy c trigger d) :
      Fits policy ⟨c, .trigger trigger, d.container, d.events, d.query?⟩
  /-- The owner gives the job up. -/
  | verdict (c : Container) (reason : String) :
      Fits policy
        ⟨c, .verdict reason, (c.fail reason).container, (c.fail reason).events, none⟩

/-- The record of a container: its first form, what it went through, and what it is now. -/
inductive Recorded (policy : RetryPolicy) (first : Container) :
    List Passage → Container → Prop where
  /-- The container has just come into being. -/
  | start (h : IsNew first) : Recorded policy first [] first
  /-- One more passage. -/
  | passage {record : List Passage} (p : Passage) (h : Recorded policy first record p.before)
      (hp : p.Fits policy) : Recorded policy first (record ++ [p]) p.after

namespace Recorded

variable {policy : RetryPolicy} {first k : Container} {record : List Passage}

/-- What holds of new containers and is kept by every passage holds of every form that a
container ever has. -/
theorem invariant {P : Container → Prop} (hnew : ∀ k, IsNew k → P k)
    (hstep : ∀ p : Passage, p.Fits policy → P p.before → P p.after)
    (h : Recorded policy first record k) : P k ∧ ∀ p ∈ record, P p.before := by
  induction h with
  | start h => exact ⟨hnew _ h, fun p hp => by cases hp⟩
  | @passage record p h hp ih =>
    obtain ⟨hbefore, hrecord⟩ := ih
    refine ⟨hstep p hp hbefore, fun q hq => ?_⟩
    rcases List.mem_append.1 hq with hq | hq
    · exact hrecord q hq
    · rw [List.mem_singleton.1 hq]
      exact hbefore

lemma isNew_first (h : Recorded policy first record k) : IsNew first := by
  induction h with
  | start h => exact h
  | passage p h hp ih => exact ih

lemma of_append {p : Passage} {later : List Passage}
    (h : Recorded policy first (record ++ p :: later) k) :
    Recorded policy first record p.before ∧ p.Fits policy := by
  induction later using List.reverseRecOn generalizing k with
  | nil =>
    generalize hr : record ++ [p] = r at h
    cases h with
    | start => simp at hr
    | passage q h hq =>
      obtain ⟨rfl, hpq⟩ := List.append_inj' hr rfl
      cases hpq
      exact ⟨h, hq⟩
  | append_singleton later q ih =>
    generalize hr : record ++ p :: (later ++ [q]) = r at h
    cases h with
    | start => simp at hr
    | @passage r' q' h hq' =>
      have hr' : (record ++ p :: later) ++ [q] = r' ++ [q'] := by simpa using hr
      obtain ⟨rfl, -⟩ := List.append_inj' hr' rfl
      exact ih h

lemma fits (h : Recorded policy first record k) {p : Passage} (hp : p ∈ record) :
    p.Fits policy := by
  obtain ⟨earlier, later, rfl⟩ := List.append_of_mem hp
  exact h.of_append.2

/-! ### What the owner does -/

/-- The passages of a dialogue that consists of dialogue steps go on with a record. -/
lemma dialogue {d : Dialogue Turn} {c : Container} {trigger : Trigger}
    (h : Recorded policy first record c) (hd : d.Always (Exchange policy) c trigger)
    (answers : List Respondent) :
    Recorded policy first (record ++ d.passages c (.trigger trigger) answers)
      (c.through (d.passages c (.trigger trigger) answers)) := by
  induction d generalizing record c trigger answers with
  | done r => exact h.passage _ (.said hd)
  | ask c' events q next ih =>
    have hfirst := h.passage ⟨c, .trigger trigger, c', events, some q⟩ (.said hd.1)
    cases answers with
    | nil => exact hfirst
    | cons a rest =>
      have hrest := ih (a q) hfirst (hd.2 (a q)) rest
      rw [List.append_assoc] at hrest
      exact hrest

end Recorded

lemma Dialogue.passages_map {α β : Type} (f : Container → α → β) (d : Dialogue α)
    (before : Container) (cause : PassageCause) (answers : List Respondent) :
    (d.map f).passages before cause answers = d.passages before cause answers := by
  induction d generalizing before cause answers with
  | done r => rfl
  | ask c events q next ih =>
    cases answers with
    | nil => rfl
    | cons a rest => simp only [Dialogue.map, Dialogue.passages, ih]

namespace Recorded

variable {policy : RetryPolicy} {first c k : Container} {record : List Passage}

/-- An operation goes on with a record if its dialogue, with some result, consists of
dialogue steps. -/
lemma operation {d : Container.Operation}
    {f : Container → Except ContainerError ContainerState → Turn} {trigger : Trigger}
    (h : Recorded policy first record c)
    (hd : (d.map f).Always (Exchange policy) c trigger) (answers : List Respondent) :
    Recorded policy first (record ++ d.passages c (.trigger trigger) answers)
      (c.through (d.passages c (.trigger trigger) answers)) := by
  have hmap := h.dialogue hd answers
  rwa [Dialogue.passages_map] at hmap

/-- A container goes on with its record when it is used. -/
lemma use (h : Recorded policy first record c) (u : Use) :
    Recorded policy first (record ++ c.use u) (c.through (c.use u)) := by
  obtain ⟨action, answers⟩ := u
  cases action with
  | run => exact h.operation (always_run c) answers
  | poll => exact h.operation (always_poll c) answers
  | stop => exact h.operation (always_stop c) answers
  | fail reason => exact h.passage _ (.verdict c reason)
  | recover =>
    -- a container that is neither running nor in recovery is left as it is
    by_cases hc : GuardedOperation.needed c false = true
    · exact h.operation (always_recover (e := .attempt false) hc
        (GuardedOperation.active_of_needed hc))
        answers
    · have hstay : c.recover = Container.stay c := by
        unfold Container.recover
        split
        · simp_all [GuardedOperation.needed]
        · simp_all [GuardedOperation.needed]
        · rfl
      have hleave : GuardedOperation.Leaves c (.attempt false) := by
        simpa [GuardedOperation.Leaves] using hc
      have hexchange : Exchange policy c _ _ := .leave c _ hleave
      have hpassage := h.passage _ (.said hexchange)
      simp only [Container.use, OwnerAction.operation, hstay]
      exact hpassage

lemma useAll (h : Recorded policy first record c) (uses : List Use) :
    Recorded policy first (record ++ c.useAll uses) (c.through (c.useAll uses)) := by
  induction uses generalizing record c with
  | nil => simpa [Container.useAll] using h
  | cons u rest ih =>
    have hrest := ih (h.use u)
    rw [List.append_assoc] at hrest
    rw [Container.useAll, Container.through_append]
    exact hrest

end Recorded

/-- The life of a container in a run is a record of it. -/
lemma Supervision.Life.recorded {policy : RetryPolicy} {first k : Container}
    {said : List DialogueStep} (h : Life policy first said k) :
    Recorded policy first (said.map DialogueStep.passage) k := by
  induction h with
  | start h => exact .start h
  | dialogueStep s h hs ih =>
    rw [List.map_append]
    exact ih.passage s.passage (.said hs)

lemma Possession.isNew_first (p : Possession) : IsNew p.first := by
  obtain ⟨identity, restored, uses⟩ := p
  cases restored with
  | none => exact ⟨identity, .inl rfl⟩
  | some r => exact ⟨identity, .inr ⟨r, rfl⟩⟩

lemma Possession.recorded (p : Possession) (policy : RetryPolicy) :
    Recorded policy p.first p.record p.container :=
  (Recorded.start p.isNew_first).useAll p.uses

namespace Supervision

/-- The first form of a container in a run, which is a possession of its owner or came into
being in the run. -/
def origin? (owned : List Possession) (newcomers : List Container) (c : CellId) :
    Option Container :=
  (owned.map (·.first) ++ newcomers)[c]?

/-- The record of a container in a run: what its owner did with it before, and then what was
said about it. -/
def recordOf (owned : List Possession) (said : List DialogueStep) (c : CellId) : List Passage :=
  (owned[c]?).elim [] Possession.record ++ (about c said).map DialogueStep.passage

namespace World

variable {σ : Type} {rules : Rules} {cluster : Cluster σ} {w : World σ}

lemma attentive_holding (policy : RetryPolicy) (state : σ) (bus : EventBus ContainerEvent)
    (containers : List Container) : (holding state bus containers).Attentive policy :=
  attentive_of_tasks policy rfl

lemma container?_holding (state : σ) (bus : EventBus ContainerEvent)
    (containers : List Container) (c : CellId) :
    (holding state bus containers).container? c = containers[c]? := by
  simp [container?, cell?, holding, Function.comp_def]

/-- What is said about a container in one action goes on with its record. -/
lemma Attentive.recorded_act (hatt : w.Attentive rules.policy) (cluster : Cluster σ)
    {c : CellId} {first k : Container} {record : List Passage} (hk : w.container? c = some k)
    (h : Recorded rules.policy first record k) (a : Action σ) :
    ∃ k', (w.act rules cluster a).container? c = some k' ∧
      Recorded rules.policy first
        (record ++ (about c (w.dialogueStepOf? rules cluster a).toList).map
          DialogueStep.passage) k' := by
  have hchange := act_change rules cluster w a
  generalize w.dialogueStepOf? rules cluster a = s at hchange ⊢
  -- either something is said about the container, or the container stays
  by_cases hsaid : ∃ s', s = some s' ∧ s'.cell = c
  · obtain ⟨s', rfl, rfl⟩ := hsaid
    obtain ⟨hbefore, hafter⟩ := container?_of_dialogueStep hchange
    cases hk.symm.trans hbefore
    refine ⟨s'.after, hafter, ?_⟩
    rw [Option.toList_some, about_singleton]
    exact h.passage s'.passage (.said (hatt.exchange hchange))
  · have hne : ∀ s', s = some s' → s'.cell ≠ c := fun s' he hc => hsaid ⟨s', he, hc⟩
    refine ⟨k, (container?_of_ne hchange (lt_of_container? hk) hne).trans hk, ?_⟩
    rw [about_eq_nil fun s' hs' => hne s' (Option.mem_toList.1 hs')]
    simpa using h

/-- What is said about a container in a run goes on with its record. -/
lemma Attentive.recorded_play (hatt : w.Attentive rules.policy) (cluster : Cluster σ)
    {c : CellId} {first k : Container} {record : List Passage} (hk : w.container? c = some k)
    (h : Recorded rules.policy first record k) (actions : List (Action σ)) :
    ∃ k', (w.play rules cluster actions).container? c = some k' ∧
      Recorded rules.policy first
        (record ++ (about c (w.history rules cluster actions)).map DialogueStep.passage) k' := by
  induction actions generalizing w k record with
  | nil => exact ⟨k, hk, by simpa [history, about] using h⟩
  | cons a rest ih =>
    obtain ⟨k₁, hk₁, h₁⟩ := hatt.recorded_act cluster hk h a
    obtain ⟨k', hk', h'⟩ := ih (hatt.change (act_change rules cluster w a)) hk₁ h₁
    refine ⟨k', hk', ?_⟩
    rw [history, about_append, List.map_append, ← List.append_assoc]
    exact h'

lemma about_dialogueStepOf?_eq_nil {c : CellId} (hle : w.cells.length ≤ c) (a : Action σ) :
    about c (w.dialogueStepOf? rules cluster a).toList = [] := by
  refine about_eq_nil fun s hs hc => ?_
  have hchange := act_change rules cluster w a
  rw [Option.mem_toList.1 hs] at hchange
  have hlt := lt_of_container? (container?_of_dialogueStep hchange).1
  rw [hc] at hlt
  exact absurd hlt (Nat.not_lt_of_le hle)

lemma length_cells_le_play (rules : Rules) (cluster : Cluster σ) (w : World σ)
    (actions : List (Action σ)) : w.cells.length ≤ (w.play rules cluster actions).cells.length := by
  induction actions generalizing w with
  | nil => exact Nat.le_refl _
  | cons a rest ih =>
    exact Nat.le_trans (isNew_of_change (act_change rules cluster w a)).1
      (ih (w.act rules cluster a))

lemma about_history_eq_nil {c : CellId} {actions : List (Action σ)}
    (hle : (w.play rules cluster actions).cells.length ≤ c) :
    about c (w.history rules cluster actions) = [] := by
  induction actions generalizing w with
  | nil => rfl
  | cons a rest ih =>
    have hfirst := Nat.le_trans (length_cells_le_play rules cluster w (a :: rest)) hle
    rw [history, about_append, about_dialogueStepOf?_eq_nil hfirst, List.nil_append]
    exact ih hle

/-- A container that comes into being in a run has a record from then on. -/
lemma Attentive.recorded_newcomer (hatt : w.Attentive rules.policy) {c : CellId}
    {k : Container} {actions : List (Action σ)} (hle : w.cells.length ≤ c)
    (hk : (w.play rules cluster actions).container? c = some k) :
    ∃ first, (w.newcomers rules cluster actions)[c - w.cells.length]? = some first ∧
      Recorded rules.policy first
        ((about c (w.history rules cluster actions)).map DialogueStep.passage) k := by
  induction actions generalizing w with
  | nil => exact absurd (lt_of_container? hk) (Nat.not_lt_of_le hle)
  | cons a rest ih =>
    have hchange := act_change rules cluster w a
    have hatt' := hatt.change hchange
    obtain ⟨hgrow, hnew⟩ := isNew_of_change hchange
    rw [newcomers, history, about_append, about_dialogueStepOf?_eq_nil hle, List.nil_append]
    have hlen : (((w.act rules cluster a).cells.drop w.cells.length).map (·.container)).length =
        (w.act rules cluster a).cells.length - w.cells.length := by simp
    by_cases hlt : c < (w.act rules cluster a).cells.length
    -- the container comes into being with this action
    · obtain ⟨first, hfirst⟩ := exists_container? hlt
      obtain ⟨k', hk', hrecorded⟩ :=
        hatt'.recorded_play cluster hfirst (.start (hnew c first hle hfirst)) rest
      cases hk'.symm.trans hk
      refine ⟨first, ?_, hrecorded⟩
      have hindex := hlen ▸ Nat.sub_lt_sub_right hle hlt
      rw [List.getElem?_append_left hindex, List.getElem?_map, List.getElem?_drop,
        Nat.add_sub_cancel' hle]
      exact hfirst
    · have hle' := Nat.le_of_not_lt hlt
      obtain ⟨first, hfirst, hrecorded⟩ := ih hatt' hle' hk
      refine ⟨first, ?_, hrecorded⟩
      have hindex := hlen ▸ Nat.sub_le_sub_right hle' w.cells.length
      rw [List.getElem?_append_right hindex, hlen, Nat.sub_sub_sub_cancel_right hgrow]
      exact hfirst

/-- The record of a container in a run leads from its first form to what it is now. -/
lemma recorded_of_container? {state : σ} {bus : EventBus ContainerEvent}
    {owned : List Possession} {actions : List (Action σ)} {c : CellId} {k : Container}
    (hk : ((holding state bus (owned.map (·.container))).play rules cluster actions).container? c =
      some k) :
    let w := holding state bus (owned.map (·.container))
    ∃ first, origin? owned (w.newcomers rules cluster actions) c = some first ∧
      Recorded rules.policy first (recordOf owned (w.history rules cluster actions) c) k := by
  intro w
  have hatt : w.Attentive rules.policy := attentive_holding _ state bus _
  have hlen : w.cells.length = owned.length := by simp [w, holding]
  by_cases hlt : c < owned.length
  · have hstart : w.container? c = some owned[c].container := by
      simp [w, container?_holding, hlt]
    obtain ⟨k', hk', hrecorded⟩ :=
      hatt.recorded_play cluster hstart (owned[c].recorded rules.policy) actions
    cases hk'.symm.trans hk
    refine ⟨owned[c].first, ?_, ?_⟩
    · rw [origin?, List.getElem?_append_left (by simpa using hlt), List.getElem?_map,
        List.getElem?_eq_getElem hlt]
      rfl
    · simpa [recordOf, hlt] using hrecorded
  · have hle := Nat.le_of_not_lt hlt
    obtain ⟨first, hfirst, hrecorded⟩ := hatt.recorded_newcomer (hlen ▸ hle) hk
    refine ⟨first, ?_, ?_⟩
    · rw [origin?, List.getElem?_append_right (by simpa using hle), List.length_map, ← hlen]
      exact hfirst
    · simpa [recordOf, hle] using hrecorded

/-- What is said about a container goes on with its record. -/
lemma recordOf_cons (owned : List Possession) (earlier : List DialogueStep) (s : DialogueStep)
    (later : List DialogueStep) :
    recordOf owned (earlier ++ s :: later) s.cell =
      recordOf owned earlier s.cell ++
        s.passage :: (about s.cell later).map DialogueStep.passage := by
  have habout : about s.cell (s :: later) = s :: about s.cell later := by simp [about]
  simp [recordOf, about_append, habout]

/-- A container that is not there has gone through nothing. -/
lemma recordOf_eq_nil {state : σ} {bus : EventBus ContainerEvent} {owned : List Possession}
    {actions : List (Action σ)} {c : CellId}
    (hnone : ((holding state bus (owned.map (·.container))).play rules cluster actions).container?
      c = none) :
    recordOf owned
      ((holding state bus (owned.map (·.container))).history rules cluster actions) c = [] := by
  have hle : ((holding state bus (owned.map (·.container))).play rules cluster
      actions).cells.length ≤ c := by
    refine Nat.le_of_not_lt fun hlt => ?_
    obtain ⟨k, hk⟩ := exists_container? hlt
    cases hnone.symm.trans hk
  have howned : owned.length ≤ c := by
    have hgrow := Nat.le_trans (length_cells_le_play rules cluster _ actions) hle
    simpa [holding] using hgrow
  rw [recordOf, about_history_eq_nil hle, List.getElem?_eq_none howned]
  rfl

/-- Before something is said about a container, its record leads up to there. -/
lemma recorded_of_history {state : σ} {bus : EventBus ContainerEvent} {owned : List Possession}
    {actions : List (Action σ)} {earlier later : List DialogueStep} {s : DialogueStep}
    (h : (holding state bus (owned.map (·.container))).history rules cluster actions =
      earlier ++ s :: later) :
    ∃ first, Recorded rules.policy first (recordOf owned earlier s.cell) s.before := by
  have hrecord := recordOf_cons owned earlier s later
  rw [← h] at hrecord
  cases hk : ((holding state bus (owned.map (·.container))).play rules cluster
      actions).container? s.cell with
  | none =>
    rw [recordOf_eq_nil hk] at hrecord
    simp at hrecord
  | some k =>
    obtain ⟨first, -, hrecorded⟩ := recorded_of_container? hk
    rw [hrecord] at hrecorded
    exact ⟨first, hrecorded.of_append.1⟩

end World

end Supervision

end JobSupervision
