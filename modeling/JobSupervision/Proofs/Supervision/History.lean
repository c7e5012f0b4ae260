/-
# Lives of containers

The history of a run tells the life of each container: a container comes into being in a first
form, and then one step of dialogue after the other takes it from one form to the next
(`life_of_container?`).  A property of containers that every dialogue step keeps therefore holds
throughout every run.
-/
import JobSupervision.Proofs.Supervision.Attention
import Mathlib.Data.List.Induction

namespace JobSupervision.Supervision

variable {σ : Type} {rules : Rules} {cluster : Cluster σ} {w w' : World σ}

/-- The dialogue steps of a history about one container. -/
def about (c : CellId) (history : List DialogueStep) : List DialogueStep :=
  history.filter fun s => s.cell = c

lemma about_append (c : CellId) (first second : List DialogueStep) :
    about c (first ++ second) = about c first ++ about c second :=
  List.filter_append ..

lemma about_singleton (s : DialogueStep) : about s.cell [s] = [s] := by simp [about]

lemma about_eq_nil {c : CellId} {history : List DialogueStep} (h : ∀ s ∈ history, s.cell ≠ c) :
    about c history = [] :=
  List.filter_eq_nil_iff.2 fun s hs => by simpa using h s hs

/-- A container in one of the forms in which containers come into being. -/
def IsNew (k : Container) : Prop := ∃ i, k = .create i ∨ ∃ r, k = .restore i r

/-- The life of a container: its first form, what was said about it so far, and what it is
now. -/
inductive Life (policy : RetryPolicy) (first : Container) : List DialogueStep → Container →
    Prop where
  /-- The container has just come into being. -/
  | start (h : IsNew first) : Life policy first [] first
  /-- One more dialogue step. -/
  | dialogueStep {said : List DialogueStep} (s : DialogueStep) (h : Life policy first said s.before)
      (hs : Exchange policy s.before s.trigger s.dialogue) : Life policy first (said ++ [s]) s.after

namespace World

/-! ### One action more -/

lemma play_concat (rules : Rules) (cluster : Cluster σ) (w : World σ)
    (actions : List (Action σ)) (a : Action σ) :
    w.play rules cluster (actions ++ [a]) = (w.play rules cluster actions).act rules cluster a := by
  simp [play]

lemma play_take_succ (rules : Rules) (cluster : Cluster σ) (w : World σ)
    {actions : List (Action σ)} {n : Nat} {a : Action σ} (h : actions[n]? = some a) :
    w.play rules cluster (actions.take (n + 1)) =
      (w.play rules cluster (actions.take n)).act rules cluster a := by
  rw [← play_concat, List.take_add_one, h]
  rfl

lemma history_append (rules : Rules) (cluster : Cluster σ) (w : World σ)
    (first second : List (Action σ)) :
    w.history rules cluster (first ++ second) =
      w.history rules cluster first ++
        (w.play rules cluster first).history rules cluster second := by
  induction first generalizing w with
  | nil => rfl
  | cons a rest ih =>
    simp only [List.cons_append, history, ih, List.append_assoc]
    rfl

lemma history_concat (rules : Rules) (cluster : Cluster σ) (w : World σ)
    (actions : List (Action σ)) (a : Action σ) :
    w.history rules cluster (actions ++ [a]) =
      w.history rules cluster actions ++
        ((w.play rules cluster actions).dialogueStepOf? rules cluster a).toList := by
  simp [history_append, history]

lemma newcomers_concat (rules : Rules) (cluster : Cluster σ) (w : World σ)
    (actions : List (Action σ)) (a : Action σ) :
    w.newcomers rules cluster (actions ++ [a]) =
      w.newcomers rules cluster actions ++
        (((w.play rules cluster (actions ++ [a])).cells.drop
          (w.play rules cluster actions).cells.length).map (·.container)) := by
  induction actions generalizing w with
  | nil => simp [newcomers, play]
  | cons b rest ih =>
    simp only [List.cons_append, newcomers, ih, List.append_assoc]
    rfl

lemma starters_append (rules : Rules) (cluster : Cluster σ) (w : World σ)
    (first second : List (Action σ)) :
    w.starters rules cluster (first ++ second) =
      w.starters rules cluster first ++
        (w.play rules cluster first).starters rules cluster second := by
  induction first generalizing w with
  | nil => rfl
  | cons a rest ih =>
    simp only [List.cons_append, starters, ih, List.append_assoc]
    rfl

lemma starters_concat (rules : Rules) (cluster : Cluster σ) (w : World σ)
    (actions : List (Action σ)) (a : Action σ) :
    w.starters rules cluster (actions ++ [a]) =
      w.starters rules cluster actions ++
        (((w.play rules cluster (actions ++ [a])).tasks.drop
          (w.play rules cluster actions).tasks.length).map (·.activity)) := by
  rw [starters_append, play_concat]
  simp [starters]

/-- What is said in a run is said at some time. -/
lemma exists_of_mem_history {w : World σ} {actions : List (Action σ)} {s : DialogueStep}
    (h : s ∈ w.history rules cluster actions) :
    ∃ n a, actions[n]? = some a ∧
      (w.play rules cluster (actions.take n)).dialogueStepOf? rules cluster a = some s := by
  induction actions generalizing w with
  | nil => cases h
  | cons a rest ih =>
    rw [history, List.mem_append] at h
    rcases h with h | h
    · exact ⟨0, a, rfl, Option.mem_toList.1 h⟩
    · obtain ⟨n, b, hb, hs⟩ := ih h
      exact ⟨n + 1, b, hb, hs⟩

/-- Whether something holds of every action of a run in the world in which it is done. -/
def Throughout (rules : Rules) (cluster : Cluster σ) (w : World σ) (actions : List (Action σ))
    (P : World σ → Action σ → Prop) : Prop :=
  ∀ n a, actions[n]? = some a → P (w.play rules cluster (actions.take n)) a

section Throughout

variable {actions : List (Action σ)} {P : World σ → Action σ → Prop}

lemma Throughout.of_concat {a : Action σ}
    (h : Throughout rules cluster w (actions ++ [a]) P) :
    Throughout rules cluster w actions P ∧ P (w.play rules cluster actions) a := by
  constructor
  · intro n b hb
    have hlt := (List.getElem?_eq_some_iff.1 hb).1
    have hn := h n b (by rw [List.getElem?_append_left hlt]; exact hb)
    rwa [List.take_append_of_le_length (Nat.le_of_lt hlt)] at hn
  · have hlast := h actions.length a (by simp)
    rwa [List.take_left] at hlast

lemma Throughout.take (h : Throughout rules cluster w actions P) (n : Nat) :
    Throughout rules cluster w (actions.take n) P := by
  intro m a ha
  have hlt := (List.getElem?_eq_some_iff.1 ha).1
  rw [List.length_take] at hlt
  rw [List.getElem?_take_of_lt (by omega)] at ha
  rw [List.take_take, Nat.min_eq_left (by omega)]
  exact h m a ha

end Throughout

/-! ### Containers in changes -/

lemma container?_eq {c : CellId} {cell : Cell} (h : w.cell? c = some cell) :
    w.container? c = some cell.container := by
  rw [container?, h]
  rfl

lemma lt_of_container? {c : CellId} {k : Container} (h : w.container? c = some k) :
    c < w.cells.length := by
  obtain ⟨cell, hc, -⟩ := Option.map_eq_some_iff.1 h
  exact (List.getElem?_eq_some_iff.1 hc).1

lemma exists_container? {c : CellId} (h : c < w.cells.length) : ∃ k, w.container? c = some k := by
  simp [container?, cell?, h]

@[simp] lemma container_handOn (cell : Cell) : (handOn cell).container = cell.container := by
  unfold handOn
  split <;> rfl

lemma container?_set (c i : CellId) {cell : Cell} (cell' : Cell) (hc : w.cell? c = some cell) :
    (({ w with cells := w.cells.set c cell' } : World σ).container? i) =
      if c = i then some cell'.container else w.container? i := by
  have hlt : c < w.cells.length := (List.getElem?_eq_some_iff.1 hc).1
  unfold container? cell?
  rw [List.getElem?_set]
  by_cases hi : c = i
  · rw [if_pos hi, if_pos hi, if_pos (hi ▸ hlt)]
    rfl
  · rw [if_neg hi, if_neg hi]

lemma container?_of_dialogueStep {a : Action σ} {s : DialogueStep}
    (h : Change rules cluster w a (some s) w') :
    w.container? s.cell = some s.before ∧ w'.container? s.cell = some s.after := by
  cases h with
  | asked t task ht hd c stage p hact cell hc hr trigger c' events q next hu k due =>
    refine ⟨container?_eq hc, ?_⟩
    have hset := w.container?_set c c ({ cell with
      container := c', holder := stage.locker t cell }) hc
    rw [if_pos rfl] at hset
    exact hset
  | replied t task ht hd c stage p hact cell hc hr trigger c' events reply hu k =>
    refine ⟨container?_eq hc, ?_⟩
    have hset := w.container?_set c c (handOn { cell with container := c' }) hc
    rw [if_pos rfl, container_handOn] at hset
    rw [container?, cell?, cells_goOn, cells_book]
    exact hset
  | putOff t task ht hd c stage p hact cell hc hr trigger c' events delay e hu k stage' hs =>
    refine ⟨container?_eq hc, ?_⟩
    have hset := w.container?_set c c (handOn { cell with container := c' }) hc
    rw [if_pos rfl, container_handOn] at hset
    exact hset

lemma length_cells_drop (w : World σ) (t : TaskId) :
    (w.drop t).cells.length = w.cells.length := by
  unfold drop finish
  rw [cells_goOn]
  split <;> simp [modifyCell]

/-- A container that is there stays as it is unless something is said about it. -/
lemma container?_of_ne {a : Action σ} {s : Option DialogueStep}
    (h : Change rules cluster w a s w') {c : CellId} (hlt : c < w.cells.length)
    (hs : ∀ s', s = some s' → s'.cell ≠ c) : w'.container? c = w.container? c := by
  have hadd : ∀ k, (w.addCell k).1.container? c = w.container? c := fun k => by
    simp [container?, cell?, addCell, List.getElem?_append_left hlt]
  cases h with
  | nothing => rfl
  | doomed t => exact w.container?_drop t c
  | dropped t => exact w.container?_drop t c
  | begun t task ht hd request hact b a ho =>
    rw [container?, cell?, cells_goOn, cells_book]
    rfl
  | moved => rfl
  | queued t c' e p ha cell hc hl =>
    have hset := w.container?_set c' c ({ cell with queue := cell.queue ++ [t] }) hc
    refine hset.trans ?_
    split
    · subst c'
      exact (container?_eq hc).symm
    · rfl
  | asked t task ht hd c' stage p hact cell hc hr trigger k' events q next hu k due =>
    have hset := w.container?_set c' c ({ cell with
      container := k', holder := stage.locker t cell }) hc
    rw [if_neg (hs _ rfl)] at hset
    exact hset
  | replied t task ht hd c' stage p hact cell hc hr trigger k' events reply hu k =>
    have hset := w.container?_set c' c (handOn { cell with container := k' }) hc
    rw [if_neg (hs _ rfl)] at hset
    rw [container?, cell?, cells_goOn, cells_book]
    exact hset
  | putOff t task ht hd c' stage p hact cell hc hr trigger k' events delay e hu k stage' hst =>
    have hset := w.container?_set c' c (handOn { cell with container := k' }) hc
    rw [if_neg (hs _ rfl)] at hset
    exact hset
  | requested => rfl
  | created identity => exact hadd _
  | restored identity runId =>
    rw [container?, cell?, cells_book]
    exact hadd _
  | shared identity runId container => exact hadd container
  | cancelled => rfl
  | drifted => rfl

/-- Containers are never taken away, and those that come into being are new. -/
lemma isNew_of_change {a : Action σ} {s : Option DialogueStep}
    (h : Change rules cluster w a s w') :
    w.cells.length ≤ w'.cells.length ∧
      ∀ c k, w.cells.length ≤ c → w'.container? c = some k → IsNew k := by
  have hsame : w'.cells.length = w.cells.length →
      w.cells.length ≤ w'.cells.length ∧
        ∀ c k, w.cells.length ≤ c → w'.container? c = some k → IsNew k := fun hlen =>
    ⟨Nat.le_of_eq hlen.symm, fun c k hle hk =>
      absurd (lt_of_container? hk) (Nat.not_lt_of_le (hlen ▸ hle))⟩
  have hadd : ∀ container : Container, IsNew container →
      w'.cells = w.cells ++ [⟨container, none, []⟩] →
      w.cells.length ≤ w'.cells.length ∧
        ∀ c k, w.cells.length ≤ c → w'.container? c = some k → IsNew k := by
    intro container hnew hcells
    refine ⟨by simp [hcells], fun c k hle hk => ?_⟩
    rw [container?, cell?, hcells, List.getElem?_append_right hle, List.getElem?_singleton] at hk
    split at hk
    · cases hk
      exact hnew
    · cases hk
  cases h with
  | nothing => exact hsame rfl
  | doomed t => exact hsame (w.length_cells_drop t)
  | dropped t => exact hsame (w.length_cells_drop t)
  | begun => exact hsame (by rw [cells_goOn, cells_book])
  | moved => exact hsame rfl
  | queued => exact hsame (by rw [cells_goOn, List.length_set])
  | asked => exact hsame (by rw [cells_goOn, cells_leave, List.length_set])
  | replied => exact hsame (by rw [cells_goOn, cells_book, cells_leave, List.length_set])
  | putOff => exact hsame (by rw [cells_goOn, cells_leave, List.length_set])
  | requested => exact hsame rfl
  | created identity => exact hadd _ ⟨identity, .inl rfl⟩ rfl
  | restored identity runId => exact hadd _ ⟨identity, .inr ⟨runId, rfl⟩⟩ (cells_book _ _)
  | shared identity runId container h =>
    refine hadd container ⟨identity, ?_⟩ rfl
    exact h
  | cancelled => exact hsame rfl
  | drifted => exact hsame rfl

/-! ### The life of a container in a run -/

lemma length_newcomers (rules : Rules) (cluster : Cluster σ) (state : σ)
    (bus : EventBus ContainerEvent) (actions : List (Action σ)) :
    ((empty state bus).newcomers rules cluster actions).length =
      ((empty state bus).play rules cluster actions).cells.length := by
  induction actions using List.reverseRecOn with
  | nil => rfl
  | append_singleton actions a ih =>
    have hle := (isNew_of_change (act_change rules cluster
      ((empty state bus).play rules cluster actions) a)).1
    rw [newcomers_concat, List.length_append, ih, List.length_map, List.length_drop, play_concat]
    omega

/-- The first form of a container is that of the newcomer with its number. -/
lemma newcomers_getElem? {w : World σ} {c : CellId} {k : Container} {actions : List (Action σ)}
    {a : Action σ} (hlen : (w.newcomers rules cluster actions).length =
      (w.play rules cluster actions).cells.length)
    (hle : (w.play rules cluster actions).cells.length ≤ c)
    (hk : (w.play rules cluster (actions ++ [a])).container? c = some k) :
    (w.newcomers rules cluster (actions ++ [a]))[c]? = some k := by
  rw [newcomers_concat, List.getElem?_append_right (hlen ▸ hle), hlen, List.getElem?_map,
    List.getElem?_drop, Nat.add_sub_cancel' hle]
  exact hk

/-- Nothing is said about containers that are not there yet, and the history tells the life of
every container that is. -/
lemma life_play (rules : Rules) (cluster : Cluster σ) (state : σ)
    (bus : EventBus ContainerEvent) (actions : List (Action σ)) (c : CellId) :
    (((empty state bus).play rules cluster actions).cells.length ≤ c →
      about c ((empty state bus).history rules cluster actions) = []) ∧
    ∀ k, ((empty state bus).play rules cluster actions).container? c = some k →
      ∃ first, ((empty state bus).newcomers rules cluster actions)[c]? = some first ∧
        Life rules.policy first (about c ((empty state bus).history rules cluster actions)) k := by
  induction actions using List.reverseRecOn with
  | nil =>
    refine ⟨fun _ => rfl, fun k hk => ?_⟩
    simp [container?, cell?, empty] at hk
  | append_singleton actions a ih =>
    have hattentive := attentive_run rules cluster state bus actions
    have hlen := length_newcomers rules cluster state bus actions
    have hchange := act_change rules cluster
      ((empty state bus).play rules cluster actions) a
    rw [← play_concat] at hchange
    obtain ⟨hgrow, hnew⟩ := isNew_of_change hchange
    rw [history_concat]
    generalize hs :
      ((empty state bus).play rules cluster actions).dialogueStepOf? rules cluster a = s
    rw [hs] at hchange
    by_cases hlt : c < ((empty state bus).play rules cluster actions).cells.length
    · refine ⟨fun hle => absurd (Nat.lt_of_lt_of_le hlt hgrow) (Nat.not_lt_of_le hle),
        fun k hk => ?_⟩
      obtain ⟨k₀, hk₀⟩ := exists_container? hlt
      obtain ⟨first, hfirst, hlife⟩ := ih.2 k₀ hk₀
      refine ⟨first, ?_, ?_⟩
      · rw [newcomers_concat, List.getElem?_append_left (hlen ▸ hlt)]
        exact hfirst
      -- either the action says something about the container, or the container stays
      by_cases hsaid : ∃ s', s = some s' ∧ s'.cell = c
      · obtain ⟨s', rfl, rfl⟩ := hsaid
        obtain ⟨hbefore, hafter⟩ := container?_of_dialogueStep hchange
        rw [hk₀] at hbefore
        rw [hk] at hafter
        cases hbefore
        cases hafter
        rw [about_append, Option.toList_some, about_singleton]
        exact .dialogueStep s' hlife (hattentive.exchange hchange)
      · have hne : ∀ s', s = some s' → s'.cell ≠ c := fun s' he hc => hsaid ⟨s', he, hc⟩
        rw [container?_of_ne hchange hlt hne, hk₀] at hk
        cases hk
        rw [about_append, about_eq_nil fun s' hs' => hne s' (Option.mem_toList.1 hs'),
          List.append_nil]
        exact hlife
    · have hle := Nat.le_of_not_lt hlt
      have habout : about c ((empty state bus).history rules cluster actions ++ s.toList) = [] := by
        rw [about_append, ih.1 hle, List.nil_append]
        refine about_eq_nil fun s' hs' hc => ?_
        rw [Option.mem_toList.1 hs'] at hchange
        exact hlt (hc ▸ lt_of_container? (container?_of_dialogueStep hchange).1)
      refine ⟨fun _ => habout, fun k hk => ⟨k, newcomers_getElem? hlen hle hk, ?_⟩⟩
      rw [habout]
      exact .start (hnew c k hle hk)

theorem life_of_container? {state : σ} {bus : EventBus ContainerEvent}
    {actions : List (Action σ)} {c : CellId} {k : Container}
    (h : ((empty state bus).play rules cluster actions).container? c = some k) :
    ∃ first, ((empty state bus).newcomers rules cluster actions)[c]? = some first ∧
      Life rules.policy first (about c ((empty state bus).history rules cluster actions)) k :=
  (life_play rules cluster state bus actions c).2 k h

end World

end JobSupervision.Supervision
