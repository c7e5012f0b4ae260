/-
# Accounts of event buses

A subscriber is served from the events that were published since it came and of which it was not
told yet: in their order, and where more of them wait than the bus keeps, with the number of those
that are gone first (`EventBus.Serves`).  Nothing that other subscribers do changes these events
(`EventBus.Reads`), so the answers to a subscriber, one after the other, account for every event
published since it came, once each.  Asking until nothing is left it gets all that is due to it
(`EventBus.Reads.drain`).
-/
import JobSupervision.EventBus
import Mathlib.Algebra.Group.Nat.Defs
import Mathlib.Data.List.Induction
import Mathlib.Order.Bounds.Basic

namespace JobSupervision.EventBus

variable {α : Type} {bus bus' : EventBus α} {id id' kept : Nat} {log pending pending' : List α}

/-! ### How many events are kept -/

lemma isLeast_powerAbove (n : Nat) : IsLeast {m | (∃ k, m = 2 ^ k) ∧ n ≤ m} (powerAbove n) := by
  unfold powerAbove
  split
  · next hn =>
    refine ⟨⟨⟨0, rfl⟩, hn⟩, ?_⟩
    rintro _ ⟨⟨k, rfl⟩, -⟩
    exact Nat.one_le_two_pow
  · next hn =>
    have hlog : n - 1 < 2 ^ (Nat.log2 (n - 1) + 1) := Nat.lt_log2_self
    refine ⟨⟨⟨_, rfl⟩, show n ≤ 2 ^ _ by omega⟩, ?_⟩
    rintro _ ⟨⟨k, rfl⟩, hk⟩
    have hlt : Nat.log2 (n - 1) < k := (Nat.log2_lt (by omega)).2 (by omega)
    exact Nat.pow_le_pow_right (by decide) hlt

/-! ### Operations on a bus -/

/-- What is done with a bus. -/
inductive Operation (α : Type) where
  /-- An event is published. -/
  | publish (event : α)
  /-- A subscriber comes. -/
  | subscribe
  /-- A subscriber leaves. -/
  | unsubscribe (id : Nat)
  /-- A subscriber asks for its next event. -/
  | receive (id : Nat)

/-- The event that an operation publishes. -/
def Operation.event? : Operation α → Option α
  | .publish event => some event
  | _ => none

/-- The operations that a subscriber would see if it were the only one and had another number:
what is published and what it asks for. -/
def Operation.alone? (id own : Nat) : Operation α → Option (Operation α)
  | .publish event => some (.publish event)
  | .receive other => if other = id then some (.receive own) else none
  | _ => none

/-- The bus after an operation. -/
def act (bus : EventBus α) : Operation α → EventBus α
  | .publish event => bus.publish event
  | .subscribe => bus.subscribe.2
  | .unsubscribe id => bus.unsubscribe id
  | .receive id => (bus.receive id).2

/-- The bus after some operations. -/
def play (bus : EventBus α) (operations : List (Operation α)) : EventBus α :=
  operations.foldl act bus

/-- The events that operations publish, in their order. -/
def events (operations : List (Operation α)) : List α := operations.filterMap Operation.event?

/-- What one subscriber is told by operations. -/
def answers (id : Nat) : EventBus α → List (Operation α) → List (Received α)
  | _, [] => []
  | bus, .receive other :: later =>
    if other = id then (bus.receive id).1 :: answers id (bus.receive id).2 later
    else answers id (bus.receive other).2 later
  | bus, operation :: later => answers id (bus.act operation) later

@[simp] lemma play_cons (bus : EventBus α) (operation : Operation α)
    (later : List (Operation α)) : bus.play (operation :: later) = (bus.act operation).play later :=
  rfl

@[simp] lemma events_cons (operation : Operation α) (later : List (Operation α)) :
    events (operation :: later) = operation.event?.toList ++ events later := by
  cases operation <;> rfl

lemma events_concat (first : List (Operation α)) (operation : Operation α) :
    events (first ++ [operation]) = events first ++ operation.event?.toList := by
  rw [events, List.filterMap_append]
  cases operation <;> rfl

lemma answers_cons_self (bus : EventBus α) (id : Nat) (later : List (Operation α)) :
    answers id bus (.receive id :: later) =
      (bus.receive id).1 :: answers id (bus.receive id).2 later :=
  if_pos rfl

lemma answers_cons_of_ne {operation : Operation α} (h : operation ≠ .receive id)
    (bus : EventBus α) (later : List (Operation α)) :
    answers id bus (operation :: later) = answers id (bus.act operation) later := by
  cases operation with
  | publish | subscribe | unsubscribe => rfl
  | receive other => exact if_neg fun heq => h (congrArg Operation.receive heq)

lemma play_concat (bus : EventBus α) (first : List (Operation α)) (operation : Operation α) :
    bus.play (first ++ [operation]) = (bus.play first).act operation :=
  List.foldl_append ..

@[simp] lemma capacity_receive (bus : EventBus α) (id : Nat) :
    (bus.receive id).2.capacity = bus.capacity := by
  unfold receive
  repeat' split
  all_goals rfl

@[simp] lemma published_receive (bus : EventBus α) (id : Nat) :
    (bus.receive id).2.published = bus.published := by
  unfold receive
  repeat' split
  all_goals rfl

@[simp] lemma recent_receive (bus : EventBus α) (id : Nat) :
    (bus.receive id).2.recent = bus.recent := by
  unfold receive
  repeat' split
  all_goals rfl

@[simp] lemma nextId_receive (bus : EventBus α) (id : Nat) :
    (bus.receive id).2.nextId = bus.nextId := by
  unfold receive
  repeat' split
  all_goals rfl

@[simp] lemma retained_act (bus : EventBus α) (operation : Operation α) :
    (bus.act operation).retained = bus.retained := by
  cases operation with
  | publish | subscribe | unsubscribe => rfl
  | receive id => exact congrArg powerAbove (capacity_receive bus id)

lemma retained_play (bus : EventBus α) (operations : List (Operation α)) :
    (bus.play operations).retained = bus.retained := by
  induction operations generalizing bus with
  | nil => rfl
  | cons operation later ih => rw [play_cons, ih, retained_act]

/-! ### The events that a bus keeps -/

/-- A bus to which the events of a list were published, in their order. -/
structure Holds (bus : EventBus α) (log : List α) : Prop where
  /-- All of them are counted. -/
  published : bus.published = log.length
  /-- The last of them are kept. -/
  recent : bus.recent = log.reverse.take bus.retained

namespace Holds

lemma publish (h : bus.Holds log) (event : α) : (bus.publish event).Holds (log ++ [event]) where
  published := by simp [h.published]
  recent := by
    have hkept : (bus.publish event).retained = bus.retained := rfl
    rw [hkept, List.reverse_concat, EventBus.publish, h.recent]
    cases hcase : bus.retained with
    | zero => rfl
    | succ n => simp [List.take_take]

lemma receive (h : bus.Holds log) (id : Nat) : (bus.receive id).2.Holds log where
  published := (published_receive bus id).trans h.published
  recent := by
    rw [recent_receive, h.recent]
    exact congrArg (fun n => log.reverse.take n) (retained_act bus (.receive id)).symm

lemma act (h : bus.Holds log) (operation : Operation α) :
    (bus.act operation).Holds (log ++ operation.event?.toList) := by
  have hnone : log ++ (none : Option α).toList = log := List.append_nil log
  cases operation with
  | publish event => exact h.publish event
  | subscribe | unsubscribe => exact hnone.symm ▸ ⟨h.published, h.recent⟩
  | receive id => exact hnone.symm ▸ h.receive id

end Holds

lemma holds_of_create? {capacity : Nat} (h : create? capacity = some bus) : bus.Holds [] := by
  unfold create? at h
  split at h
  · cases h
    exact ⟨rfl, (List.take_nil).symm⟩
  · cases h

/-- Whatever is done with a new bus, it counts all the events published and keeps the last of
them. -/
lemma holds_play (hnew : bus.Holds []) (operations : List (Operation α)) :
    (bus.play operations).Holds (events operations) := by
  induction operations using List.reverseRecOn with
  | nil => exact hnew
  | append_singleton before operation ih =>
    rw [play_concat, events_concat]
    exact ih.act operation

/-! ### Places of subscribers -/

lemma position?_unsubscribe_of_ne {other : Nat} (h : other ≠ id) :
    (bus.unsubscribe other).position? id = bus.position? id := by
  simp only [position?, unsubscribe, List.find?_filter]
  congr 2
  funext s
  by_cases hs : s.id = id
  · simp [hs, h.symm]
  · simp [hs]

lemma position?_moveTo (bus : EventBus α) (other position id : Nat) :
    (bus.moveTo other position).position? id =
      (bus.position? id).map fun p => if id = other then position else p := by
  simp only [position?, moveTo]
  induction bus.subscribers with
  | nil => rfl
  | cons s rest ih =>
    by_cases hs : s.id = id
    · by_cases hother : id = other <;> simp [hs, hother]
    · by_cases hother : s.id = other
      · simpa [hs, hother ▸ hs, hother] using ih
      · simpa [hs, hother] using ih

lemma position?_receive_of_ne {other : Nat} (h : id ≠ other) :
    (bus.receive other).2.position? id = bus.position? id := by
  unfold receive
  repeat' split
  all_goals simp [position?_moveTo, h]

/-! ### Serving -/

/-- The answer to a subscriber to whom some events are due, and those still due afterwards. -/
inductive Serves (kept : Nat) : List α → Received α → List α → Prop
  /-- Nothing is due. -/
  | empty : Serves kept [] .empty []
  /-- No more events are due than are kept: the subscriber gets the first of them. -/
  | event (e : α) (rest : List α) (h : rest.length < kept) : Serves kept (e :: rest) (.event e) rest
  /-- More events are due than are kept: the subscriber gets the number of those gone. -/
  | lagged (gone rest : List α) (hgone : gone ≠ []) (h : rest.length = kept) :
    Serves kept (gone ++ rest) (.lagged gone.length) rest

/-- Answers that account for events, one after the other: each event is told itself, or is counted
in a note about missed events at its place. -/
inductive Accounts : List (Received α) → List α → Prop
  /-- No answer accounts for no event. -/
  | nil : Accounts [] []
  /-- That there is nothing accounts for nothing. -/
  | empty {answers : List (Received α)} {told : List α} (h : Accounts answers told) :
    Accounts (.empty :: answers) told
  /-- An event accounts for itself. -/
  | event {answers : List (Received α)} {told : List α} (e : α) (h : Accounts answers told) :
    Accounts (.event e :: answers) (e :: told)
  /-- A note accounts for as many events as it says. -/
  | lagged {answers : List (Received α)} {told : List α} (gone : List α) (hgone : gone ≠ [])
    (h : Accounts answers told) : Accounts (.lagged gone.length :: answers) (gone ++ told)

namespace Serves

variable {answer answer' : Received α} {rest rest' : List α}

lemma unique (h : Serves kept pending answer rest) (h' : Serves kept pending answer' rest') :
    answer = answer' ∧ rest = rest' := by
  cases h with
  | empty =>
    generalize hp : ([] : List α) = pending at h'
    cases h' with
    | empty => exact ⟨rfl, rfl⟩
    | event => cases hp
    | lagged gone _ hgone => exact absurd (List.append_eq_nil_iff.1 hp.symm).1 hgone
  | event e _ hrest =>
    generalize hp : e :: rest = pending at h'
    cases h' with
    | empty => cases hp
    | event =>
      cases hp
      exact ⟨rfl, rfl⟩
    | lagged gone _ hgone hlength =>
      have := congrArg List.length hp
      have := List.length_pos_iff.2 hgone
      simp only [List.length_cons, List.length_append] at *
      omega
  | lagged gone _ hgone hlength =>
    generalize hp : gone ++ rest = pending at h'
    cases h' with
    | empty => exact absurd (List.append_eq_nil_iff.1 hp).1 hgone
    | event e _ hrest =>
      have := congrArg List.length hp
      have := List.length_pos_iff.2 hgone
      simp only [List.length_cons, List.length_append] at *
      omega
    | lagged gone' _ _ hlength' =>
      obtain ⟨rfl, rfl⟩ := List.append_inj' hp (hlength.trans hlength'.symm)
      exact ⟨rfl, rfl⟩

/-- An answer accounts for the events that are no longer due. -/
theorem accounts (h : Serves kept pending answer rest) {answers : List (Received α)}
    {later told left : List α} (hafter : rest ++ later = told ++ left)
    (haccounts : Accounts answers told) :
    ∃ told', pending ++ later = told' ++ left ∧ Accounts (answer :: answers) told' := by
  cases h with
  | empty => exact ⟨told, hafter, haccounts.empty⟩
  | event e => exact ⟨e :: told, congrArg (e :: ·) hafter, haccounts.event e⟩
  | lagged gone _ hgone =>
    refine ⟨gone ++ told, ?_, haccounts.lagged gone hgone⟩
    rw [List.append_assoc, hafter, List.append_assoc]

end Serves

/-! ### What is due to a subscriber -/

/-- A subscriber that is still to be told of some events, the last ones published. -/
structure Reads (bus : EventBus α) (id : Nat) (pending : List α) : Prop where
  /-- The events due follow those behind the subscriber. -/
  due : ∃ seen, bus.Holds (seen ++ pending) ∧ bus.position? id = some seen.length
  /-- No later subscriber gets its number. -/
  old : id < bus.nextId

lemma reads_subscribe (h : bus.Holds log) : bus.subscribe.2.Reads bus.nextId [] where
  due := by
    refine ⟨log, ?_, ?_⟩
    · rw [List.append_nil]
      exact ⟨h.published, h.recent⟩
    · simp [subscribe, position?, h.published]
  old := Nat.lt_succ_self bus.nextId

namespace Reads

/-- What is kept of the events due: the first of them only where not too many follow. -/
lemma event?_eq {seen : List α} (h : bus.Holds (seen ++ pending)) :
    bus.event? seen.length = if pending.length ≤ bus.retained then pending.head? else none := by
  cases pending with
  | nil => simp [event?, h.published]
  | cons e rest =>
    have hindex : seen.length + (rest.length + 1) - 1 - seen.length = rest.length := by omega
    simp only [event?, h.published, h.recent, List.length_append, List.length_cons, hindex,
      List.reverse_append, List.reverse_cons, List.append_assoc, List.singleton_append,
      List.getElem?_take, List.head?_cons]
    by_cases hkept : rest.length < bus.retained
    · rw [if_pos (by omega), if_pos hkept, if_pos (by omega),
        List.getElem?_append_right (by simp)]
      simp
    · rw [if_pos (by omega), if_neg hkept, if_neg (by omega)]

/-- A subscriber moves over the events that its answer accounts for. -/
lemma moved {seen gone rest : List α} {answer : Received α}
    (hholds : bus.Holds (seen ++ (gone ++ rest))) (hposition : bus.position? id = some seen.length)
    (hold : id < bus.nextId)
    (heq : bus.receive id = (answer, bus.moveTo id (seen.length + gone.length))) :
    (bus.receive id).2.Reads id rest where
  due := by
    refine ⟨seen ++ gone, ?_, ?_⟩
    · rw [List.append_assoc]
      exact hholds.receive id
    · rw [heq, position?_moveTo, hposition]
      simp
  old := (nextId_receive bus id).symm ▸ hold

/-- A subscriber that asks is served from the events due to it. -/
theorem serves (h : bus.Reads id pending) :
    ∃ rest, Serves bus.retained pending (bus.receive id).1 rest ∧
      (bus.receive id).2.Reads id rest := by
  obtain ⟨⟨seen, hholds, hposition⟩, hold⟩ := h
  have hevent := event?_eq hholds
  have hpublished : bus.published = seen.length + pending.length := by
    rw [hholds.published, List.length_append]
  rcases Nat.lt_or_ge bus.retained pending.length with hmany | hfew
  · -- the events due are cut where those kept begin
    obtain ⟨gone, rest, rfl, hrest⟩ :
        ∃ gone rest, pending = gone ++ rest ∧ rest.length = bus.retained := by
      refine ⟨_, _, (List.take_append_drop (pending.length - bus.retained) pending).symm, ?_⟩
      rw [List.length_drop]
      omega
    rw [List.length_append] at hmany hpublished
    have hrecent : bus.recent.length = bus.retained := by
      simp only [hholds.recent, List.length_take, List.length_reverse, List.length_append]
      omega
    have hnone : bus.event? seen.length = none := by
      rw [hevent, List.length_append, if_neg (by omega)]
    have heq : bus.receive id =
        (.lagged gone.length, bus.moveTo id (seen.length + gone.length)) := by
      simp only [receive, hposition, hnone, hpublished, hrecent]
      rw [if_neg (by omega)]
      congr 2 <;> omega
    rw [heq]
    refine ⟨rest, .lagged gone rest ?_ hrest, heq ▸ moved hholds hposition hold heq⟩
    rw [← List.length_pos_iff]
    omega
  · cases pending with
    | nil =>
      have heq : bus.receive id = (.empty, bus) := by
        simp [receive, hposition, hpublished]
      rw [heq]
      exact ⟨[], .empty, ⟨seen, hholds, hposition⟩, hold⟩
    | cons e rest =>
      have hsome : bus.event? seen.length = some e := by
        rw [hevent, if_pos hfew, List.head?_cons]
      have heq : bus.receive id = (.event e, bus.moveTo id (seen.length + [e].length)) := by
        simp [receive, hposition, hpublished, hsome]
      have hreads : (bus.receive id).2.Reads id rest := moved hholds hposition hold heq
      rw [heq] at hreads ⊢
      exact ⟨rest, .event e rest hfew, hreads⟩

/-- An operation of another subscriber leaves what is due as it is; what is published becomes
due. -/
lemma act (h : bus.Reads id pending) {operation : Operation α}
    (hstays : operation ≠ .unsubscribe id) (hother : operation ≠ .receive id) :
    (bus.act operation).Reads id (pending ++ operation.event?.toList) := by
  obtain ⟨⟨seen, hholds, hposition⟩, hold⟩ := h
  refine ⟨⟨seen, ?_, ?_⟩, ?_⟩
  · rw [← List.append_assoc]
    exact hholds.act operation
  · cases operation with
    | publish => exact hposition
    | subscribe =>
      have hne : bus.nextId ≠ id := by omega
      simpa [EventBus.act, subscribe, position?, hne] using hposition
    | unsubscribe other =>
      have hne : other ≠ id := fun heq => hstays (congrArg Operation.unsubscribe heq)
      rw [EventBus.act, position?_unsubscribe_of_ne hne, hposition]
    | receive other =>
      have hne : other ≠ id := fun heq => hother (congrArg Operation.receive heq)
      rw [EventBus.act, position?_receive_of_ne hne.symm, hposition]
  · cases operation with
    | publish | unsubscribe => exact hold
    | subscribe => exact Nat.lt_succ_of_lt hold
    | receive other => exact (nextId_receive bus other).symm ▸ hold

/-- The answers to a subscriber account for what is due to it and what is published from then on,
but for what is due to it in the end. -/
theorem accounts (h : bus.Reads id pending) {later : List (Operation α)}
    (hstays : .unsubscribe id ∉ later) :
    ∃ told left, pending ++ events later = told ++ left ∧ Accounts (answers id bus later) told ∧
      (bus.play later).Reads id left := by
  induction later generalizing bus pending with
  | nil => exact ⟨[], pending, List.append_nil pending, .nil, h⟩
  | cons operation later ih =>
    obtain ⟨hne, hlater⟩ := not_or.1 (mt List.mem_cons.2 hstays)
    by_cases hself : operation = .receive id
    · subst hself
      obtain ⟨rest, hserves, hreads⟩ := h.serves
      obtain ⟨told, left, hsplit, haccounts, hleft⟩ := ih hreads hlater
      obtain ⟨told', hsplit', haccounts'⟩ := hserves.accounts hsplit haccounts
      rw [answers_cons_self]
      exact ⟨told', left, hsplit', haccounts', hleft⟩
    · obtain ⟨told, left, hsplit, haccounts, hleft⟩ := ih (h.act (Ne.symm hne) hself) hlater
      rw [answers_cons_of_ne hself, events_cons, ← List.append_assoc]
      exact ⟨told, left, hsplit, haccounts, hleft⟩

/-- Two subscribers to whom the same is due, of buses that keep equally many events, are told the
same if the same is published and they ask at the same times, whatever others do. -/
theorem answers_alone (h : bus.Reads id pending) (h' : bus'.Reads id' pending)
    (hkept : bus'.retained = bus.retained) {later : List (Operation α)}
    (hstays : .unsubscribe id ∉ later) :
    answers id bus later = answers id' bus' (later.filterMap (Operation.alone? id id')) := by
  induction later generalizing bus bus' pending with
  | nil => rfl
  | cons operation later ih =>
    obtain ⟨hne, hlater⟩ := not_or.1 (mt List.mem_cons.2 hstays)
    by_cases hself : operation = .receive id
    · subst hself
      have halone : (Operation.receive id).alone? (α := α) id id' = some (.receive id') :=
        if_pos rfl
      obtain ⟨rest, hserves, hreads⟩ := h.serves
      obtain ⟨rest', hserves', hreads'⟩ := h'.serves
      obtain ⟨hanswer, rfl⟩ := hserves.unique (hkept ▸ hserves')
      have hkept' : (bus'.receive id').2.retained = (bus.receive id).2.retained :=
        (retained_act bus' (.receive id')).trans
          (hkept.trans (retained_act bus (.receive id)).symm)
      rw [answers_cons_self, List.filterMap_cons_some halone, answers_cons_self, hanswer,
        ih hreads hreads' hkept' hlater]
    · have hact := h.act (Ne.symm hne) hself
      rw [answers_cons_of_ne hself]
      cases halone : operation.alone? id id' with
      | none =>
        -- the operation of another subscriber, which publishes nothing
        have hevent : operation.event? = none := by
          cases operation with
          | publish => cases halone
          | subscribe | unsubscribe | receive => rfl
        rw [hevent, Option.toList_none, List.append_nil] at hact
        rw [List.filterMap_cons_none halone]
        exact ih hact h' (hkept.trans (retained_act bus operation).symm) hlater
      | some own =>
        obtain ⟨e, rfl, rfl⟩ : ∃ e, operation = .publish e ∧ own = .publish e := by
          cases operation with
          | publish e => exact ⟨e, rfl, (Option.some.inj halone).symm⟩
          | subscribe | unsubscribe => cases halone
          | receive other =>
            have hother : other ≠ id := fun heq => hself (congrArg Operation.receive heq)
            exact absurd ((if_neg hother).symm.trans halone) (Option.some_ne_none own).symm
        have hact' : (bus'.act (.publish e)).Reads id' (pending ++ [e]) :=
          h'.act (by rintro ⟨⟩) (by rintro ⟨⟩)
        rw [List.filterMap_cons_some halone, answers_cons_of_ne (by rintro ⟨⟩)]
        exact ih hact hact' hkept hlater

end Reads

/-! ### All that is due -/

/-- The answers to a subscriber that asks until nothing is due to it: where more events are due than
are kept, how many of them are gone, and then one event after the other. -/
def allAnswers (kept : Nat) (pending : List α) : List (Received α) :=
  if pending.length ≤ kept then pending.map .event
  else .lagged (pending.length - kept) :: (pending.drop (pending.length - kept)).map .event

/-- Publishing events one after the other is an operation for each of them. -/
lemma publishAll_eq_play (bus : EventBus α) (told : List α) :
    bus.publishAll told = bus.play (told.map .publish) := by
  rw [play, List.foldl_map]
  rfl

@[simp] lemma retained_publishAll (bus : EventBus α) (told : List α) :
    (bus.publishAll told).retained = bus.retained := by
  rw [publishAll_eq_play, retained_play]

lemma events_map_publish (told : List α) : events (told.map .publish) = told := by
  rw [events, List.filterMap_map]
  exact List.filterMap_some

namespace Reads

/-- What is published while a subscriber does not ask is due to it. -/
lemma play (h : bus.Reads id pending) {later : List (Operation α)}
    (hstays : .unsubscribe id ∉ later) (hother : .receive id ∉ later) :
    (bus.play later).Reads id (pending ++ events later) := by
  induction later using List.reverseRecOn with
  | nil => exact (List.append_nil pending).symm ▸ h
  | append_singleton before operation ih =>
    rw [List.mem_append, List.mem_singleton, not_or] at hstays hother
    rw [play_concat, events_concat, ← List.append_assoc]
    exact (ih hstays.1 hother.1).act (Ne.symm hstays.2) (Ne.symm hother.2)

lemma publishAll (h : bus.Reads id pending) (told : List α) :
    (bus.publishAll told).Reads id (pending ++ told) := by
  have hplay : (bus.play (told.map .publish)).Reads id (pending ++ events (told.map .publish)) :=
    h.play (by simp) (by simp)
  rwa [events_map_publish, ← publishAll_eq_play] at hplay

/-- A subscriber to whom no more events are due than are kept gets one after the other. -/
lemma drainFuel_of_le {fuel : Nat} (h : bus.Reads id pending)
    (hkept : pending.length ≤ bus.retained) (hfuel : pending.length < fuel) :
    (drainFuel fuel bus id).1 = pending.map .event ∧ (drainFuel fuel bus id).2.Reads id [] := by
  induction fuel generalizing bus pending with
  | zero => exact absurd hfuel (Nat.not_lt_zero _)
  | succ fuel ih =>
    obtain ⟨rest, hserves, hreads⟩ := h.serves
    have hretained : (bus.receive id).2.retained = bus.retained := retained_act bus (.receive id)
    cases hreceive : bus.receive id with
    | mk answer after =>
      rw [hreceive] at hserves hreads hretained
      simp only [drainFuel, hreceive]
      cases hserves with
      | empty => exact ⟨rfl, hreads⟩
      | event e rest hlt =>
        obtain ⟨hanswers, hleft⟩ := ih hreads (by omega) (Nat.lt_of_succ_lt_succ hfuel)
        exact ⟨congrArg (Received.event e :: ·) hanswers, hleft⟩
      | lagged gone rest hgone hrest =>
        have hpos := List.length_pos_iff.2 hgone
        rw [List.length_append] at hkept
        omega

/-- A subscriber that asks until nothing is left gets all that is due to it, but for the events that
are gone. -/
theorem drain (h : bus.Reads id pending) :
    (bus.drain id).1 = allAnswers bus.retained pending ∧ (bus.drain id).2.Reads id [] := by
  obtain ⟨⟨seen, hholds, hposition⟩, hold⟩ := h
  have hrecent : bus.recent.length = min bus.retained (seen.length + pending.length) := by
    rw [hholds.recent, List.length_take, List.length_reverse, List.length_append]
  have hreads : bus.Reads id pending := ⟨⟨seen, hholds, hposition⟩, hold⟩
  rw [EventBus.drain, allAnswers]
  split
  · next hkept => exact hreads.drainFuel_of_le hkept (by omega)
  · next hmany =>
    -- the first answer says how many events are gone, and no more are due then than are kept
    obtain ⟨rest, hserves, hafter⟩ := hreads.serves
    have hretained : (bus.receive id).2.retained = bus.retained := retained_act bus (.receive id)
    cases hreceive : bus.receive id with
    | mk answer after =>
      rw [hreceive] at hserves hafter hretained
      rw [drainFuel, hreceive]
      cases hserves with
      | empty => exact absurd (Nat.zero_le _) hmany
      | event e rest hlt => exact absurd (Nat.succ_le_of_lt hlt) hmany
      | lagged gone rest hgone hrest =>
        have hfuel : rest.length < bus.recent.length + 1 := by omega
        obtain ⟨hanswers, hleft⟩ := hafter.drainFuel_of_le (by omega) hfuel
        refine ⟨?_, hleft⟩
        have hcount : (gone ++ rest).length - bus.retained = gone.length := by
          rw [List.length_append, hrest, Nat.add_sub_cancel]
        rw [hcount, List.drop_left]
        exact congrArg (Received.lagged gone.length :: ·) hanswers

end Reads

/-! ### The account of every subscriber -/

/-- The number of a subscriber that comes after some operations. -/
def newcomer (bus : EventBus α) (first : List (Operation α)) : Nat := (bus.play first).subscribe.1

/-- What a subscriber that comes after some operations is told by later ones. -/
def answersSince (bus : EventBus α) (first later : List (Operation α)) : List (Received α) :=
  answers (bus.newcomer first) (bus.play first).subscribe.2 later

lemma nextId_le_play (bus : EventBus α) (operations : List (Operation α)) :
    bus.nextId ≤ (bus.play operations).nextId := by
  induction operations generalizing bus with
  | nil => exact Nat.le_refl _
  | cons operation later ih =>
    refine Nat.le_trans ?_ (ih (bus.act operation))
    cases operation with
    | publish | unsubscribe => exact Nat.le_refl _
    | subscribe => exact Nat.le_succ _
    | receive id => exact (nextId_receive bus id).ge

/-- A bus that keeps account of what is published for each of its subscribers, whatever is done
with it. -/
structure KeepsAccount (capacity : Nat) (bus : EventBus α) : Prop where
  /-- As many events are kept as the least power of two says that is not below the capacity. -/
  kept : IsLeast {n | (∃ k, n = 2 ^ k) ∧ capacity ≤ n} bus.retained
  /-- Every event published is taken in, and the last ones are kept, newest first. -/
  published (operations : List (Operation α)) :
    (bus.play operations).published = (events operations).length ∧
      (bus.play operations).recent = (events operations).reverse.take bus.retained
  /-- Every subscriber gets a number of its own. -/
  apart (first later : List (Operation α)) :
    bus.newcomer first ≠ bus.newcomer (first ++ .subscribe :: later)
  /-- While a subscriber stays, the answers to it account for the events published since it came,
  each of them once and in their order, up to those still due to it; and its next answer is the
  first of these, or that none is left, or, exactly where more are due than are kept, how many of
  them are gone. -/
  account (first later : List (Operation α)) (hstays : .unsubscribe (bus.newcomer first) ∉ later) :
    ∃ told left rest, events later = told ++ left ∧ Accounts (bus.answersSince first later) told ∧
      Serves bus.retained left
        ((bus.play (first ++ .subscribe :: later)).receive (bus.newcomer first)).1 rest
  /-- A subscriber is told what it would be told if it were the only one of a new bus, with the
  same events published and the same times at which it asks. -/
  alone (first later : List (Operation α)) (hstays : .unsubscribe (bus.newcomer first) ∉ later) :
    bus.answersSince first later =
      bus.answersSince [] (later.filterMap (Operation.alone? (bus.newcomer first)
        (bus.newcomer [])))

/-- Every bus keeps account for its subscribers. -/
theorem keepsAccount {capacity : Nat} (h : create? capacity = some bus) :
    bus.KeepsAccount capacity := by
  have hnew := holds_of_create? h
  have hreads (first : List (Operation α)) :
      (bus.play first).subscribe.2.Reads (bus.newcomer first) [] :=
    reads_subscribe (holds_play hnew first)
  have hplay (first later : List (Operation α)) :
      bus.play (first ++ .subscribe :: later) = (bus.play first).subscribe.2.play later :=
    List.foldl_append ..
  have hcapacity : bus.capacity = capacity := by
    unfold create? at h
    split at h
    · cases h
      rfl
    · cases h
  constructor
  case kept => exact hcapacity ▸ isLeast_powerAbove bus.capacity
  case published =>
    intro operations
    have hholds := holds_play hnew operations
    exact ⟨hholds.published, retained_play bus operations ▸ hholds.recent⟩
  case apart =>
    intro first later
    have hle := nextId_le_play (bus.play first).subscribe.2 later
    rw [← hplay] at hle
    exact Nat.ne_of_lt hle
  case account =>
    intro first later hstays
    obtain ⟨told, left, hsplit, haccounts, hleft⟩ := (hreads first).accounts hstays
    obtain ⟨rest, hserves, -⟩ := hleft.serves
    rw [retained_play] at hserves
    rw [hplay]
    exact ⟨told, left, rest, hsplit, haccounts, retained_play bus first ▸ hserves⟩
  case alone =>
    intro first later hstays
    refine (hreads first).answers_alone (hreads []) ?_ hstays
    exact (retained_play bus first).symm

/-- A bus of capacity two, with numbers as its events. -/
theorem keepsAccount_two :
    create? 2 = some (⟨2, 0, [], [], 0⟩ : EventBus Nat) ∧
      KeepsAccount 2 (⟨2, 0, [], [], 0⟩ : EventBus Nat) :=
  ⟨rfl, keepsAccount rfl⟩

example :
    answersSince (⟨2, 0, [], [], 0⟩ : EventBus Nat) []
        [.publish 0, .publish 1, .publish 2, .publish 3, .publish 4, .receive 0, .receive 0] =
      [.lagged 3, .event 3] := by
  decide

end JobSupervision.EventBus
