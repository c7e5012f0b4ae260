/-
# The outcome of a launch is delivered once

However the worker, its watcher and the holder move, nothing is settled at first: the holder is put
off and loses nothing by it (`LaunchParties.Unsettled.answers_eq`).  One move settles the outcome
(`LaunchParties.Unsettled.exists_settles`), and from then on the first who comes for it gets it and
everyone later is told that it was taken (`LaunchParties.Ready.outcomes_eq`).  Which outcome it
is depends on what came first: the end of the worker, or the watcher's turning to a wish to cancel
(`LaunchParties.Tells`).
-/
import Mathlib.Data.List.Induction
import Mathlib.Tactic.Common
import JobSupervision.Launch.Parties
import JobSupervision.Proofs.Launch.Handle

namespace JobSupervision

/-! ### What came first -/

/-- What was left of the worker when it was first seen to have ended. -/
def firstEnd? (moves : List LaunchMove) : Option WorkerRemains :=
  moves.findSome? LaunchMove.remains?

/-- Whether the watcher turned to a wish to cancel before the worker had ended. -/
def IsStopped (moves : List LaunchMove) : Prop :=
  ∃ early, early <+: moves ∧ [.cancels, .watches].Sublist early ∧ firstEnd? early = none

section First

variable {moves early late : List LaunchMove} {r : WorkerRemains}

lemma firstEnd?_append (moves more : List LaunchMove) :
    firstEnd? (moves ++ more) = (firstEnd? moves).or (firstEnd? more) := List.findSome?_append

lemma IsStopped.append (h : IsStopped moves) (more : List LaunchMove) :
    IsStopped (moves ++ more) := by
  obtain ⟨early, hearly, hstop, hnone⟩ := h
  exact ⟨early, hearly.trans (List.prefix_append _ _), hstop, hnone⟩

lemma IsStopped.cancels_mem (h : IsStopped moves) : .cancels ∈ moves := by
  obtain ⟨early, hearly, hstop, -⟩ := h
  exact hearly.subset (hstop.subset (by simp))

/-- Who is stopped was stopped before it ended. -/
lemma IsStopped.sublist_of_ends (h : IsStopped (early ++ .ends r :: late)) :
    [.cancels, .watches].Sublist early := by
  obtain ⟨stopped, ⟨rest, heq⟩, hstop, hnone⟩ := h
  obtain ⟨mid, hearly, -⟩ | ⟨mid, hstopped, hlate⟩ := List.append_eq_append_iff.1 heq
  · rw [hearly]
    exact hstop.trans (List.sublist_append_left _ _)
  · cases mid with
    | nil => simpa [hstopped] using hstop
    | cons m mid =>
      obtain ⟨rfl, -⟩ := List.cons.inj hlate
      simp [hstopped, firstEnd?, LaunchMove.remains?] at hnone

end First

/-! ### What a launch concludes is its own -/

/-- Whether an outcome is none of those that a holder is told of though no worker ended. -/
structure IsGenuine {α : Type} (outcome : LaunchOutcome α) : Prop where
  not_cancelled : outcome ≠ .error .cancelled
  not_taken : outcome ≠ LaunchHandle.alreadyTaken
  not_timedOut : ∀ limit, outcome ≠ .error (.timedOut limit)

namespace WorkerRemains

variable {W V : Type} (r : WorkerRemains) (settings : LauncherSettings)

/-- The message of a breach tells it from an outcome that was taken. -/
lemma isGenuine_breach {message : String} (h : message.toList.head? ≠ some 'l') :
    IsGenuine (r.breach settings message : LaunchOutcome V) := by
  refine ⟨nofun, fun heq => ?_, nofun⟩
  have hmessage : message = "launch outcome already taken" :=
    (LaunchError.launcher.inj (Except.error.inj heq)).1
  rw [hmessage] at h
  exact h rfl

lemma isGenuine_ok (result : ExecutionResult V) : IsGenuine (.ok result) := ⟨nofun, nofun, nofun⟩

lemma isGenuine_concludeRecord (work : WorkType W V) (record : ResultRecord) :
    IsGenuine (r.concludeRecord settings work record) := by
  cases record with
  | failure cause => exact isGenuine_ok _
  | success value =>
    rw [concludeRecord]
    split
    · exact isGenuine_ok _
    · exact r.isGenuine_breach settings (by simp)

lemma isGenuine_conclude (work : WorkType W V) : IsGenuine (r.conclude settings work) := by
  rw [conclude]
  split_ifs
  · split
    · exact r.isGenuine_breach settings (by simp)
    · split
      · exact r.isGenuine_breach settings (by simp)
      · exact r.isGenuine_concludeRecord settings work _
  · exact r.isGenuine_breach settings (by simp)

end WorkerRemains

namespace LaunchParties

variable {α : Type} {conclude : WorkerRemains → LaunchOutcome α} {p : LaunchParties α}
  {m : LaunchMove} {moves early late : List LaunchMove} {outcome : LaunchOutcome α}

/-! ### One move -/

lemma settled_move_of_ne (h : m ≠ .settles) :
    (p.move conclude m).handle.settled = p.handle.settled := by
  cases m with
  | ends r => rw [move]; split_ifs <;> simp
  | watches => rw [move]; split_ifs <;> rfl
  | settles => exact absurd rfl h
  | cancels => rfl
  | looks => rfl
  | waits limit => rw [move, LaunchHandle.takeWithin_snd]

lemma settled_move (h : p.handle.settled = some outcome) :
    (p.move conclude m).handle.settled = some outcome := by
  by_cases hm : m = .settles
  · subst hm
    rw [move]
    split_ifs
    · simpa [LaunchHandle.watch_of_settled h] using h
    · exact h
  · rw [settled_move_of_ne hm, h]

lemma taken_move :
    (p.move conclude m).handle.taken =
      (p.handle.taken || (m.isWait && p.handle.settled.isSome)) := by
  cases m with
  | ends r => rw [move]; split_ifs <;> simp [LaunchMove.isWait]
  | watches => rw [move]; split_ifs <;> simp [LaunchMove.isWait]
  | settles => rw [move]; split_ifs <;> simp [LaunchMove.isWait, LaunchHandle.taken_watch]
  | cancels => simp [move, LaunchHandle.cancel, LaunchMove.isWait]
  | looks => simp [move, LaunchMove.isWait]
  | waits limit => simp [move, LaunchHandle.takeWithin_snd, LaunchHandle.isFinished,
      LaunchMove.isWait]

lemma cancelling_move :
    (p.move conclude m).handle.cancelling = true ↔ p.handle.cancelling = true ∨ m = .cancels := by
  cases m with
  | ends r => rw [move]; split_ifs <;> simp
  | watches => rw [move]; split_ifs <;> simp
  | settles => rw [move]; split_ifs <;> simp
  | cancels => simp [move, LaunchHandle.cancel]
  | looks => simp [move]
  | waits limit => simp [move, LaunchHandle.takeWithin_snd]

/-! ### As long as nothing is settled -/

/-- Whether nothing is settled. -/
structure Unsettled (p : LaunchParties α) : Prop where
  settled : p.handle.settled = none
  taken : p.handle.taken = false

lemma unsettled_fresh : (fresh : LaunchParties α).Unsettled := ⟨rfl, rfl⟩

lemma Unsettled.move (h : p.Unsettled) (hnone : (p.move conclude m).handle.settled = none) :
    (p.move conclude m).Unsettled :=
  ⟨hnone, by simp [taken_move, h.settled, h.taken]⟩

lemma Unsettled.answer?_eq (h : p.Unsettled) (m : LaunchMove) : p.answer? m = m.putOff := by
  cases m with
  | looks => simp [answer?, LaunchMove.putOff, LaunchHandle.isFinished, h.settled, h.taken]
  | waits limit =>
    simp [answer?, LaunchMove.putOff, LaunchHandle.takeWithin, LaunchHandle.take?, h.settled,
      h.taken]
  | _ => rfl

lemma Unsettled.move_waits (h : p.Unsettled) (limit : Duration) :
    p.move conclude (.waits limit) = p := by
  obtain ⟨⟨ended, cancelling, settled, taken⟩, stopping⟩ := p
  obtain ⟨rfl, rfl⟩ := h
  rfl

lemma Unsettled.last?_eq (h : p.Unsettled) : p.last? = none := by
  simp [last?, LaunchHandle.take?, h.settled, h.taken]

lemma settled_after (h : p.handle.settled = some outcome) :
    (p.after conclude moves).handle.settled = some outcome := by
  induction moves generalizing p with
  | nil => exact h
  | cons m moves ih => exact ih (settled_move h)

lemma settled_eq_none_of_after (h : (p.after conclude moves).handle.settled = none) :
    p.handle.settled = none := by
  cases hsettled : p.handle.settled with
  | none => rfl
  | some outcome => rw [settled_after hsettled] at h; cases h

lemma Unsettled.after (h : p.Unsettled)
    (hnone : (p.after conclude moves).handle.settled = none) :
    (p.after conclude moves).Unsettled := by
  induction moves generalizing p with
  | nil => exact h
  | cons m moves ih => exact ih (h.move (settled_eq_none_of_after hnone)) hnone

theorem Unsettled.answers_eq (h : p.Unsettled)
    (hnone : (p.after conclude moves).handle.settled = none) :
    p.answers conclude moves = moves.filterMap LaunchMove.putOff := by
  induction moves generalizing p with
  | nil => rfl
  | cons m moves ih =>
    rw [answers, h.answer?_eq, ih (h.move (settled_eq_none_of_after hnone)) hnone,
      List.filterMap_cons]
    cases m.putOff (α := α) <;> rfl

/-- One of the moves settles what is settled at the end. -/
theorem Unsettled.exists_settles (h : p.Unsettled)
    (hsome : (p.after conclude moves).handle.settled = some outcome) :
    ∃ early late, moves = early ++ .settles :: late ∧
      (p.after conclude early).Unsettled ∧
      ((p.after conclude early).move conclude .settles).handle.settled = some outcome := by
  induction moves generalizing p with
  | nil => rw [after_nil, h.settled] at hsome; cases hsome
  | cons m moves ih =>
    cases hsettled : (p.move conclude m).handle.settled with
    | none =>
      obtain ⟨early, late, rfl, hunsettled, hsettles⟩ := ih (h.move hsettled) hsome
      exact ⟨m :: early, late, rfl, hunsettled, hsettles⟩
    | some o =>
      have hm : m = .settles := by
        by_contra hne
        rw [settled_move_of_ne hne, h.settled] at hsettled
        cases hsettled
      subst hm
      have hsame : o = outcome := by
        rw [after_cons, settled_after hsettled] at hsome
        exact Option.some.inj hsome
      exact ⟨[], moves, rfl, h, hsame ▸ hsettled⟩

/-! ### Once an outcome is settled -/

/-- Whether an outcome is there for who comes for it. -/
structure Ready (p : LaunchParties α) (outcome : LaunchOutcome α) : Prop where
  settled : p.handle.settled = some outcome
  taken : p.handle.taken = false

lemma Unsettled.ready (h : p.Unsettled)
    (hsome : (p.move conclude m).handle.settled = some outcome) :
    (p.move conclude m).Ready outcome :=
  ⟨hsome, by simp [taken_move, h.settled, h.taken]⟩

lemma outcomes_of_taken (h : p.handle.taken = true) :
    p.outcomes conclude moves =
      List.replicate (moves.countP LaunchMove.isWait + 1) LaunchHandle.alreadyTaken := by
  induction moves generalizing p with
  | nil => simp [outcomes, answers, last?, LaunchHandle.take?, h]
  | cons m moves ih =>
    have htaken : (p.move conclude m).handle.taken = true := by simp [taken_move, h]
    rw [outcomes_cons, ih htaken]
    cases m with
    | waits limit =>
      simp [answer?, HolderAnswer.outcome?, LaunchHandle.takeWithin, LaunchHandle.take?, h,
        LaunchMove.isWait, List.countP_cons, List.replicate_succ]
    | _ => simp [answer?, HolderAnswer.outcome?, LaunchMove.isWait]

/-- The first who comes for an outcome that is there gets it, and everyone later is told that it was
taken. -/
theorem Ready.outcomes_eq (h : p.Ready outcome) :
    p.outcomes conclude moves =
      outcome :: List.replicate (moves.countP LaunchMove.isWait) LaunchHandle.alreadyTaken := by
  induction moves generalizing p with
  | nil => simp [outcomes, answers, last?, LaunchHandle.take?, h.settled, h.taken]
  | cons m moves ih =>
    have hsettled : (p.move conclude m).handle.settled = some outcome := settled_move h.settled
    by_cases hwait : m.isWait = true
    · have htaken : (p.move conclude m).handle.taken = true := by
        simp [taken_move, hwait, h.settled]
      cases m with
      | waits limit =>
        rw [outcomes_cons, outcomes_of_taken htaken]
        simp [answer?, HolderAnswer.outcome?, LaunchHandle.takeWithin, LaunchHandle.take?,
          h.settled, h.taken, LaunchMove.isWait, List.countP_cons]
      | _ => cases hwait
    · have hready : (p.move conclude m).Ready outcome :=
        ⟨hsettled, by simp [taken_move, hwait, h.taken]⟩
      rw [outcomes_cons, ih hready]
      cases m with
      | waits limit => exact absurd rfl hwait
      | _ => simp [answer?, HolderAnswer.outcome?, LaunchMove.isWait]

lemma finished_of_settled {isFinished : Bool} (h : p.handle.settled = some outcome)
    (hlook : .finished isFinished ∈ p.answers conclude moves) : isFinished = true := by
  induction moves generalizing p with
  | nil => cases hlook
  | cons m moves ih =>
    rw [answers, List.mem_append] at hlook
    rcases hlook with hnow | hlater
    · cases m with
      | looks => simpa [answer?, LaunchHandle.isFinished, h] using hnow
      | _ => simp [answer?] at hnow
    · exact ih (settled_move h) hlater

/-! ### Which outcome it is -/

/-- What the parties tell of the moves before. -/
structure Tells (conclude : WorkerRemains → LaunchOutcome α) (moves : List LaunchMove)
    (p : LaunchParties α) : Prop where
  /-- The holder cancelled or did not. -/
  cancelling : p.handle.cancelling = true ↔ .cancels ∈ moves
  /-- The worker ended by itself. -/
  running : p.stopping = false → p.handle.ended = (firstEnd? moves).map conclude
  /-- Or the watcher stopped it before. -/
  stopping : p.stopping = true → p.handle.ended = none ∧ IsStopped moves
  /-- What is settled is what came of this. -/
  settled : ∀ o ∈ p.handle.settled,
    p.handle.ended = some o ∨ o = .error .cancelled ∧ p.stopping = true

lemma tells_fresh (conclude : WorkerRemains → LaunchOutcome α) : Tells conclude [] fresh := by
  constructor
  · simp [fresh, LaunchHandle.fresh]
  · intro _
    rfl
  · intro hstops
    cases hstops
  · intro o ho
    cases ho

/-- A move that leaves the worker as it is tells nothing new of it. -/
lemma Tells.move_of_same (h : Tells conclude moves p) (hremains : m.remains? = none)
    (hended : (p.move conclude m).handle.ended = p.handle.ended)
    (hstopping : (p.move conclude m).stopping = p.stopping)
    (hsettled : ∀ o ∈ (p.move conclude m).handle.settled,
      p.handle.ended = some o ∨ o = .error .cancelled ∧ p.stopping = true) :
    Tells conclude (moves ++ [m]) (p.move conclude m) := by
  have hfirst : firstEnd? (moves ++ [m]) = firstEnd? moves := by
    simp [firstEnd?, hremains]
  refine ⟨?_, ?_, ?_, ?_⟩
  · rw [cancelling_move, h.cancelling]
    simp [eq_comm]
  · rw [hstopping, hended, hfirst]
    exact h.running
  · rw [hstopping, hended]
    exact fun hstops => ⟨(h.stopping hstops).1, (h.stopping hstops).2.append _⟩
  · rw [hstopping, hended]
    exact hsettled

lemma Tells.ends_of_stopping (h : Tells conclude moves p) (hstops : p.stopping = true)
    (r : WorkerRemains) : Tells conclude (moves ++ [.ends r]) p := by
  refine ⟨?_, ?_, fun _ => ⟨(h.stopping hstops).1, (h.stopping hstops).2.append _⟩, h.settled⟩
  · rw [h.cancelling]
    simp
  · intro hruns
    rw [hstops] at hruns
    cases hruns

lemma Tells.ends_of_running (h : Tells conclude moves p) (hruns : p.stopping = false)
    (r : WorkerRemains) :
    Tells conclude (moves ++ [.ends r]) { p with handle := p.handle.finish (conclude r) } := by
  have hended := h.running hruns
  have hfirst : firstEnd? (moves ++ [.ends r]) = (firstEnd? moves).or (some r) :=
    firstEnd?_append moves [.ends r]
  refine ⟨?_, ?_, ?_, ?_⟩
  · rw [LaunchHandle.cancelling_finish, h.cancelling]
    simp
  · intro _
    rw [hfirst]
    cases hbefore : firstEnd? moves with
    | some first =>
      rw [hbefore] at hended
      simp [LaunchHandle.finish, hended]
    | none =>
      rw [hbefore] at hended
      have hunsettled : p.handle.settled = none := by
        refine Option.eq_none_iff_forall_ne_some.2 fun o ho => ?_
        rcases h.settled o ho with hown | ⟨-, hstops⟩
        · rw [hended] at hown
          cases hown
        · rw [hruns] at hstops
          cases hstops
      simp [LaunchHandle.finish, hended, hunsettled]
  · intro hstops
    rw [hruns] at hstops
    cases hstops
  · intro o ho
    rw [LaunchHandle.settled_finish] at ho
    rcases h.settled o ho with hown | hstopped
    · refine .inl ?_
      simp [LaunchHandle.finish, hown]
    · exact .inr hstopped

/-- The watcher that turns to a wish to cancel has not seen the worker end. -/
lemma Tells.watches (h : Tells conclude moves p) (hcancel : p.handle.cancelling = true)
    (hended : p.handle.ended = none) :
    Tells conclude (moves ++ [.watches]) { p with stopping := true } := by
  have hstopped : IsStopped (moves ++ [.watches]) := by
    cases hstops : p.stopping with
    | true => exact (h.stopping hstops).2.append _
    | false =>
      have hnone : firstEnd? moves = none := by
        rw [h.running hstops, Option.map_eq_none_iff] at hended
        exact hended
      refine ⟨moves ++ [.watches], List.prefix_rfl, ?_, ?_⟩
      · have hmem : [LaunchMove.cancels].Sublist moves :=
          List.singleton_sublist.2 (h.cancelling.1 hcancel)
        exact hmem.append (List.Sublist.refl [LaunchMove.watches])
      · rw [firstEnd?_append, hnone]
        rfl
  refine ⟨?_, nofun, fun _ => ⟨hended, hstopped⟩, ?_⟩
  · rw [h.cancelling]
    simp
  · intro o ho
    rcases h.settled o ho with hown | ⟨hcancelled, -⟩
    · exact .inl hown
    · exact .inr ⟨hcancelled, rfl⟩

/-- The watcher settles what came of the worker. -/
lemma Tells.settles (h : Tells conclude moves p)
    (hover : (p.stopping || p.handle.ended.isSome) = true) :
    ∀ o ∈ p.handle.watch.settled,
      p.handle.ended = some o ∨ o = .error .cancelled ∧ p.stopping = true := by
  intro o ho
  rw [LaunchHandle.settled_watch] at ho
  cases hsettled : p.handle.settled with
  | some o' =>
    rw [hsettled] at ho
    exact h.settled o (hsettled.trans ho)
  | none =>
    cases hended : p.handle.ended with
    | some o' => exact .inl (by simpa [hsettled, hended] using ho)
    | none =>
      have hstops : p.stopping = true := by simpa [hended] using hover
      have hcancel : p.handle.cancelling = true :=
        h.cancelling.2 (h.stopping hstops).2.cancels_mem
      rw [hsettled, hended, hcancel] at ho
      exact .inr ⟨(Option.some.inj ho).symm, hstops⟩

lemma Tells.move (h : Tells conclude moves p) (m : LaunchMove) :
    Tells conclude (moves ++ [m]) (p.move conclude m) := by
  cases m with
  | ends r =>
    rw [LaunchParties.move]
    split_ifs with hstops
    · exact h.ends_of_stopping hstops r
    · exact h.ends_of_running (Bool.eq_false_iff.2 hstops) r
  | watches =>
    by_cases hturns : (p.handle.cancelling && p.handle.ended.isNone) = true
    · rw [LaunchParties.move, if_pos hturns]
      rw [Bool.and_eq_true, Option.isNone_iff_eq_none] at hturns
      exact h.watches hturns.1 hturns.2
    · have hstays : p.move conclude .watches = p := by rw [LaunchParties.move, if_neg hturns]
      refine h.move_of_same rfl ?_ ?_ ?_
      · rw [hstays]
      · rw [hstays]
      · rw [hstays]
        exact h.settled
  | settles =>
    refine h.move_of_same rfl ?_ ?_ ?_
    · rw [LaunchParties.move]
      split_ifs
      · exact p.handle.ended_watch
      · rfl
    · rw [LaunchParties.move]
      split_ifs <;> rfl
    · rw [LaunchParties.move]
      split_ifs with hover
      · exact h.settles hover
      · exact h.settled
  | cancels => exact h.move_of_same rfl rfl rfl h.settled
  | looks => exact h.move_of_same rfl rfl rfl h.settled
  | waits limit =>
    refine h.move_of_same rfl ?_ rfl ?_
    · rw [LaunchParties.move, LaunchHandle.takeWithin_snd]
    · rw [LaunchParties.move, LaunchHandle.takeWithin_snd]
      exact h.settled

/-- The parties tell of all moves from the start of a launch on. -/
lemma tells_after (conclude : WorkerRemains → LaunchOutcome α) (moves : List LaunchMove) :
    Tells conclude moves ((fresh : LaunchParties α).after conclude moves) := by
  induction moves using List.reverseRecOn with
  | nil => exact tells_fresh conclude
  | append_singleton moves m ih =>
    rw [after_concat]
    exact ih.move m

/-- What is settled is what the worker that ended came to, or that it was stopped before. -/
lemma Tells.cases (h : Tells conclude moves p) (hsettled : p.handle.settled = some outcome) :
    (∃ r, firstEnd? moves = some r ∧ outcome = conclude r) ∨
      outcome = .error .cancelled ∧ IsStopped moves := by
  rcases h.settled outcome hsettled with hown | ⟨hcancelled, hstops⟩
  · cases hstops : p.stopping with
    | true => rw [(h.stopping hstops).1] at hown; cases hown
    | false =>
      rw [h.running hstops, Option.map_eq_some_iff] at hown
      obtain ⟨r, hr, rfl⟩ := hown
      exact .inl ⟨r, hr, rfl⟩
  · exact .inr ⟨hcancelled, (h.stopping hstops).2⟩

/-! ### Waiting has an end -/

section Progress

variable {P Q : LaunchParties α → Prop} {a : LaunchMove}

/-- What no move undoes stays. -/
lemma after_of_move (hP : ∀ p m, P p → P (p.move conclude m)) (hp : P p)
    (moves : List LaunchMove) : P (p.after conclude moves) := by
  induction moves generalizing p with
  | nil => exact hp
  | cons m moves ih => exact ih (hP p m hp)

/-- What a move brings about and no move undoes is so after moves with this one. -/
lemma after_of_mem (hP : ∀ p m, P p → P (p.move conclude m))
    (hQ : ∀ p m, Q p → Q (p.move conclude m)) (hbrings : ∀ p, Q p → P (p.move conclude a))
    (ha : a ∈ moves) (hq : Q p) : P (p.after conclude moves) := by
  obtain ⟨early, late, rfl⟩ := List.append_of_mem ha
  rw [after_append, after_cons]
  exact after_of_move hP (hbrings _ (after_of_move hQ hq early)) late

end Progress

/-- Whether the watcher has something to do. -/
def Wanted (p : LaunchParties α) : Prop :=
  p.handle.ended.isSome ∨ p.handle.cancelling = true

/-- Whether the worker is over, by itself or because it is stopped. -/
def Over (p : LaunchParties α) : Prop :=
  p.handle.ended.isSome ∨ p.handle.cancelling = true ∧ p.stopping = true

lemma ended_move (h : p.handle.ended.isSome) (m : LaunchMove) :
    (p.move conclude m).handle.ended.isSome := by
  cases m with
  | ends r => rw [move]; split_ifs <;> simp [LaunchHandle.finish, h]
  | watches => rw [move]; split_ifs <;> exact h
  | settles => rw [move]; split_ifs <;> simp [LaunchHandle.ended_watch, h]
  | cancels => exact h
  | looks => exact h
  | waits limit => simpa [move, LaunchHandle.takeWithin_snd] using h

lemma stopping_move (h : p.stopping = true) (m : LaunchMove) :
    (p.move conclude m).stopping = true := by
  cases m with
  | watches => rw [move]; split_ifs <;> simp [h]
  | _ => simp [move, h]

lemma Wanted.move (h : p.Wanted) (m : LaunchMove) : (p.move conclude m).Wanted :=
  h.imp (ended_move · m) fun hcancel => cancelling_move.2 (.inl hcancel)

lemma Over.move (h : p.Over) (m : LaunchMove) : (p.move conclude m).Over :=
  h.imp (ended_move · m) fun ⟨hcancel, hstops⟩ =>
    ⟨cancelling_move.2 (.inl hcancel), stopping_move hstops m⟩

lemma Tells.wanted (h : Tells conclude moves p)
    (hreason : .cancels ∈ moves ∨ (firstEnd? moves).isSome) : p.Wanted := by
  rcases hreason with hcancels | hends
  · exact .inr (h.cancelling.2 hcancels)
  · cases hstops : p.stopping with
    | true => exact .inr (h.cancelling.2 (h.stopping hstops).2.cancels_mem)
    | false =>
      refine .inl ?_
      rw [h.running hstops, Option.isSome_map]
      exact hends

lemma Wanted.over (h : p.Wanted) : (p.move conclude .watches).Over := by
  rw [LaunchParties.move]
  split_ifs with hturns
  · rw [Bool.and_eq_true] at hturns
    exact .inr ⟨hturns.1, rfl⟩
  · rcases h with hended | hcancel
    · exact .inl hended
    · refine .inl ?_
      simpa [hcancel, Option.isSome_iff_ne_none] using hturns

lemma Over.settled (h : p.Over) : (p.move conclude .settles).handle.settled.isSome := by
  have hover : (p.stopping || p.handle.ended.isSome) = true := by
    rcases h with hended | ⟨-, hstops⟩
    · simp [hended]
    · simp [hstops]
  rw [LaunchParties.move, if_pos hover, LaunchHandle.settled_watch]
  rcases h with hended | ⟨hcancel, -⟩
  · simp [hended]
  · simp [hcancel]

lemma Tells.over (h : Tells conclude moves p)
    (hover : p.stopping = true ∨ p.handle.ended.isSome) : p.Over := by
  rcases hover with hstops | hended
  · exact .inr ⟨h.cancelling.2 (h.stopping hstops).2.cancels_mem, hstops⟩
  · exact .inl hended

/-- An outcome is settled if the watcher looks at a worker that has ended or is to be stopped, and
the streams come to their end after that. -/
lemma settled_of_sublist {first : LaunchMove} (conclude : WorkerRemains → LaunchOutcome α)
    (hfirst : first = .cancels ∨ first.remains?.isSome)
    (h : [first, .watches, .settles].Sublist moves) :
    ((fresh : LaunchParties α).after conclude moves).handle.settled.isSome := by
  obtain ⟨early, rest, rfl, hmem, hrest⟩ := List.cons_sublist_iff.1 h
  obtain ⟨mid, late, rfl, hwatches, hlate⟩ := List.cons_sublist_iff.1 hrest
  have hreason : .cancels ∈ early ∨ (firstEnd? early).isSome := by
    rcases hfirst with rfl | hends
    · exact .inl hmem
    · exact .inr (List.findSome?_isSome_iff.2 ⟨first, hmem, hends⟩)
  have hover : (((fresh : LaunchParties α).after conclude early).after conclude mid).Over :=
    after_of_mem (fun _ m => (Over.move · m)) (fun _ m => (Wanted.move · m))
      (fun _ => Wanted.over) hwatches ((tells_after conclude early).wanted hreason)
  rw [after_append, after_append]
  refine after_of_mem (P := fun p => p.handle.settled.isSome) ?_ (fun _ m => (Over.move · m))
    (fun _ => Over.settled) (List.singleton_sublist.1 hlate) hover
  intro p m hsettled
  obtain ⟨o, ho⟩ := Option.isSome_iff_exists.1 hsettled
  rw [settled_move ho]
  rfl

lemma last?_of_settled (h : p.handle.settled.isSome) : p.last?.isSome := by
  rw [last?, Option.isSome_map, LaunchHandle.isSome_take?, LaunchHandle.isFinished, h, Bool.or_true]

/-! ### The whole of it -/

/-- Whether a launch delivers its outcome once to a holder who waits for as long as it takes after
some moves, and the outcome is what came first. -/
structure DeliversOnce {α : Type} (conclude : WorkerRemains → LaunchOutcome α)
    (moves : List LaunchMove) : Prop where
  /-- As long as nothing is settled, the holder is put off, and who waits for as long as it takes
  waits on; but who is put off has lost nothing. -/
  patient : ∀ early late, moves = early ++ late →
    (fresh.after conclude early).handle.settled = none →
      fresh.answers conclude early = early.filterMap LaunchMove.putOff ∧
        (fresh.after conclude early).last? = none ∧
        ∀ limit, fresh.after conclude (early ++ [.waits limit]) = fresh.after conclude early
  /-- The outcome is there from one move of the watcher on.  The first who comes for it after that
  gets it, and everyone later is told that it was taken; who looks sees that it is there. -/
  once : ∀ outcome ∈ (fresh.after conclude moves).handle.settled,
    ∃ early late, moves = early ++ .settles :: late ∧
      (fresh.after conclude early).handle.settled = none ∧
      fresh.outcomes conclude moves =
        (early.filterMap LaunchMove.limit?).map (fun limit => .error (.timedOut limit)) ++
          outcome :: List.replicate (late.countP LaunchMove.isWait) LaunchHandle.alreadyTaken ∧
      ∀ isFinished, .finished isFinished ∈
          (fresh.after conclude (early ++ [.settles])).answers conclude late → isFinished = true
  /-- The outcome is not one of the other answers. -/
  told : ∀ outcome ∈ (fresh.after conclude moves).handle.settled,
    outcome ≠ LaunchHandle.alreadyTaken ∧ ∀ limit, outcome ≠ .error (.timedOut limit)
  /-- It is the outcome of the worker's own end, or that of a cancelled launch. -/
  own : ∀ outcome ∈ (fresh.after conclude moves).handle.settled,
    (∃ r, firstEnd? moves = some r ∧ outcome = conclude r) ∨ outcome = .error .cancelled
  /-- A launch is cancelled only if the holder wanted this before the worker was seen to have
  ended, and the watcher turned to it. -/
  cancelled : .error .cancelled ∈ (fresh.after conclude moves).handle.settled → IsStopped moves
  /-- If the worker ended before the watcher turned to a wish to cancel, the outcome is that of its
  end, whatever the holder wants after that. -/
  kept : ∀ early r late, moves = early ++ .ends r :: late → firstEnd? early = none →
    ¬ [.cancels, .watches].Sublist early →
      ∀ outcome ∈ (fresh.after conclude moves).handle.settled, outcome = conclude r
  /-- The waiting has an end if the watcher looks at a worker that has ended or is to be stopped,
  and the streams of the worker come to their end after that. -/
  ends : ∀ first, first = .cancels ∨ first.remains?.isSome →
    [first, .watches, .settles].Sublist moves → (fresh.after conclude moves).last?.isSome

lemma filterMap_outcome?_putOff (moves : List LaunchMove) :
    (moves.filterMap LaunchMove.putOff).filterMap (HolderAnswer.outcome? (α := α)) =
      (moves.filterMap LaunchMove.limit?).map fun limit => .error (.timedOut limit) := by
  rw [List.filterMap_filterMap, List.map_filterMap]
  congr 1
  funext m
  cases m <;> rfl

/-- Every launch delivers its outcome once if what it concludes is its own. -/
lemma deliversOnce_of_isGenuine (hconclude : ∀ r, IsGenuine (conclude r))
    (moves : List LaunchMove) : DeliversOnce conclude moves := by
  have htells := tells_after conclude moves
  constructor
  case patient =>
    rintro early late - hnone
    have hunsettled : (fresh.after conclude early).Unsettled := unsettled_fresh.after hnone
    refine ⟨unsettled_fresh.answers_eq hnone, hunsettled.last?_eq, fun limit => ?_⟩
    rw [after_concat, hunsettled.move_waits]
  case once =>
    intro outcome hsettled
    obtain ⟨early, late, rfl, hunsettled, hsettles⟩ := unsettled_fresh.exists_settles hsettled
    have hready : ((fresh.after conclude early).move conclude .settles).Ready outcome :=
      hunsettled.ready hsettles
    have hnothing : (fresh.after conclude early).answer? .settles = none := rfl
    refine ⟨early, late, rfl, hunsettled.settled, ?_, fun isFinished hlook => ?_⟩
    · rw [outcomes_append, unsettled_fresh.answers_eq hunsettled.settled,
        filterMap_outcome?_putOff, outcomes_cons, hready.outcomes_eq, hnothing]
      rfl
    · rw [after_concat] at hlook
      exact finished_of_settled hsettles hlook
  case told =>
    intro outcome hsettled
    rcases htells.cases hsettled with ⟨r, -, rfl⟩ | ⟨rfl, -⟩
    · exact ⟨(hconclude r).not_taken, (hconclude r).not_timedOut⟩
    · exact ⟨nofun, nofun⟩
  case own =>
    intro outcome hsettled
    exact (htells.cases hsettled).imp id And.left
  case cancelled =>
    intro hsettled
    rcases htells.cases hsettled with ⟨r, -, hcancelled⟩ | ⟨-, hstopped⟩
    · exact absurd hcancelled.symm (hconclude r).not_cancelled
    · exact hstopped
  case kept =>
    rintro early r late rfl hfirst hearly outcome hsettled
    rcases htells.cases hsettled with ⟨r', hr', rfl⟩ | ⟨-, hstopped⟩
    · have hends : firstEnd? (early ++ .ends r :: late) = some r := by
        rw [firstEnd?_append, hfirst]
        rfl
      rw [hends] at hr'
      rw [Option.some.inj hr']
    · exact absurd hstopped.sublist_of_ends hearly
  case ends =>
    intro first hfirst hmoves
    exact last?_of_settled (settled_of_sublist conclude hfirst hmoves)

/-- A worker that has ended is not stopped any more, -/
example (r : WorkerRemains) (limit : Duration) :
    fresh.outcomes conclude [.waits limit, .ends r, .cancels, .watches, .settles, .waits limit] =
      [.error (.timedOut limit), conclude r, LaunchHandle.alreadyTaken] := rfl

/-- and one that is stopped does not end by itself. -/
example (r : WorkerRemains) :
    fresh.outcomes conclude [.cancels, .watches, .ends r, .settles] = [.error .cancelled] := rfl

end LaunchParties

end JobSupervision
