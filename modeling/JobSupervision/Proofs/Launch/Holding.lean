/-
# Launches in the hands of their holders

While the time goes on, the worker of a launch and its watcher move when they are due.  Whatever
the holder does and whenever, the launch is where the three parties get by some moves
(`Launched.Reached`), and what the holder is told is what they are told who move like that
(`Launched.Accords`).  So everything that is so of all moves is so of a launch on a machine.
-/
import Mathlib.Tactic.Common
import JobSupervision.Proofs.Launch.Delivery
import JobSupervision.Proofs.Launch.Outcome

namespace JobSupervision

open LaunchParties (fresh)

lemma LaunchParties.answers_of_filter {α : Type} {conclude : WorkerRemains → LaunchOutcome α}
    {p : LaunchParties α} {moves : List LaunchMove}
    (h : moves.filter LaunchMove.isHolders = []) : p.answers conclude moves = [] := by
  induction moves generalizing p with
  | nil => rfl
  | cons m moves ih =>
    have hnot := List.filter_eq_nil_iff.1 h
    have hnone : p.answer? m = none := by
      have hm : m.isHolders = false := by simpa using hnot m (List.mem_cons_self ..)
      cases m with
      | looks => cases hm
      | waits limit => cases hm
      | _ => rfl
    have hrest : moves.filter LaunchMove.isHolders = [] :=
      List.filter_eq_nil_iff.2 fun m hm => hnot m (List.mem_cons_of_mem _ hm)
    rw [answers, hnone, ih hrest]
    rfl

namespace Launched

variable {V : Type} {conclude : WorkerRemains → LaunchOutcome V} {r : WorkerRemains}
  {gone? : Option Nat} {l : Launched V} {now later : Nat} {moves : List LaunchMove}

/-- Whether a launch whose worker ends at some time is where the parties get by some moves. -/
structure Reached (conclude : WorkerRemains → LaunchOutcome V) (r : WorkerRemains)
    (gone? : Option Nat) (l : Launched V) (now : Nat) (moves : List LaunchMove) : Prop where
  /-- The outcome is what the end of the worker comes to. -/
  outcome : l.outcome = conclude r
  /-- The worker ends at its time. -/
  endsAt : l.endsAt? = gone?
  /-- The handle is the same. -/
  handle : l.handle = (fresh.after conclude moves).handle
  /-- The worker is stopped or is not. -/
  stopping : l.stoppedAt.isSome = (fresh.after conclude moves).stopping
  /-- The worker ends in its way. -/
  own : ∀ r', .ends r' ∈ moves → r' = r
  /-- A worker that ends by itself is seen to have ended in time. -/
  punctual : ∀ time ∈ gone?, time ≤ now → l.stoppedAt.isSome ∨ l.handle.ended.isSome

lemma Reached.stop (h : l.Reached conclude r gone? now moves) (hstops : l.isToBeStopped = true)
    (time later : Nat) :
    { l with stoppedAt := some time }.Reached conclude r gone? later
      (moves ++ [LaunchMove.watches]) := by
  simp only [isToBeStopped, Bool.and_eq_true] at hstops
  have hturns : ((fresh.after conclude moves).handle.cancelling &&
      (fresh.after conclude moves).handle.ended.isNone) = true := by
    rw [← h.handle, Bool.and_eq_true]
    exact ⟨hstops.1.1, hstops.2⟩
  have hmove : fresh.after conclude (moves ++ [LaunchMove.watches]) =
      { fresh.after conclude moves with stopping := true } := by
    rw [LaunchParties.after_concat, LaunchParties.move, if_pos hturns]
  refine ⟨h.outcome, h.endsAt, ?_, ?_, by simpa using h.own, fun _ _ _ => .inl rfl⟩
  · rw [hmove]
    exact h.handle
  · rw [hmove]
    rfl

lemma Reached.finish (h : l.Reached conclude r gone? now moves) (hruns : l.stoppedAt = none)
    (later : Nat) :
    { l with handle := l.handle.finish l.outcome }.Reached conclude r gone? later
      (moves ++ [LaunchMove.ends r]) := by
  have htells := LaunchParties.tells_after conclude moves
  have hstopping : (fresh.after conclude moves).stopping = false := by
    rw [← h.stopping, hruns]
    rfl
  have hmove : fresh.after conclude (moves ++ [LaunchMove.ends r]) =
      { fresh.after conclude moves with handle := l.handle.finish l.outcome } := by
    rw [LaunchParties.after_concat, LaunchParties.move, if_neg (Bool.eq_false_iff.1 hstopping),
      h.handle, h.outcome]
  have hended : (l.handle.finish l.outcome).ended.isSome := by
    rw [LaunchHandle.finish]
    split_ifs with hover
    · rw [Bool.or_eq_true] at hover
      rcases hover with hended | hsettled
      · exact hended
      · obtain ⟨o, ho⟩ := Option.isSome_iff_exists.1 hsettled
        rw [h.handle] at ho ⊢
        rcases htells.settled o ho with hown | ⟨-, hstops⟩
        · simp [hown]
        · rw [hstopping] at hstops
          cases hstops
    · rfl
  refine ⟨h.outcome, h.endsAt, ?_, ?_, fun r' hr' => ?_, fun _ _ _ => .inr hended⟩
  · rw [hmove]
  · rw [hmove]
    exact h.stopping
  · rcases List.mem_append.1 hr' with hold | hnew
    · exact h.own r' hold
    · exact LaunchMove.ends.inj (List.mem_singleton.1 hnew)

/-- The worker is over as far as it is by some time. -/
lemma Reached.endBy (h : l.Reached conclude r gone? now moves) (later : Nat) :
    ∃ more, more.filter LaunchMove.isHolders = [] ∧
      (l.endBy now later).Reached conclude r gone? later (moves ++ more) := by
  have hstays (hend : ∀ time ∈ gone?, time ≤ later → l.stoppedAt.isSome) :
      l.Reached conclude r gone? later (moves ++ []) := by
    rw [List.append_nil]
    exact ⟨h.outcome, h.endsAt, h.handle, h.stopping, h.own,
      fun time hends hle => .inl (hend time hends hle)⟩
  rw [Launched.endBy]
  split_ifs with hstops
  · rw [Bool.and_eq_true] at hstops
    exact ⟨[.watches], rfl, h.stop hstops.1 _ later⟩
  · split
    · next time hruns hends =>
      split_ifs with hover
      · exact ⟨[.ends r], rfl, h.finish hruns later⟩
      · refine ⟨[], rfl, hstays fun time' hends' hle => absurd hle ?_⟩
        obtain rfl : time = time' := Option.some.inj ((h.endsAt ▸ hends).symm.trans hends')
        exact hover
    · next hcases =>
      refine ⟨[], rfl, hstays fun time hends hle => ?_⟩
      cases hstopped : l.stoppedAt with
      | some stopped => rfl
      | none => exact absurd (h.endsAt.trans hends) (hcases time hstopped)

lemma Reached.watchAt (h : l.Reached conclude r gone? now moves)
    (hover : l.stoppedAt.isSome ∨ l.handle.ended.isSome) (time : Nat) :
    (l.watchAt time).Reached conclude r gone? now (moves ++ [.settles]) := by
  have hmove : (fresh.after conclude (moves ++ [.settles])) =
      { fresh.after conclude moves with handle := l.handle.watch } := by
    have hover' : ((fresh.after conclude moves).stopping ||
        (fresh.after conclude moves).handle.ended.isSome) = true := by
      rwa [← h.stopping, ← h.handle, Bool.or_eq_true]
    rw [LaunchParties.after_concat, LaunchParties.move, if_pos hover', h.handle]
  refine ⟨h.outcome, h.endsAt, ?_, ?_, by simpa using h.own, ?_⟩
  · rw [hmove]
    rfl
  · rw [hmove]
    exact h.stopping
  · intro time' hends htime
    refine (h.punctual time' hends htime).imp id fun hended => ?_
    change l.handle.watch.ended.isSome
    rwa [LaunchHandle.ended_watch]

/-- A worker with a time when its streams are at their end is over by then. -/
lemma Reached.over (h : l.Reached conclude r gone? now moves) {time : Nat}
    (hsettles : l.overAt?.bind l.settlesAfter? = some time) (htime : time ≤ now) :
    l.stoppedAt.isSome ∨ l.handle.ended.isSome := by
  obtain ⟨gone, hgone, hafter⟩ := Option.bind_eq_some_iff.1 hsettles
  have hle : gone ≤ time := by
    rw [settlesAfter?, Option.map_eq_some_iff] at hafter
    obtain ⟨held, -, rfl⟩ := hafter
    exact Nat.le_max_left _ _
  cases hstopped : l.stoppedAt with
  | some stopped => exact .inl rfl
  | none =>
    rw [overAt?, hstopped] at hgone
    have hended := h.punctual gone (h.endsAt ▸ hgone) (Nat.le_trans hle htime)
    rwa [hstopped] at hended

/-- While the time goes on, the worker and the watcher move. -/
lemma Reached.passTo (h : l.Reached conclude r gone? now moves) (later : Nat) :
    ∃ more, more.filter LaunchMove.isHolders = [] ∧
      (l.passTo now later).Reached conclude r gone? later (moves ++ more) := by
  obtain ⟨more, hmore, hended⟩ := h.endBy later
  rw [Launched.passTo]
  split
  · next time hsettles =>
    split_ifs with htime
    · refine ⟨more ++ [.settles], ?_, ?_⟩
      · rw [List.filter_append, hmore]
        rfl
      · rw [← List.append_assoc]
        exact hended.watchAt (hended.over hsettles htime) time
    · exact ⟨more, hmore, hended⟩
  · exact ⟨more, hmore, hended⟩

/-! ### What the holder does -/

lemma Reached.waits (h : l.Reached conclude r gone? now moves) (limit : Duration) :
    { l with handle := (l.handle.takeWithin limit).2 }.Reached conclude r gone? now
      (moves ++ [LaunchMove.waits limit]) := by
  have hmove : fresh.after conclude (moves ++ [LaunchMove.waits limit]) =
      { fresh.after conclude moves with handle := (l.handle.takeWithin limit).2 } := by
    rw [LaunchParties.after_concat, LaunchParties.move, h.handle]
  refine ⟨h.outcome, h.endsAt, ?_, ?_, by simpa using h.own, ?_⟩
  · rw [hmove]
  · rw [hmove]
    exact h.stopping
  · intro time hends htime
    refine (h.punctual time hends htime).imp id fun hended => ?_
    change (l.handle.takeWithin limit).2.ended.isSome
    rwa [LaunchHandle.takeWithin_snd]

/-- Waiting for some time at most is waiting for something, and then coming for it. -/
lemma wait_some_eq (l : Launched V) (now millis : Nat) :
    ∃ time l', (l' = l ∧ time = now ∨ l' = l.passTo now time) ∧
      l.wait now (some millis) = some (time, (l'.handle.takeWithin (.ofMillis millis)).1,
        { l' with handle := (l'.handle.takeWithin (.ofMillis millis)).2 }) := by
  cases htake : l.handle.take? with
  | some taken =>
    refine ⟨now, l, .inl ⟨rfl, rfl⟩, ?_⟩
    simp [wait, htake, LaunchHandle.takeWithin]
  | none =>
    cases hsettles : l.settlesAt? now with
    | none =>
      refine ⟨now + millis, l.passTo now (now + millis), .inr rfl, ?_⟩
      simp [wait, htake, hsettles]
    | some time =>
      refine ⟨min time (now + millis), l.passTo now (min time (now + millis)), .inr rfl, ?_⟩
      simp [wait, htake, hsettles]

/-- An action is made of the holder's moves and those of the others meanwhile. -/
lemma Reached.act (h : l.Reached conclude r gone? now moves) (d : HolderAction) :
    ∃ time answer l' more, l.act now d = some (time, answer, l') ∧
      more.filter LaunchMove.isHolders = d.moves ∧
      answer.toList = (fresh.after conclude moves).answers conclude more ∧
      l'.Reached conclude r gone? time (moves ++ more) := by
  cases d with
  | rests millis =>
    obtain ⟨more, hmore, hreached⟩ := h.passTo (now + millis)
    refine ⟨now + millis, none, _, more, rfl, hmore, ?_, hreached⟩
    rw [LaunchParties.answers_of_filter hmore]
    rfl
  | cancels =>
    refine ⟨now, none, l.cancel, [.cancels], rfl, rfl, rfl, h.outcome, h.endsAt, ?_, ?_,
      by simpa using h.own, h.punctual⟩
    · rw [LaunchParties.after_concat]
      exact congrArg LaunchHandle.cancel h.handle
    · rw [LaunchParties.after_concat]
      exact h.stopping
  | looks =>
    refine ⟨now, some (.finished l.handle.isFinished), l, [.looks], rfl, rfl, ?_, h.outcome,
      h.endsAt, ?_, ?_, by simpa using h.own, h.punctual⟩
    · rw [h.handle]
      rfl
    · rw [LaunchParties.after_concat]
      exact h.handle
    · rw [LaunchParties.after_concat]
      exact h.stopping
  | waits millis =>
    obtain ⟨time, l', hl', hwait⟩ := l.wait_some_eq now millis
    have hmeanwhile : ∃ more, more.filter LaunchMove.isHolders = [] ∧
        l'.Reached conclude r gone? time (moves ++ more) := by
      rcases hl' with ⟨rfl, rfl⟩ | rfl
      · exact ⟨[], rfl, by rwa [List.append_nil]⟩
      · exact h.passTo time
    obtain ⟨more, hmore, hreached⟩ := hmeanwhile
    have hact : l.act now (.waits millis) =
        some (time, some (.outcome (l'.handle.takeWithin (.ofMillis millis)).1),
          { l' with handle := (l'.handle.takeWithin (.ofMillis millis)).2 }) := by
      rw [Launched.act, hwait]
      rfl
    refine ⟨time, _, _, more ++ [LaunchMove.waits (.ofMillis millis)], hact, ?_, ?_, ?_⟩
    · rw [List.filter_append, hmore]
      rfl
    · rw [LaunchParties.answers_append, LaunchParties.answers_of_filter hmore,
        ← LaunchParties.after_append, hreached.handle]
      rfl
    · rw [← List.append_assoc]
      exact hreached.waits _

lemma hold_concat {actions : List HolderAction} {d : HolderAction} {time time' : Nat}
    {answers : List (HolderAnswer V)} {answer : Option (HolderAnswer V)} {l' l'' : Launched V}
    (hhold : l.hold now actions = some (time, answers, l'))
    (hact : l'.act time d = some (time', answer, l'')) :
    l.hold now (actions ++ [d]) = some (time', answers ++ answer.toList, l'') := by
  induction actions generalizing l now answers with
  | nil =>
    cases hhold
    simp [hold, hact]
  | cons d' actions ih =>
    simp only [hold, Option.bind_eq_bind, Option.bind_eq_some_iff] at hhold
    obtain ⟨⟨now', answer', l₁⟩, hfirst, ⟨time₁, answers₁, l₂⟩, hrest, heq⟩ := hhold
    cases heq
    simp [hold, hfirst, ih hrest]

/-! ### Waiting for as long as it takes -/

lemma passTo_of_settlesAt? {time : Nat} (hsettles : l.settlesAt? now = some time) :
    l.passTo now time = (l.endBy now time).watchAt time ∧
      (l.endBy now time).overAt?.bind (l.endBy now time).settlesAfter? = some time := by
  have hover : (l.endBy now time).overAt?.bind (l.endBy now time).settlesAfter? = some time := by
    rw [settlesAt?] at hsettles
    rw [endBy]
    split_ifs at hsettles with hstops
    · have hlater : now < time := by
        rw [Option.bind_some, settlesAfter?, Option.map_eq_some_iff] at hsettles
        obtain ⟨held, -, rfl⟩ := hsettles
        exact Nat.lt_of_lt_of_le (Nat.lt_succ_self now) (Nat.le_max_left _ _)
      rw [if_pos (by simp [hstops, hlater])]
      exact hsettles
    · -- nothing that counts for the time changes when the worker ends by itself
      rw [if_neg (by simp [hstops])]
      split
      · split_ifs <;> exact hsettles
      · exact hsettles
  refine ⟨?_, hover⟩
  simp [passTo, hover]

lemma wait_none_cases {time : Nat} {outcome : LaunchOutcome V} {l' : Launched V}
    (hwait : l.wait now none = some (time, outcome, l')) :
    (∃ handle, l.handle.take? = some (outcome, handle)) ∨
      l.settlesAt? now = some time ∧
        outcome = ((l.passTo now time).handle.takeWithin (.ofMillis 0)).1 := by
  cases htake : l.handle.take? with
  | some taken =>
    simp only [wait, htake] at hwait
    cases hwait
    exact .inl ⟨_, rfl⟩
  | none =>
    cases hsettles : l.settlesAt? now with
    | some time' =>
      simp only [wait, htake, hsettles] at hwait
      cases hwait
      exact .inr ⟨rfl, rfl⟩
    | none =>
      simp only [wait, htake, hsettles] at hwait
      cases hwait

/-- Who waits for as long as it takes comes for an outcome that is there. -/
lemma Reached.wait_none (h : l.Reached conclude r gone? now moves) {time : Nat}
    {outcome : LaunchOutcome V} {l' : Launched V}
    (hwait : l.wait now none = some (time, outcome, l')) :
    ∃ more, more.filter LaunchMove.isHolders = [] ∧ (∀ r', .ends r' ∈ more → r' = r) ∧
      (fresh.after conclude (moves ++ more)).last? = some outcome := by
  rcases wait_none_cases hwait with ⟨handle, htake⟩ | ⟨hsettles, rfl⟩
  · refine ⟨[], rfl, by simp, ?_⟩
    rw [List.append_nil, LaunchParties.last?, ← h.handle, htake]
    rfl
  · obtain ⟨hpass, hafter⟩ := passTo_of_settlesAt? hsettles
    obtain ⟨more, hmore, hended⟩ := h.endBy time
    have hover := hended.over hafter (Nat.le_refl time)
    have hreached := hended.watchAt hover time
    rw [← hpass] at hreached
    have hthere : (l.passTo now time).handle.settled.isSome := by
      rw [hreached.handle, LaunchParties.after_concat]
      have hdone : (fresh.after conclude (moves ++ more)).Over := by
        refine (LaunchParties.tells_after conclude _).over ?_
        rwa [← hended.stopping, ← hended.handle]
      exact hdone.settled
    have htake : (l.passTo now time).handle.take?.isSome := by
      rw [LaunchHandle.isSome_take?, LaunchHandle.isFinished, hthere, Bool.or_true]
    obtain ⟨taken, htaken⟩ := Option.isSome_iff_exists.1 htake
    rw [List.append_assoc] at hreached
    refine ⟨more ++ [.settles], ?_, fun r' hr' => ?_, ?_⟩
    · rw [List.filter_append, hmore]
      rfl
    · exact hreached.own r' (List.mem_append_right _ hr')
    · rw [LaunchParties.last?, ← hreached.handle, LaunchHandle.takeWithin,
        htaken]
      rfl

/-! ### The whole of it -/

/-- Whether a worker that has ended by the end of some actions is seen to have ended in the course
of these actions, unless the holder wanted it to be stopped. -/
def SeesEnd (l : Launched V) (now : Nat) (moves : List LaunchMove) (actions : List HolderAction) :
    Prop :=
  .cancels ∉ actions → ∀ gone ∈ l.endsAt?, ∀ time answers l',
    l.hold now actions = some (time, answers, l') → gone ≤ time →
      ∃ early, early <+: moves ∧
        early.filter LaunchMove.isHolders = actions.flatMap HolderAction.moves ∧
        (firstEnd? early).isSome

/-- Whether moves of the three parties are those in the course of some actions of a launch's holder
from a time on, where the worker ends in one way. -/
structure Accords (conclude : WorkerRemains → LaunchOutcome V) (r : WorkerRemains)
    (l : Launched V) (now : Nat) (actions : List HolderAction) (moves : List LaunchMove) :
    Prop where
  /-- The holder's moves are the actions. -/
  holders : moves.filter LaunchMove.isHolders = actions.flatMap HolderAction.moves
  /-- The holder is told the same. -/
  told : (l.hold now actions).map (·.2.1) = some (fresh.answers conclude moves)
  /-- The worker ends in its way, -/
  own : ∀ r', .ends r' ∈ moves → r' = r
  /-- and among the moves before whatever the holder does after its end. -/
  punctual : ∀ before, before <+: actions → l.SeesEnd now moves before
  /-- Who waits for as long as it takes after the actions is told what is there after some more
  moves of the worker and the watcher. -/
  last : ∀ time answers l', l.hold now actions = some (time, answers, l') →
    ∀ ended outcome l'', l'.wait time none = some (ended, outcome, l'') →
      ∃ more, more.filter LaunchMove.isHolders = [] ∧ (∀ r', .ends r' ∈ more → r' = r) ∧
        (fresh.after conclude (moves ++ more)).last? = some outcome

lemma SeesEnd.append {actions : List HolderAction} (h : l.SeesEnd now moves actions)
    (more : List LaunchMove) : l.SeesEnd now (moves ++ more) actions := by
  intro hnot gone hgone time answers l' hhold hle
  obtain ⟨early, hearly, hholders, hends⟩ := h hnot gone hgone time answers l' hhold hle
  exact ⟨early, hearly.trans (List.prefix_append _ _), hholders, hends⟩

section Actions

variable {actions : List HolderAction} {time : Nat} {answers : List (HolderAnswer V)}
    {l' : Launched V}

lemma cancels_mem_of_flatMap (h : .cancels ∈ actions.flatMap HolderAction.moves) :
    .cancels ∈ actions := by
  obtain ⟨d, hd, hmem⟩ := List.mem_flatMap.1 h
  cases d with
  | cancels => exact hd
  | _ => simp [HolderAction.moves] at hmem

/-- A worker that nobody wanted to be stopped is seen to have ended by itself. -/
lemma Reached.seesEnd (h : l'.Reached conclude r l.endsAt? time moves)
    (hholders : moves.filter LaunchMove.isHolders = actions.flatMap HolderAction.moves)
    (hhold : l.hold now actions = some (time, answers, l')) : l.SeesEnd now moves actions := by
  intro hnot gone hgone time' answers' l'' hhold' hle
  rw [hhold] at hhold'
  cases hhold'
  have htells := LaunchParties.tells_after conclude moves
  have hruns : (fresh.after conclude moves).stopping = false := by
    by_contra hstops
    have hcancels := (htells.stopping (Bool.of_not_eq_false hstops)).2.cancels_mem
    refine hnot (cancels_mem_of_flatMap ?_)
    rw [← hholders]
    exact List.mem_filter.2 ⟨hcancels, rfl⟩
  have hended : l'.handle.ended.isSome := by
    refine (h.punctual gone hgone hle).resolve_left ?_
    rw [h.stopping, hruns]
    nofun
  rw [h.handle, htells.running hruns, Option.isSome_map] at hended
  exact ⟨moves, List.prefix_rfl, hholders, hended⟩

lemma Reached.accords_of_hold (h : l'.Reached conclude r l.endsAt? time moves)
    (hholders : moves.filter LaunchMove.isHolders = actions.flatMap HolderAction.moves)
    (hhold : l.hold now actions = some (time, fresh.answers conclude moves, l'))
    (hbefore : ∀ before, before <+: actions → before ≠ actions → l.SeesEnd now moves before) :
    l.Accords conclude r now actions moves := by
  refine ⟨hholders, by rw [hhold]; rfl, h.own, fun before hprefix => ?_, ?_⟩
  · by_cases hall : before = actions
    · subst hall
      exact h.seesEnd hholders hhold
    · exact hbefore before hprefix hall
  · intro time' answers' l'' hhold' ended outcome l₃ hwait
    rw [hhold] at hhold'
    cases hhold'
    exact h.wait_none hwait

/-- Whatever the holder does, the parties get by some moves to where it leads. -/
lemma Reached.accords (h : l.Reached conclude r l.endsAt? now []) (actions : List HolderAction) :
    ∃ moves, l.Accords conclude r now actions moves ∧ ∃ time l',
      l.hold now actions = some (time, fresh.answers conclude moves, l') ∧
        l'.Reached conclude r l.endsAt? time moves := by
  induction actions using List.reverseRecOn with
  | nil =>
    refine ⟨[], h.accords_of_hold rfl rfl fun before hprefix hne => ?_, now, l, rfl, h⟩
    exact absurd (List.prefix_nil.1 hprefix) hne
  | append_singleton actions d ih =>
    obtain ⟨moves, haccords, time, l', hhold, hreached⟩ := ih
    obtain ⟨time', answer, l'', more, hact, hmore, hanswer, hreached'⟩ := hreached.act d
    have hhold' : l.hold now (actions ++ [d]) =
        some (time', fresh.answers conclude (moves ++ more), l'') := by
      rw [hold_concat hhold hact, hanswer, LaunchParties.answers_append]
    have hholders : (moves ++ more).filter LaunchMove.isHolders =
        (actions ++ [d]).flatMap HolderAction.moves := by
      simp [haccords.holders, hmore]
    refine ⟨moves ++ more, hreached'.accords_of_hold hholders hhold' ?_, time', l'', hhold',
      hreached'⟩
    intro before hprefix hne
    have hbefore : before <+: actions := (List.prefix_concat_iff.1 hprefix).resolve_left hne
    exact (haccords.punctual before hbefore).append more

end Actions

end Launched

/-- A launch that goes through is where the parties start. -/
lemma Machine.reached_launched {W V : Type} (m : Machine) (settings : LauncherSettings)
    (work : WorkType W V) (run : ProgramRun) :
    (m.launched settings work run).Reached (fun r => r.conclude settings work)
      (m.remains settings run) (m.launched settings work run).endsAt? m.clock [] := by
  refine ⟨rfl, rfl, rfl, rfl, by simp, ?_⟩
  intro gone hgone hle
  obtain ⟨ending, -, rfl⟩ := Option.map_eq_some_iff.1 hgone
  simp only [launched, Launched.moment] at hle
  omega

/-- A launch delivers its outcome once, however its worker, its watcher and the holder of its handle
move.  So does every launch that goes through on a machine, whatever its worker does and whatever
its holder does and when: these are moves of the three parties too. -/
theorem launch_deliversOnce {W V : Type} (settings : LauncherSettings) (work : WorkType W V) :
    (∀ moves, LaunchParties.DeliversOnce (fun r => r.conclude settings work) moves) ∧
      ∀ (m : Machine) (run : ProgramRun) (actions : List HolderAction), ∃ moves,
        (m.launched settings work run).Accords (fun r => r.conclude settings work)
          (m.remains settings run) m.clock actions moves := by
  refine ⟨?_, fun m run actions => ?_⟩
  · exact LaunchParties.deliversOnce_of_isGenuine fun r => r.isGenuine_conclude settings work
  · obtain ⟨moves, haccords, -⟩ := (m.reached_launched settings work run).accords actions
    exact ⟨moves, haccords⟩

end JobSupervision
