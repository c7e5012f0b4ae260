/-
# Schedules

One way to let the tasks of a world go on, on a virtual clock.  A task goes on until it has to
wait; tasks whose wait is over queue up and take turns; and the time stands still as long as
any task can go on, then it jumps to the earliest time that somebody waits for.  A request
made from outside goes first whenever it can go on, and all else waits until it cannot; while
it waits the others take turns in rounds, and it is looked at again after each round.
-/
import JobSupervision.Supervision.Step

namespace JobSupervision.Supervision

/-- A world with the tasks that wait for their turn. -/
structure Schedule (σ : Type) where
  /-- The world. -/
  world : World σ
  /-- The tasks that can go on, in the order of their turns. -/
  ready : List TaskId

namespace World

variable {σ : Type}

/-- Lets a task go on until it has to wait.  The fuel bounds the steps. -/
def advance (rules : Rules) (cluster : Cluster σ) : Nat → World σ → TaskId → World σ
  | 0, w, _ => w
  | fuel + 1, w, t =>
    if w.isEnabled t then advance rules cluster fuel (w.step rules cluster t) t else w

/-- The time that a task waits for. -/
def due? (task : Task) : Option Nat :=
  match task.activity with
  | .pausing _ due => some due
  | .calling _ (.asking _ _ due) _ => some due
  | .calling _ (.resting _ due) _ => some due
  | .joining _ due _ => due
  | .sleeping due => some due
  | _ => none

/-- The earliest time that somebody waits for and that has not come yet. -/
def nextDue? (w : World σ) : Option Nat :=
  ((w.tasks.filterMap due?).filter (w.clock < ·)).min?

end World

namespace Schedule

variable {σ : Type}

/-- A world in which no task waits for its turn. -/
def ofWorld (w : World σ) : Schedule σ := ⟨w, []⟩

/-- Queues up the tasks whose wait is over, except the one that a request from outside waits
for. -/
def refresh (s : Schedule σ) (outside : Option TaskId) : Schedule σ :=
  let fresh := (List.range s.world.tasks.length).filter fun t =>
    some t ≠ outside && s.world.isEnabled t && !s.ready.contains t
  { s with ready := s.ready ++ fresh }

/-- The most turns that are given. -/
def turns : Nat := 1000000

/-- How many turns make a round. -/
def round : Nat := 61

/-- Lets the tasks take turns until none can go on.  The fuel bounds the turns. -/
def settle (rules : Rules) (cluster : Cluster σ) (outside : Option TaskId) :
    Nat → Schedule σ → Schedule σ
  | 0, s => s
  | fuel + 1, s =>
    match s.ready with
    | [] => s
    | t :: rest =>
      settle rules cluster outside fuel
        (refresh ⟨s.world.advance rules cluster turns t, rest⟩ outside)

/-- Lets everything go on until a task from outside has ended.  The fuel bounds the turns of
the task.  A task that waits for something that never comes is left waiting. -/
def runUntilDone (rules : Rules) (cluster : Cluster σ) (t : TaskId) :
    Nat → Schedule σ → Schedule σ
  | 0, s => s
  | fuel + 1, s =>
    let s := refresh { s with world := s.world.advance rules cluster fuel t } (some t)
    if s.world.hasFinished t then s
    else
      let s := settle rules cluster (some t) round s
      if s.world.isEnabled t || !s.ready.isEmpty then runUntilDone rules cluster t fuel s
      else
        match s.world.nextDue? with
        | none => s
        | some due =>
          runUntilDone rules cluster t fuel
            (refresh { s with world := { s.world with clock := due } } (some t))

/-- Makes a request from outside and waits for its end. -/
def perform (rules : Rules) (cluster : Cluster σ) (s : Schedule σ) (request : Request) :
    Option TaskResult × Schedule σ :=
  let (w, t) := s.world.addTask (.fresh request)
  let s := runUntilDone rules cluster t turns { s with world := w }
  (s.world.result? t, s)

/-- Lets everything go on until it has to wait. -/
def rest (rules : Rules) (cluster : Cluster σ) (s : Schedule σ) : Schedule σ :=
  settle rules cluster none turns (refresh s none)

/-- Starts a request as a task of its own and lets everything go on until it has to wait. -/
def spawn (rules : Rules) (cluster : Cluster σ) (s : Schedule σ) (request : Request) :
    TaskId × Schedule σ :=
  let s := s.refresh none
  let (w, t) := s.world.addTask (.fresh request)
  (t, rest rules cluster { s with world := w })

end Schedule

end JobSupervision.Supervision
