/-
# Metrics

Counts of launches, state changes and recovery attempts, and how long launches took, in the
text exposition format that monitoring systems read.  A family of series without any series
is left out, except the count of recovery attempts, which has no labels.
-/
import JobSupervision.Decimal.Shortest
import JobSupervision.Duration

namespace JobSupervision

open Decimal (Binary64)

/-- What was counted. -/
structure Metrics where
  /-- The durations of launches by outcome and kind of work, in order. -/
  launches : List ((String × String) × List Duration)
  /-- The number of state changes by the state before and after. -/
  transitions : List ((String × String) × Nat)
  /-- The number of recovery attempts. -/
  recoveries : Nat
deriving Repr

namespace Metrics

/-- Nothing counted. -/
def empty : Metrics := ⟨[], [], 0⟩

/-- Changes the entry of a key, or puts in the given one; keys stay sorted. -/
def update {α : Type} (key : String × String) (fresh : α) (change : α → α) :
    List ((String × String) × α) → List ((String × String) × α)
  | [] => [(key, fresh)]
  | (k, v) :: rest =>
    if key = k then (k, change v) :: rest
    else if key.1 < k.1 ∨ (key.1 = k.1 ∧ key.2 < k.2) then (key, fresh) :: (k, v) :: rest
    else (k, v) :: update key fresh change rest

/-- Counts a launch of a kind of work with its outcome and duration. -/
def launch (m : Metrics) (kind outcome : String) (duration : Duration) : Metrics :=
  { m with launches := update (outcome, kind) [duration] (· ++ [duration]) m.launches }

/-- Counts a state change. -/
def transition (m : Metrics) (before after : String) : Metrics :=
  { m with transitions := update (before, after) 1 (· + 1) m.transitions }

/-- Counts a recovery attempt. -/
def recovery (m : Metrics) : Metrics := { m with recoveries := m.recoveries + 1 }

/-- A duration in seconds: the whole seconds and the rest, each rounded, and their sum. -/
def seconds (d : Duration) : Binary64 :=
  let whole := (Binary64.ofNat (d.nanos / 1000000000)).getD (.zero false)
  let rest := (Binary64.round false (d.nanos % 1000000000) 1000000000).getD (.zero false)
  (whole.addMagnitudes rest).getD (.zero false)

/-- The sum of some durations in seconds. -/
def sumSeconds (ds : List Duration) : Binary64 :=
  ds.foldl (fun s d => (s.addMagnitudes (seconds d)).getD s) (.zero false)

/-- The upper bounds of the duration buckets: a hundredth of a second, doubled thirteen
times. -/
def bounds : List Binary64 :=
  let first := (Binary64.round false 1 100).getD (.zero false)
  (List.range 14).map fun (n : Nat) => { first with exponent := first.exponent + (n : Int) }

/-- Whether a number is at most another one; neither is negative. -/
def atMost (x y : Binary64) : Bool :=
  let (a, b) := x.ratio
  let (c, d) := y.ratio
  a * d ≤ c * b

/-- A number as it is written in the exposition. -/
def number (x : Binary64) : String := String.ofList x.positional

/-- A label value with its escapes. -/
def escape (value : String) : String :=
  String.ofList (value.toList.flatMap fun c =>
    if c = '\\' then ['\\', '\\']
    else if c = '"' then ['\\', '"']
    else if c = '\n' then ['\\', 'n']
    else [c])

/-- The labels of a series between braces. -/
def labels (pairs : List (String × String)) : String :=
  "\x7b" ++ String.intercalate "," (pairs.map fun p => p.1 ++ "=\"" ++ escape p.2 ++ "\"") ++ "\x7d"

/-- The two lines in front of a family of series. -/
def heading (name help kind : String) : List String :=
  ["# HELP " ++ name ++ " " ++ help, "# TYPE " ++ name ++ " " ++ kind]

/-- The lines of a family of series, without any if it has no series. -/
def family (name help kind : String) (lines : List String) : List String :=
  if lines.isEmpty then [] else heading name help kind ++ lines

/-- The lines of the duration histogram of one series. -/
def histogram (key : String × String) (ds : List Duration) : List String :=
  let name := "vessel_launch_duration_seconds"
  let own := [("outcome", key.1), ("work_kind", key.2)]
  let buckets := bounds.map fun bound =>
    name ++ "_bucket" ++ labels (own ++ [("le", number bound)]) ++ " " ++
      toString (ds.countP fun d => atMost (seconds d) bound)
  buckets ++
    [name ++ "_bucket" ++ labels (own ++ [("le", "+Inf")]) ++ " " ++ toString ds.length,
      name ++ "_sum" ++ labels own ++ " " ++ number (sumSeconds ds),
      name ++ "_count" ++ labels own ++ " " ++ toString ds.length]

/-- The lines of the exposition; families are sorted by name and series by their labels. -/
def lines (m : Metrics) : List String :=
  family "vessel_container_transitions_total" "Total number of container state transitions"
    "counter"
    (m.transitions.map fun (key, n) =>
      "vessel_container_transitions_total" ++ labels [("from", key.1), ("to", key.2)] ++ " " ++
        toString n) ++
  family "vessel_launch_duration_seconds" "Worker launch duration in seconds" "histogram"
    (m.launches.flatMap fun (key, ds) => histogram key ds) ++
  family "vessel_launches_total" "Total number of worker launches" "counter"
    (m.launches.map fun (key, ds) =>
      "vessel_launches_total" ++ labels [("outcome", key.1), ("work_kind", key.2)] ++ " " ++
        toString ds.length) ++
  family "vessel_recovery_attempts_total" "Total number of container recovery attempts" "counter"
    ["vessel_recovery_attempts_total " ++ toString m.recoveries]

end Metrics

end JobSupervision
