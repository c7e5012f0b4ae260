/-
# Calls from their start to their end

A caller who has a container to himself does one operation after the other, and within an operation
asks one question after the other.  What happens to him is a list of answers and of turns at which
he lets the lock go (`CallStep`).  `Dialogue.Hears` follows one operation along such a list and
`Leads` a chain of operations, whatever the answers are; `Dialogue.Costs` bounds what an operation
asks. -/
import JobSupervision.Proofs.Container.Exchange

namespace JobSupervision

variable {α β : Type} {policy : RetryPolicy}

/-- What happens in a call, one thing after the other. -/
inductive CallStep where
  /-- The caller asks a question and hears the answer. -/
  | asked (query : Query) (answer : query.Answer)
  /-- The caller lets the lock go and comes back after some milliseconds for an operation. -/
  | turned (delayMs : Nat) (operation : GuardedOperation)

/-- The question of a step. -/
def CallStep.query? : CallStep → Option Query
  | .asked query _ => some query
  | .turned .. => none

/-- The questions of a call, in their order. -/
def queriesOf (steps : List CallStep) : List Query := steps.filterMap CallStep.query?

@[simp] lemma queriesOf_nil : queriesOf [] = [] := rfl

@[simp] lemma queriesOf_asked (q : Query) (a : q.Answer) (steps : List CallStep) :
    queriesOf (.asked q a :: steps) = q :: queriesOf steps := rfl

@[simp] lemma queriesOf_turned (delay : Nat) (e : GuardedOperation) (steps : List CallStep) :
    queriesOf (.turned delay e :: steps) = queriesOf steps := rfl

@[simp] lemma queriesOf_append (first second : List CallStep) :
    queriesOf (first ++ second) = queriesOf first ++ queriesOf second :=
  List.filterMap_append ..

/-- How often a caller goes on for the steps of a call: once to hear an answer, and at most twice
after letting the lock go, to end the wait and to begin the operation. -/
def weight : List CallStep → Nat
  | [] => 0
  | .asked .. :: steps => weight steps + 1
  | .turned .. :: steps => weight steps + 2

@[simp] lemma weight_append (first second : List CallStep) :
    weight (first ++ second) = weight first + weight second := by
  induction first with
  | nil => exact (Nat.zero_add _).symm
  | cons step first ih =>
    cases step with
    | asked | turned => simp only [List.cons_append, weight, ih]; omega

/-- Whether a question is for the status of a run. -/
def Query.isPoll : Query → Bool
  | .poll _ => true
  | _ => false

/-- Whether a question is for the run of a job. -/
def Query.isFind : Query → Bool
  | .find _ => true
  | _ => false

/-! ### Within an operation -/

namespace Dialogue

/-- What is left of a dialogue after some answers. -/
inductive Hears : Dialogue α → List CallStep → Dialogue α → Prop
  /-- Nothing was answered yet. -/
  | nil (d : Dialogue α) : Hears d [] d
  /-- The first question was answered, and then others. -/
  | cons {c : Container} {events : List EventPayload} {q : Query} {next : q.Answer → Dialogue α}
    (a : q.Answer) {said : List CallStep} {d : Dialogue α} (h : Hears (next a) said d) :
    Hears (.ask c events q next) (.asked q a :: said) d

/-- At most so many questions of two kinds that a dialogue asks: for the status of a run and for
the run of a job.  Nothing else is asked. -/
inductive Costs : Nat → Nat → Dialogue α → Prop
  /-- Nothing is asked. -/
  | done (polls finds : Nat) (r : Container.Finished α) : Costs polls finds (.done r)
  /-- A status is asked for. -/
  | poll {polls finds : Nat} {c : Container} {events : List EventPayload} {r : RunId}
    {next : (Query.poll r).Answer → Dialogue α} (h : ∀ a, Costs polls finds (next a)) :
    Costs (polls + 1) finds (.ask c events (.poll r) next)
  /-- A run is asked for. -/
  | find {polls finds : Nat} {c : Container} {events : List EventPayload} {i : JobIdentity}
    {next : (Query.find i).Answer → Dialogue α} (h : ∀ a, Costs polls finds (next a)) :
    Costs polls (finds + 1) (.ask c events (.find i) next)

variable {d d' : Dialogue α} {said : List CallStep} {polls finds : Nat}

lemma Hears.snoc {c : Container} {events : List EventPayload} {q : Query}
    {next : q.Answer → Dialogue α} (h : d.Hears said (.ask c events q next)) (a : q.Answer) :
    d.Hears (said ++ [.asked q a]) (next a) := by
  generalize hd : Dialogue.ask c events q next = d' at h
  induction h with
  | nil =>
    subst hd
    exact .cons a (.nil _)
  | cons b _ ih => exact .cons b (ih hd)

lemma Hears.of_done {r : Container.Finished α} (h : (Dialogue.done r).Hears said d) :
    said = [] ∧ d = .done r := by
  cases h with
  | nil => exact ⟨rfl, rfl⟩

/-- A dialogue with a question has not ended before an answer. -/
lemma Hears.of_ask {c : Container} {events : List EventPayload} {q : Query}
    {next : q.Answer → Dialogue α} {r : Container.Finished α}
    (h : (Dialogue.ask c events q next).Hears said (.done r)) :
    ∃ a rest, said = .asked q a :: rest ∧ (next a).Hears rest (.done r) := by
  cases h with
  | cons a h => exact ⟨a, _, rfl, h⟩

lemma Costs.map (h : d.Costs polls finds) (f : Container → α → β) :
    (d.map f).Costs polls finds := by
  induction h with
  | done => exact .done ..
  | poll _ ih => exact .poll ih
  | find _ ih => exact .find ih

/-- However far a dialogue comes, it asks no more than it may, the open question included. -/
lemma Costs.bounds (hcosts : d.Costs polls finds) (h : d.Hears said d') :
    (queriesOf said ++ d'.query?.toList).countP Query.isPoll ≤ polls ∧
      (queriesOf said ++ d'.query?.toList).countP Query.isFind ≤ finds ∧
      weight said ≤ polls + finds := by
  induction h generalizing polls finds with
  | nil d =>
    cases hcosts with
    | done | poll | find => simp [query?, weight, Query.isPoll, Query.isFind]
  | cons a _ ih =>
    cases hcosts with
    | poll hnext =>
      obtain ⟨hpolls, hfinds, hweight⟩ := ih (hnext a)
      simp only [queriesOf_asked, List.cons_append, List.countP_cons, weight]
      simp only [Query.isPoll, Query.isFind, if_true, Bool.false_eq_true, if_false]
      omega
    | find hnext =>
      obtain ⟨hpolls, hfinds, hweight⟩ := ih (hnext a)
      simp only [queriesOf_asked, List.cons_append, List.countP_cons, weight]
      simp only [Query.isPoll, Query.isFind, if_true, Bool.false_eq_true, if_false]
      omega

end Dialogue

/-! ### From operation to operation -/

/-- What happens in a call that begins with an operation on a container, up to the time at which the
caller is to come back for another operation on the container as it is then. -/
inductive Leads (policy : RetryPolicy) (first : Container) (begun : GuardedOperation) :
    List CallStep → Container → GuardedOperation → Prop
  /-- Nothing has happened yet. -/
  | start : Leads policy first begun [] first begun
  /-- The caller does an operation, and is to come back for the next one. -/
  | turn {steps : List CallStep} {k : Container} {e : GuardedOperation}
    (h : Leads policy first begun steps k e) {said : List CallStep} {k' : Container}
    {events : List EventPayload} {delay : Nat} {e' : GuardedOperation}
    (hd : (e.hold policy k).Hears said (.done ⟨k', events, .again delay e'⟩)) :
    Leads policy first begun (steps ++ said ++ [.turned delay e']) k' e'

end JobSupervision
