/-
# Reports of launch errors

Launch errors as values of the data format: a report for whoever asked for the launch, which
names the kind of the error and carries its text, and a description from which an error is
made.
-/
import JobSupervision.Json.Access
import JobSupervision.Launch.Error

namespace JobSupervision

/-- A report of an error: its kind, its text, and what else belongs to it. -/
def errorReport (kind text : String) (details : List (String × Json)) : Json :=
  .obj ([("error", .str kind), ("message", .str text)] ++ details)

namespace FailureCause

/-- The cause of a description, which may leave out the causes behind it. -/
def ofDescription? (j : Json) : Option FailureCause := do
  let kind ← j.required "kind" Json.text?
  let message ← j.required "message" Json.text?
  let causes ← j.defaulted "causes" [] Json.texts?
  return ⟨kind, message, causes⟩

end FailureCause

namespace LaunchError

/-- The kind of an error. -/
def kind : LaunchError → String
  | .configuration _ => "Configuration"
  | .launcher .. => "Launcher"
  | .workUnit .. => "WorkUnit"
  | .cancelled => "Cancelled"
  | .timedOut _ => "TimedOut"

/-- What a report holds besides kind and text. -/
def details : LaunchError → List (String × Json)
  | .launcher _ code diagnostics =>
    [("exit_code", Json.option Json.int code), ("diagnostics", Json.strings diagnostics)]
  | .workUnit cause transcript =>
    [("cause", cause.encode), ("transcript", Json.strings transcript)]
  | _ => []

/-- The report of an error. -/
def report (e : LaunchError) : Json := errorReport e.kind e.message e.details

/-- The error of a description. -/
def ofDescription? (j : Json) : Option LaunchError := do
  match ← j.required "kind" Json.text? with
  | "Configuration" => return .configuration (← j.required "message" Json.text?)
  | "Launcher" =>
    let message ← j.required "message" Json.text?
    let code ← j.optional "exit_code" Json.integer?
    let diagnostics ← j.defaulted "diagnostics" [] Json.texts?
    return .launcher message code diagnostics
  | "WorkUnit" =>
    let cause ← j.required "cause" FailureCause.ofDescription?
    let transcript ← j.defaulted "transcript" [] Json.texts?
    return .workUnit cause transcript
  | "TimedOut" => return .timedOut ⟨← j.required "nanos" Json.natural?⟩
  | "Cancelled" => return .cancelled
  | _ => none

end LaunchError

end JobSupervision
