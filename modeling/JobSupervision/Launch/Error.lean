/-
# Launch errors

Why a launch gave no result of its own: the settings were wrong, the worker process did not
keep to its part, the unit of work failed, or nobody waited any longer.
-/
import JobSupervision.Duration
import JobSupervision.Failure

namespace JobSupervision

/-- The failure of a launch. -/
inductive LaunchError where
  /-- The launch was not described properly. -/
  | configuration (message : String)
  /-- The worker process could not be started or did not keep to the protocol.  The exit code
  is there if the process ended by itself; the diagnostics are the last lines of its error
  stream. -/
  | launcher (message : String) (exitCode : Option Int) (diagnostics : List String)
  /-- The unit of work reported a failure; the transcript holds the console lines before it. -/
  | workUnit (cause : FailureCause) (transcript : List String)
  /-- The launch was cancelled before the worker ended. -/
  | cancelled
  /-- The worker did not end within the time given. -/
  | timedOut (limit : Duration)
deriving DecidableEq, Repr

namespace LaunchError

/-- A failure of the worker process without an exit code and diagnostics. -/
def plain (message : String) : LaunchError := .launcher message none []

/-- The text of an error. -/
def message : LaunchError → String
  | .configuration m => "launch configuration error: " ++ m
  | .launcher m _ _ => "worker process failed: " ++ m
  | .workUnit cause _ => "work unit failed: " ++ cause.text
  | .cancelled => "launch cancelled"
  | .timedOut limit => "worker did not finish within " ++ limit.inspect

end LaunchError

end JobSupervision
