/-
# Settings

What can be set about launching workers and about supervising containers.  Every setting has
a default, and a document need only hold those that differ.
-/
import JobSupervision.Duration
import JobSupervision.Path

namespace JobSupervision

/-- How workers are launched. -/
structure LauncherSettings where
  /-- The program that is started as a worker. -/
  workerProgram : Path := ⟨"vessel-worker"⟩
  /-- The directory in which the exchange directories are made. -/
  exchangeDir : Option Path := none
  /-- How many console lines are kept. -/
  transcriptLimit : UInt64 := 10000
  /-- How many lines of the error stream are kept. -/
  diagnosticTail : UInt64 := 64
deriving DecidableEq, Repr

namespace LauncherSettings

/-- The default settings. -/
def standard : LauncherSettings := {}

/-- The settings are encoded by their fields. -/
def encode (s : LauncherSettings) : Json :=
  .obj [("worker_program", s.workerProgram.encode),
    ("exchange_dir", Json.option Path.encode s.exchangeDir),
    ("transcript_limit", .nat s.transcriptLimit.toNat),
    ("diagnostic_tail", .nat s.diagnosticTail.toNat)]

/-- The settings that a document holds. -/
def decode? (d : Json.Doc) : Option LauncherSettings := do
  let fields ← d.fields? ["worker_program", "exchange_dir", "transcript_limit", "diagnostic_tail"]
  let workerProgram ← fields.defaulted "worker_program" standard.workerProgram Path.decode?
  let exchangeDir ← fields.defaulted "exchange_dir" standard.exchangeDir
    (Json.Doc.option? Path.decode?)
  let transcriptLimit ← fields.defaulted "transcript_limit" standard.transcriptLimit
    Json.Doc.uint64?
  let diagnosticTail ← fields.defaulted "diagnostic_tail" standard.diagnosticTail Json.Doc.uint64?
  return ⟨workerProgram, exchangeDir, transcriptLimit, diagnosticTail⟩

/-- The inspection text. -/
def inspect (s : LauncherSettings) : String :=
  Text.inspectRecord "LauncherConfig"
    [("worker_program", s.workerProgram.inspect),
      ("exchange_dir", Text.inspectOption (s.exchangeDir.map Path.inspect)),
      ("transcript_limit", toString s.transcriptLimit.toNat),
      ("diagnostic_tail", toString s.diagnosticTail.toNat)]

end LauncherSettings

/-- How containers are supervised. -/
structure SupervisorSettings where
  /-- The time between two polls of a container, in milliseconds. -/
  pollIntervalMs : UInt64 := 5000
  /-- How long an ending supervision is waited for, in milliseconds. -/
  shutdownGraceMs : UInt64 := 30000
  /-- How many events a slow subscriber may fall behind. -/
  eventCapacity : UInt64 := 1024
deriving DecidableEq, Repr

namespace SupervisorSettings

/-- The default settings. -/
def standard : SupervisorSettings := {}

/-- The time between two polls. -/
def pollInterval (s : SupervisorSettings) : Duration := .ofMillis s.pollIntervalMs.toNat

/-- How long an ending supervision is waited for. -/
def shutdownGrace (s : SupervisorSettings) : Duration := .ofMillis s.shutdownGraceMs.toNat

/-- The settings are encoded by their fields. -/
def encode (s : SupervisorSettings) : Json :=
  .obj [("poll_interval_ms", .nat s.pollIntervalMs.toNat),
    ("shutdown_grace_ms", .nat s.shutdownGraceMs.toNat),
    ("event_capacity", .nat s.eventCapacity.toNat)]

/-- The settings that a document holds. -/
def decode? (d : Json.Doc) : Option SupervisorSettings := do
  let fields ← d.fields? ["poll_interval_ms", "shutdown_grace_ms", "event_capacity"]
  let pollIntervalMs ← fields.defaulted "poll_interval_ms" standard.pollIntervalMs Json.Doc.uint64?
  let shutdownGraceMs ← fields.defaulted "shutdown_grace_ms" standard.shutdownGraceMs
    Json.Doc.uint64?
  let eventCapacity ← fields.defaulted "event_capacity" standard.eventCapacity Json.Doc.uint64?
  return ⟨pollIntervalMs, shutdownGraceMs, eventCapacity⟩

/-- The inspection text. -/
def inspect (s : SupervisorSettings) : String :=
  Text.inspectRecord "SupervisorConfig"
    [("poll_interval_ms", toString s.pollIntervalMs.toNat),
      ("shutdown_grace_ms", toString s.shutdownGraceMs.toNat),
      ("event_capacity", toString s.eventCapacity.toNat)]

end SupervisorSettings

end JobSupervision
