/-
# The console of a launch

A console gets the lines of what a program prints, and the outcome holds the last of them
(`Launched.drains_output`).  It makes no difference in which chunks the bytes come
(`Chunk.map_wholeLines`): a line is handed on when its line feed is there, and what follows the
last line feed when the launch is settled.
-/
import JobSupervision.Proofs.Console.Lines
import JobSupervision.Proofs.Launch.Outcome

namespace JobSupervision

open Console (Drains IsLine Parted exists_parted lineFeed printed)

variable {W V : Type}

/-- However a stream is cut into chunks, its whole lines come. -/
theorem Chunk.map_wholeLines {pending : List UInt8} (h : lineFeed ∉ pending)
    (chunks : List Chunk) :
    (wholeLines pending chunks).map (·.2) =
      Console.wholeLines (pending ++ chunks.flatMap (·.bytes)) := by
  induction chunks generalizing pending with
  | nil =>
    have hparted : Parted lineFeed (pending ++ []) [] pending := ⟨by simp, by simp, h⟩
    rw [wholeLines, List.flatMap_nil, Console.wholeLines, hparted.filter_isWhole]
    rfl
  | cons c chunks ih =>
    obtain ⟨bodies, tail, hparted⟩ := exists_parted lineFeed (pending ++ c.bytes)
    have hleft :
        ((Console.segments (pending ++ c.bytes)).filter fun s => !Console.isWhole s).flatten =
        tail := by
      rw [hparted.filter_not_isWhole]
      split_ifs with htail <;> simp [htail]
    -- the tail is pending when the next chunk comes
    rw [wholeLines, hleft, List.map_append, ih hparted.tail, List.flatMap_cons, ← List.append_assoc,
      hparted.wholeLines_append, List.map_map]
    rfl

/-- A worker prints its lines. -/
lemma Worker.printed_program (registry : WorkRegistry) (commandLine : List String)
    (fs : FileSystem) :
    (Worker.program registry commandLine fs).printed.flatMap (·.bytes) =
      printed (Worker.start registry commandLine fs).console := by
  simp [Worker.program, printed]

namespace Launched

/-- The bytes that are printed by some time. -/
def heard (l : Launched V) (time : Nat) : List UInt8 :=
  (l.run.printed.filter fun c => l.startedAt + moment + c.millis ≤ time).flatMap (·.bytes)

lemma filter_map_millis (l : Launched V) (time : Nat) :
    ((l.run.printed.map fun c => { c with millis := l.startedAt + moment + c.millis }).filter
      (·.millis ≤ time)).flatMap (·.bytes) = l.heard time := by
  rw [List.filter_map, List.flatMap_map]
  rfl

/-- Before a launch is settled, the console has the lines that are whole. -/
lemma map_consoleLines_of_unsettled {l : Launched V} {now : Nat} (h : l.settledAt = none) :
    (l.consoleLines now).map (·.2) = Console.wholeLines (l.heard now) := by
  simp only [consoleLines, h, Option.getD_none, Nat.min_self, List.append_nil]
  rw [Chunk.map_wholeLines (by simp), filter_map_millis, List.nil_append]

/-- When a launch is settled, the console has all lines. -/
lemma map_consoleLines_of_settled {l : Launched V} {time now : Nat} (h : l.settledAt = some time)
    (hnow : time ≤ now) : (l.consoleLines now).map (·.2) = Console.lines (l.heard time) := by
  simp only [consoleLines, h, Option.getD_some, Nat.min_eq_right hnow, List.map_append,
    List.map_map]
  rw [Chunk.map_wholeLines (by simp), filter_map_millis, List.nil_append,
    Console.lines_eq_wholeLines_append]
  rfl

end Launched

namespace WorkerRemains

variable {r : WorkerRemains} {settings : LauncherSettings} {work : WorkType W V}

/-- A launch comes to a breach with the diagnostics or to a result with the transcript. -/
lemma conclude_cases (r : WorkerRemains) (settings : LauncherSettings) (work : WorkType W V) :
    (∃ message, r.conclude settings work = r.breach settings message) ∨
      ∃ outcome, r.conclude settings work = .ok ⟨outcome, r.transcript settings⟩ := by
  rw [conclude]
  split
  · split
    · exact .inl ⟨_, rfl⟩
    split
    · exact .inl ⟨_, rfl⟩
    next record _ =>
    cases record with
    | failure cause => exact .inr ⟨_, rfl⟩
    | success value =>
      rw [concludeRecord]
      split
      · exact .inr ⟨_, rfl⟩
      · exact .inl ⟨_, rfl⟩
  · exact .inl ⟨_, rfl⟩

lemma transcript_of_conclude {result : ExecutionResult V}
    (h : r.conclude settings work = .ok result) : result.transcript = r.transcript settings := by
  obtain ⟨message, hbreach⟩ | ⟨outcome, hok⟩ := conclude_cases r settings work
  · cases hbreach.symm.trans h
  · cases hok.symm.trans h
    rfl

lemma diagnostics_of_conclude {message : String} {code : Option Int} {diagnostics : List String}
    (h : r.conclude settings work = .error (.launcher message code diagnostics)) :
    diagnostics = r.diagnostics settings := by
  obtain ⟨message, hbreach⟩ | ⟨outcome, hok⟩ := conclude_cases r settings work
  · cases hbreach.symm.trans h
    rfl
  · cases hok.symm.trans h

end WorkerRemains

namespace Machine

/-- No line is lost.  The lines of a stream are its segments and the last of them are kept; printed
lines are the lines of what was printed, and a worker prints its lines; the console of a launch has
the whole lines of what was printed so far, and once it is settled all lines of what was printed by
then; and the outcome of a launch holds what is kept of its lines. -/
theorem console_faithful :
    (∀ bytes limit, Drains bytes limit (Console.lines bytes)
      (Console.kept limit (Console.lines bytes))) ∧
    (∀ texts : List String, (∀ text ∈ texts, IsLine text) →
      Console.lines (printed texts) = texts ∧ ∀ limit,
        Console.kept limit (Console.lines (printed texts)) = texts.drop (texts.length - limit)) ∧
    (∀ registry commandLine fs,
      (∀ text ∈ (Worker.start registry commandLine fs).console, IsLine text) →
      Console.lines ((Worker.program registry commandLine fs).printed.flatMap (·.bytes)) =
        (Worker.start registry commandLine fs).console) ∧
    (∀ {V : Type} {l : Launched V} {now : Nat}, l.settledAt = none →
      (l.consoleLines now).map (·.2) = Console.wholeLines (l.heard now)) ∧
    (∀ {V : Type} {l : Launched V} {time now : Nat}, l.settledAt = some time → time ≤ now →
      (l.consoleLines now).map (·.2) = Console.lines (l.heard time)) ∧
    ∀ {W V : Type} {m m' : Machine} {settings : LauncherSettings} {work : WorkType W V}
      {c : LaunchConfiguration W} {l : Launched V}, m.launch settings work c = (m', .ok l) →
      (∀ result, l.outcome = .ok result → result.transcript =
        Console.kept settings.transcriptLimit.toNat
          (Console.lines (l.run.printed.flatMap (·.bytes)))) ∧
      ∀ message code diagnostics, l.outcome = .error (.launcher message code diagnostics) →
        diagnostics = Console.kept settings.diagnosticTail.toNat
          (Console.lines (l.run.complained.flatMap (·.bytes))) := by
  refine ⟨Console.drains, fun texts htexts => ?_, fun registry commandLine fs hlines => ?_,
    Launched.map_consoleLines_of_unsettled, Launched.map_consoleLines_of_settled, ?_⟩
  · rw [Console.lines_printed htexts]
    exact ⟨rfl, fun limit => Console.kept_eq_lastOf limit texts⟩
  · rw [Worker.printed_program, Console.lines_printed hlines]
  · intro W V m m' settings work c l h
    obtain ⟨params, args, fs, worker, -, -, -, -, rfl⟩ := launch_eq_ok h
    generalize worker (settings.workerProgram.text :: args) fs = run
    have houtcome : (m.launched settings work run).outcome =
        (m.remains settings run).conclude settings work := rfl
    rw [houtcome]
    refine ⟨fun result hresult => ?_, fun message code diagnostics hbreach => ?_⟩
    · exact WorkerRemains.transcript_of_conclude hresult
    · exact WorkerRemains.diagnostics_of_conclude hbreach

/-- A worker echoes two lines, the second with a carriage return inside, to a launch that keeps one
line. -/
theorem console_faithful_echo :
    let files : FileSystem := ⟨[], [(["tmp".toList], .directory)]⟩
    let m : Machine :=
      { files := files, programs := [(⟨"worker"⟩, Worker.program Worker.standardRegistry)] }
    let settings : LauncherSettings := { workerProgram := ⟨"worker"⟩, transcriptLimit := 1 }
    let echo : LaunchConfiguration Probe :=
      ⟨.echo ["a", "b\rc"], none, none, [], [], true, [], none⟩
    ∃ m' l result, m.launch settings Probe.workType echo = (m', .ok l) ∧ l.outcome = .ok result ∧
      result.transcript = ["b\rc"] ∧
      ((l.passTo 0 5).consoleLines 5).map (·.2) = ["a", "b\rc"] := by
  intro files m settings echo
  have hall : ((m.launch settings Probe.workType echo).2.toOption.bind fun l =>
      l.outcome.toOption.map fun _ => (l.run.printed.flatMap (·.bytes),
        (l.passTo 0 5).heard 1, (l.passTo 0 5).settledAt)) =
      some (printed ["a", "b\rc"], printed ["a", "b\rc"], some 1) := by decide +kernel
  obtain ⟨-, hlines, -, -, hconsole, houtcome⟩ := console_faithful
  obtain ⟨hprinted, hkept⟩ := hlines ["a", "b\rc"] (by decide)
  rcases h : m.launch settings Probe.workType echo with ⟨m', e | l⟩
  · rw [h] at hall
    cases hall
  cases hl : l.outcome with
  | error e => simp [h, hl, Except.toOption] at hall
  | ok result =>
    simp only [h, hl, Except.toOption, Option.bind_some, Option.map_some, Option.some.injEq,
      Prod.mk.injEq] at hall
    obtain ⟨hbytes, hheard, htime⟩ := hall
    refine ⟨m', l, result, rfl, hl, ?_, ?_⟩
    · rw [(houtcome h).1 result hl, hbytes]
      exact hkept 1
    · rw [hconsole htime (by decide), hheard, hprinted]

end Machine

end JobSupervision
