/-
# Outcomes of launches

A launch that goes through (`Machine.launch_eq_ok`) settles on what it concludes from the remains
of its worker (`Launched.Untouched.settles`); who waits for a shorter time is told so
(`Launched.Untouched.wait_of_lt`).  A worker that ended well and left a result in a record
is taken at its word; from any other worker that exits the launch concludes an error with its code
(`WorkerRemains.conclude_eq_error`).
-/
import Mathlib.Tactic.Common
import JobSupervision.Launch.Machine
import JobSupervision.Proofs.Launch.CommandLine
import JobSupervision.Proofs.Worker.Delivery

namespace JobSupervision

variable {W V : Type}

/-! ### Conclusions -/

namespace WorkerRemains

variable {r : WorkerRemains} {settings : LauncherSettings} {work : WorkType W V}

/-- Whether a worker left a record with a failure or with a value of the type that is wanted. -/
def HoldsResult (r : WorkerRemains) (work : WorkType W V) : Prop :=
  ∃ content record, r.record = .ok content ∧ ResultRecord.ofBytes? content = some record ∧
    ∀ value, record = .success value → (work.result? value.toDoc).isSome

/-- A worker that exits with a code other than zero or without a result breaks the protocol. -/
theorem conclude_eq_error {code : Nat} (hend : r.ending = .exited code)
    (h : code ≠ 0 ∨ ¬ r.HoldsResult work) :
    ∃ message diagnostics,
      r.conclude settings work = .error (.launcher message (some code) diagnostics) := by
  have hbreach (message : String) : r.breach settings message =
      (.error (.launcher message (some code) (r.diagnostics settings)) : LaunchOutcome V) := by
    rw [breach, hend]
    rfl
  by_cases hcode : code = 0
  · subst hcode
    have hno := h.resolve_left (fun hne => hne rfl)
    rw [conclude, if_pos hend]
    split
    · exact ⟨_, _, hbreach _⟩
    · next content hcontent =>
      split
      · exact ⟨_, _, hbreach _⟩
      · next record hrecord =>
        cases record with
        | failure cause =>
          refine absurd ⟨content, _, hcontent, hrecord, ?_⟩ hno
          intro value heq
          cases heq
        | success value =>
          rw [concludeRecord]
          split
          · next v hv =>
            refine absurd ⟨content, _, hcontent, hrecord, ?_⟩ hno
            intro value' heq
            cases heq
            rw [hv]
            rfl
          · exact ⟨_, _, hbreach _⟩
  · have hne : r.ending ≠ .exited 0 := by simpa [hend] using hcode
    rw [conclude, if_neg hne]
    exact ⟨_, _, hbreach _⟩

lemma conclude_of_record {record : ResultRecord} (hend : r.ending = .exited 0)
    (hcontent : r.record = .ok record.bytes) (hrecord : record.Readable) :
    r.conclude settings work = r.concludeRecord settings work record := by
  rw [conclude, if_pos hend, hcontent]
  simp only [ResultRecord.ofBytes?_bytes hrecord]

end WorkerRemains

/-! ### Waiting -/

namespace Launched

/-- Whether a launch settles on an outcome: everyone gets it who waits as long as it takes. -/
def Settles (l : Launched V) (outcome : LaunchOutcome V) : Prop :=
  ∀ now, ∃ time l', l.wait now none = some (time, outcome, l')

lemma Settles.unique {l : Launched V} {outcome outcome' : LaunchOutcome V}
    (h : l.Settles outcome) (h' : l.Settles outcome') : outcome = outcome' := by
  obtain ⟨time, later, hwait⟩ := h 0
  obtain ⟨time', later', hwait'⟩ := h' 0
  cases hwait.symm.trans hwait'
  rfl

/-- Whether nobody has touched a launch, and its worker ends and lets go of its streams by a
time. -/
structure Untouched (l : Launched V) (time : Nat) : Prop where
  /-- The handle is as it was given out. -/
  fresh : l.handle = .fresh
  /-- The worker was not stopped. -/
  running : l.stoppedAt = none
  /-- The worker ends, and with its streams at their end the outcome is settled. -/
  ends : ∃ gone, l.endsAt? = some gone ∧ gone ≤ time ∧ l.settlesAfter? gone = some time

section Untouched

variable {l : Launched V} {time now later limit : Nat}

lemma untouched_of_fresh {ending : Nat × ProgramEnd} {held : Nat} (hfresh : l.handle = .fresh)
    (hrunning : l.stoppedAt = none) (hend : l.run.ending = some ending)
    (hheld : l.run.letGo = some held) :
    l.Untouched (max (l.startedAt + moment + ending.1) (l.startedAt + moment + held)) := by
  refine ⟨hfresh, hrunning, l.startedAt + moment + ending.1, ?_, Nat.le_max_left _ _, ?_⟩
  · simp [endsAt?, hend]
  · simp [settlesAfter?, hheld]

lemma Untouched.settlesAt? (h : l.Untouched time) (now : Nat) :
    l.settlesAt? now = some time := by
  obtain ⟨hfresh, hrunning, gone, hends, -, hsettles⟩ := h
  simp [Launched.settlesAt?, isToBeStopped, hfresh, LaunchHandle.fresh, overAt?, hrunning, hends,
    hsettles]

lemma Untouched.take? (h : l.Untouched time) : l.handle.take? = none := by
  simp [h.fresh, LaunchHandle.fresh, LaunchHandle.take?]

/-- Before its time nothing is settled, though the worker itself may be over. -/
lemma Untouched.take?_passTo_of_lt (h : l.Untouched time) (now : Nat) (hlater : later < time) :
    (l.passTo now later).handle.take? = none := by
  obtain ⟨hfresh, hrunning, gone, hends, -, hsettles⟩ := h
  have hgoes : l.isToBeStopped = false := by simp [isToBeStopped, hfresh, LaunchHandle.fresh]
  have hnot : ¬ time ≤ later := Nat.not_le.2 hlater
  have hsame : (l.endBy now later).overAt?.bind (l.endBy now later).settlesAfter? =
      some time := by
    by_cases hover : gone ≤ later
    · have hdone : l.endBy now later = { l with handle := l.handle.finish l.outcome } := by
        simp [endBy, hgoes, hrunning, hends, hover]
      rw [hdone]
      change l.overAt?.bind l.settlesAfter? = some time
      simp [overAt?, hrunning, hends, hsettles]
    · have hdone : l.endBy now later = l := by simp [endBy, hgoes, hrunning, hends, hover]
      rw [hdone]
      simp [overAt?, hrunning, hends, hsettles]
  simp only [passTo, hsame, hnot, if_false]
  by_cases hover : gone ≤ later
  · simp [endBy, hgoes, hrunning, hends, hover, hfresh, LaunchHandle.fresh, LaunchHandle.finish,
      LaunchHandle.take?]
  · simp [endBy, hgoes, hrunning, hends, hover, hfresh, LaunchHandle.fresh, LaunchHandle.take?]

lemma Untouched.take?_passTo_of_le (h : l.Untouched time) (now : Nat) (hlater : time ≤ later) :
    ∃ handle, (l.passTo now later).handle.take? = some (l.outcome, handle) := by
  obtain ⟨hfresh, hrunning, gone, hends, hover, hsettles⟩ := h
  have hgoes : l.isToBeStopped = false := by simp [isToBeStopped, hfresh, LaunchHandle.fresh]
  let done : Launched V := { l with handle := l.handle.finish l.outcome }
  have hdone : l.endBy now later = done := by
    simp [endBy, hgoes, hrunning, hends, Nat.le_trans hover hlater, done]
  have hafter : done.overAt?.bind done.settlesAfter? = some time := by
    change l.overAt?.bind l.settlesAfter? = some time
    simp [overAt?, hrunning, hends, hsettles]
  have hpass : l.passTo now later = done.watchAt time := by
    simp only [passTo, hdone, hafter, hlater, if_true]
  rw [hpass]
  simp [done, watchAt, hfresh, LaunchHandle.fresh, LaunchHandle.finish, LaunchHandle.watch,
    LaunchHandle.take?]

@[simp] lemma run_passTo (l : Launched V) (now later : Nat) :
    (l.passTo now later).run = l.run := by
  have hend : (l.endBy now later).run = l.run := by
    rw [endBy]
    split_ifs
    · rfl
    · split
      · split_ifs <;> rfl
      · rfl
  rw [passTo]
  split
  · split_ifs
    · exact hend
    · exact hend
  · exact hend

lemma Untouched.wait_none (h : l.Untouched time) (now : Nat) :
    ∃ l', l'.run = l.run ∧ l.wait now none = some (time, l.outcome, l') := by
  obtain ⟨handle, htaken⟩ := h.take?_passTo_of_le now (Nat.le_refl time)
  simp only [wait, h.take?, h.settlesAt?, LaunchHandle.takeWithin, htaken, Option.getD_some]
  exact ⟨{ l.passTo now time with handle := handle }, run_passTo l now time, rfl⟩

lemma Untouched.wait_of_le (h : l.Untouched time) (hlimit : time ≤ now + limit) :
    ∃ l', l'.run = l.run ∧ l.wait now (some limit) = some (time, l.outcome, l') := by
  obtain ⟨handle, htaken⟩ := h.take?_passTo_of_le now (Nat.le_refl time)
  simp only [wait, h.take?, h.settlesAt?, Nat.min_eq_left hlimit, LaunchHandle.takeWithin, htaken,
    Option.getD_some]
  exact ⟨{ l.passTo now time with handle := handle }, run_passTo l now time, rfl⟩

/-- Who does not wait for long enough is told so, and the worker goes on. -/
theorem Untouched.wait_of_lt (h : l.Untouched time) (hlimit : now + limit < time) :
    ∃ l', l'.run = l.run ∧
      l.wait now (some limit) = some (now + limit, .error (.timedOut (.ofMillis limit)), l') := by
  have hnothing : (l.passTo now (now + limit)).handle.take? = none :=
    h.take?_passTo_of_lt now hlimit
  simp only [wait, h.take?, h.settlesAt?, Nat.min_eq_right (Nat.le_of_lt hlimit),
    LaunchHandle.takeWithin, hnothing, Option.getD_none, Option.getD_some]
  exact ⟨l.passTo now (now + limit), run_passTo l now _, rfl⟩

/-- Waiting has an end if the worker and its streams have one. -/
lemma exists_wait {ending : Nat × ProgramEnd} {held : Nat} (hend : l.run.ending = some ending)
    (hheld : l.run.letGo = some held) (now : Nat) : ∃ r, l.wait now none = some r := by
  have hover : ∃ gone, (if l.isToBeStopped then some (now + moment) else l.overAt?) =
      some gone := by
    split_ifs
    · exact ⟨_, rfl⟩
    · cases hstopped : l.stoppedAt with
      | none => exact ⟨l.startedAt + moment + ending.1, by simp [overAt?, hstopped, endsAt?, hend]⟩
      | some time => exact ⟨time, by simp [overAt?, hstopped]⟩
  obtain ⟨gone, hover⟩ := hover
  have hsettles : l.settlesAt? now = some (max gone (l.startedAt + moment + held)) := by
    simp [Launched.settlesAt?, hover, settlesAfter?, hheld]
  rw [wait]
  split
  · exact ⟨_, rfl⟩
  · simp only [hsettles]
    exact ⟨_, rfl⟩

end Untouched

/-- A launch that nobody has touched settles when the worker has ended and its streams are at their
end. -/
theorem Untouched.settles {l : Launched V} {time : Nat} (h : l.Untouched time) :
    l.Settles l.outcome := by
  intro now
  obtain ⟨l', -, hwait⟩ := h.wait_none now
  exact ⟨time, l', hwait⟩

end Launched

/-! ### Launches that go through -/

/-- What the worker of a launch is told to do. -/
def LaunchConfiguration.order (c : LaunchConfiguration W) (kindName : String) (params : Json) :
    WorkPayload :=
  ⟨WorkPayload.currentVersion, kindName, params, c.resolvedClasspath⟩

namespace Machine

/-- The path of the payload for the next worker. -/
def payloadPath (m : Machine) (settings : LauncherSettings) : Path :=
  (m.exchange settings).join ⟨payloadName⟩

/-- The path for the record of the next worker. -/
def recordPath (m : Machine) (settings : LauncherSettings) : Path :=
  (m.exchange settings).join ⟨recordName⟩

/-- What is left of the next worker after a run. -/
def remains (m : Machine) (settings : LauncherSettings) (run : ProgramRun) : WorkerRemains :=
  ⟨(run.ending.map (·.2)).getD (.exited 0), run.printed.flatMap (·.bytes),
    run.complained.flatMap (·.bytes),
    { run.files with workDir := m.files.workDir }.read (m.recordPath settings)⟩

/-- The launch of the next worker with its run. -/
def launched (m : Machine) (settings : LauncherSettings) (work : WorkType W V) (run : ProgramRun) :
    Launched V :=
  { kind := work.kindName, process := m.started + 1, startedAt := m.clock, run := run,
    outcome := (m.remains settings run).conclude settings work }

/-- Whether files are what the next worker finds when it starts in a directory: its exchange
directory with the payload is there. -/
def Prepares (m : Machine) (settings : LauncherSettings) (order : WorkPayload)
    (dir : Option Path) (fs : FileSystem) : Prop :=
  ∃ l files, m.files.locate (m.exchange settings) = .ok l ∧
    (m.files.put l .directory).write (m.payloadPath settings) order.bytes = .ok files ∧
      enter files dir = .ok fs

variable {m m' : Machine} {settings : LauncherSettings} {work : WorkType W V}
  {c : LaunchConfiguration W} {l : Launched V}

lemma start_eq_ok {path : Path} {dir : Option Path} {args : List String} {run : ProgramRun}
    (h : m.start path dir args = .ok run) :
    ∃ fs worker, enter m.files dir = .ok fs ∧ m.program fs path = .ok worker ∧
      run = worker (path.text :: args) fs := by
  rw [start] at h
  split at h
  · cases h
  split at h
  · cases h
  next fs hfs =>
  split at h
  · cases h
  next worker hworker =>
  cases h
  exact ⟨fs, worker, hfs, hworker, rfl⟩

lemma launchIn_eq_ok {files : FileSystem} {params : Json}
    (h : m.launchIn (m.exchange settings) files settings work params c = .ok l) :
    ∃ after args run, files.write (m.payloadPath settings)
        (c.order work.kindName params).bytes = .ok after ∧
      (c.command (m.payloadPath settings) (m.recordPath settings)).arguments = .ok args ∧
      start { m with files := after } settings.workerProgram c.workDir args = .ok run ∧
      l = m.launched settings work run := by
  have hpayload : (m.exchange settings).join ⟨payloadName⟩ = m.payloadPath settings := rfl
  have hrecord : (m.exchange settings).join ⟨recordName⟩ = m.recordPath settings := rfl
  have horder : WorkPayload.mk WorkPayload.currentVersion work.kindName params c.resolvedClasspath =
      c.order work.kindName params := rfl
  have hcommand : WorkerCommand.mk (m.payloadPath settings) (m.recordPath settings)
      c.resolvedClasspath c.heapInitial c.heapMax c.extraFlags =
        c.command (m.payloadPath settings) (m.recordPath settings) := rfl
  simp only [launchIn, hpayload, hrecord, horder, hcommand, bind, Except.bind] at h
  cases hwrite : files.write (m.payloadPath settings) (c.order work.kindName params).bytes with
  | error fault => simp [hwrite] at h
  | ok after =>
    cases hargs : (c.command (m.payloadPath settings) (m.recordPath settings)).arguments with
    | error e => simp [hwrite, hargs] at h
    | ok args =>
      simp only [hwrite, hargs] at h
      split at h
      · cases h
      next run hrun =>
      cases h
      exact ⟨after, args, run, rfl, rfl, hrun, rfl⟩

/-- A launch that goes through has started a program on the payload. -/
theorem launch_eq_ok (h : m.launch settings work c = (m', .ok l)) :
    ∃ params args fs worker, work.encode? c.work = some params ∧
      (c.command (m.payloadPath settings) (m.recordPath settings)).arguments = .ok args ∧
      m.Prepares settings (c.order work.kindName params) c.workDir fs ∧
      m.program fs settings.workerProgram = .ok worker ∧
      l = m.launched settings work (worker (settings.workerProgram.text :: args) fs) := by
  rw [launch] at h
  split at h
  · cases h
  next params hparams =>
  dsimp only at h
  split at h
  · cases h
  next place hplace =>
  split at h
  · cases h
  next launched hlaunched =>
  cases h
  obtain ⟨files, args, run, hwrite, hargs, hstart, rfl⟩ := launchIn_eq_ok hlaunched
  obtain ⟨fs, worker, henter, hworker, rfl⟩ := start_eq_ok hstart
  exact ⟨params, args, fs, worker, hparams, hargs, ⟨place, files, hplace, hwrite, henter⟩, hworker,
    rfl⟩

section Parts

variable {params : Json} {args : List String} {run : ProgramRun} {place : Location}
  {files fs : FileSystem}

lemma start_of_program {path : Path} {dir : Option Path} {worker : Program}
    (henter : enter m.files dir = .ok fs) (hprogram : m.program fs path = .ok worker)
    (htexts : ∀ text ∈ path.text :: (dir.toList.map Path.text ++ args), '\x00' ∉ text.toList) :
    m.start path dir args = .ok (worker (path.text :: args) fs) := by
  have hsaid : (path.text :: (dir.toList.map Path.text ++ args)).any
      (fun t => t.toList.contains '\x00') = false := by
    rw [List.any_eq_false]
    intro text htext
    simpa using htexts text htext
  simp only [start, hsaid, henter, hprogram]
  rfl

/-- A launch goes through if all its parts do. -/
lemma exists_launch (hparams : work.encode? c.work = some params)
    (hlocate : m.files.locate (m.exchange settings) = .ok place)
    (hwrite : (m.files.put place .directory).write (m.payloadPath settings)
      (c.order work.kindName params).bytes = .ok files)
    (hargs : (c.command (m.payloadPath settings) (m.recordPath settings)).arguments = .ok args)
    (hstart : start { m with files := files } settings.workerProgram c.workDir args = .ok run) :
    ∃ m', m.launch settings work c = (m', .ok (m.launched settings work run)) := by
  have hin : m.launchIn (m.exchange settings) (m.files.put place .directory) settings work params
      c = .ok (m.launched settings work run) := by
    have hpayload : (m.exchange settings).join ⟨payloadName⟩ = m.payloadPath settings := rfl
    have hrecord : (m.exchange settings).join ⟨recordName⟩ = m.recordPath settings := rfl
    have horder : WorkPayload.mk WorkPayload.currentVersion work.kindName params
        c.resolvedClasspath = c.order work.kindName params := rfl
    have hcommand : WorkerCommand.mk (m.payloadPath settings) (m.recordPath settings)
        c.resolvedClasspath c.heapInitial c.heapMax c.extraFlags =
          c.command (m.payloadPath settings) (m.recordPath settings) := rfl
    simp only [launchIn, hpayload, hrecord, horder, hcommand, hwrite, hargs, hstart, bind,
      Except.bind]
    rfl
  have hlaunch : (m.launch settings work c).2 = .ok (m.launched settings work run) := by
    simp only [launch, hparams, hlocate, hin]
  exact ⟨(m.launch settings work c).1, Prod.ext rfl hlaunch⟩

end Parts

lemma clock_launch (m : Machine) (settings : LauncherSettings) (work : WorkType W V)
    (c : LaunchConfiguration W) : (m.launch settings work c).1.clock = m.clock := by
  rw [launch]
  split
  · rfl
  · dsimp only
    split
    · rfl
    · split <;> rfl

end Machine

end JobSupervision
