/-
# Results that come through

Between the end of a unit of work and the outcome of its launch stand the payload, the exchange
directory, the command line, the record with its file, the exit code, and the reading back.  What is
prepared for a worker arrives (`Machine.launch_worker`), so that a launch hands on how the unit of
work ended (`Machine.handsOn_of_dispatch`): a value and a cause come through as they are.  Nothing
else is taken for a result (`Machine.breaks_launched`).
-/
import JobSupervision.Proofs.Console.Lines
import JobSupervision.Proofs.Launch.Outcome
import JobSupervision.Proofs.Worker.Units

namespace JobSupervision

open FileSystem (Fits)

variable {W V : Type}

/-! ### What a launch should come to -/

namespace Launched

/-- The console lines of a launch that are kept. -/
def transcript (l : Launched V) (settings : LauncherSettings) : List String :=
  Console.lastOf settings.transcriptLimit.toNat (Console.lines (l.run.printed.flatMap (·.bytes)))

/-- Whether the worker of a launch exits with a code and the launch settles on an error of the
worker process that carries it. -/
def Breaks (l : Launched V) (code : Nat) : Prop :=
  (∃ time, l.run.ending = some (time, .exited code)) ∧
    ∃ message diagnostics, l.Settles (.error (.launcher message (some code) diagnostics))

/-- Whether a launch hands on how its unit of work ended, a value in its own type.  A worker whose
record does not fit into its place exits with a code that says so. -/
def HandsOn (l : Launched V) (settings : LauncherSettings) (encode : V → Json) (fits : Prop) :
    UnitEnd → Prop
  | .value output =>
    (fits → ∃ v, encode v = output ∧ l.Settles (.ok (.success v (l.transcript settings)))) ∧
      (¬ fits → l.Breaks 4)
  | .failure cause =>
    (fits → l.Settles (.ok (.failure cause (l.transcript settings)))) ∧ (¬ fits → l.Breaks 4)
  | .unencodable => l.Breaks 3
  | .exits code => l.Breaks (code % 256).toNat

end Launched

/-- Whether a run of a program is what a worker does, in its own time. -/
structure ProgramRun.Follows (run : ProgramRun) (r : Worker.Run) : Prop where
  /-- It ends with the code of the worker. -/
  ends : ∃ time, run.ending = some (time, .ofCode r.exitCode)
  /-- It lets go of its streams. -/
  letsGo : ∃ held, run.letGo = some held
  /-- It leaves the files of the worker. -/
  leaves : run.files = r.files

/-- Whether a program does what a worker does that knows some kinds of work, at whatever pace. -/
def Program.WorksAs (program : Program) (registry : WorkRegistry) : Prop :=
  ∀ commandLine fs, (program commandLine fs).Follows (Worker.start registry commandLine fs)

lemma Worker.worksAs_program (registry : WorkRegistry) :
    (Worker.program registry).WorksAs registry :=
  fun _ _ => ⟨⟨_, rfl⟩, ⟨0, rfl⟩, rfl⟩

/-- What the unit of work of a launch is to see. -/
def LaunchConfiguration.context (c : LaunchConfiguration W) : WorkerContext :=
  ⟨c.resolvedClasspath, c.heapInitial, c.heapMax, c.extraFlags⟩

namespace Machine

/-- Whether a machine runs a program as its next worker, in an exchange directory that is new. -/
structure Ready (m : Machine) (settings : LauncherSettings) (worker : Program) : Prop where
  /-- The program of the settings is the worker. -/
  runs : (m.programs.find? fun p => p.1.same settings.workerProgram).map (·.2) = some worker
  /-- Nothing stands where the exchange directory will be. -/
  fresh : ∀ l, m.files.locate (m.exchange settings) = .ok l → m.files.Vacant l

/-- Whether whatever a machine starts as its next worker does what a worker does, in an exchange
directory that is new. -/
structure Hosts (m : Machine) (settings : LauncherSettings) (registry : WorkRegistry) : Prop where
  /-- The program of the settings works as a worker, if it is there. -/
  works : ∀ fs program, m.program fs settings.workerProgram = .ok program →
    program.WorksAs registry
  /-- Nothing stands where the exchange directory will be. -/
  fresh : ∀ l, m.files.locate (m.exchange settings) = .ok l → m.files.Vacant l

lemma Ready.hosts {m : Machine} {settings : LauncherSettings} {registry : WorkRegistry}
    (h : m.Ready settings (Worker.program registry)) : m.Hosts settings registry := by
  refine ⟨fun fs program hprogram => ?_, h.fresh⟩
  rw [Machine.program, h.runs] at hprogram
  cases hprogram
  exact Worker.worksAs_program registry

/-- Whether the next worker accepts its command line. -/
def Accepts (m : Machine) (settings : LauncherSettings) (c : LaunchConfiguration W) : Prop :=
  ∃ args parsed,
    (c.command (m.payloadPath settings) (m.recordPath settings)).arguments = .ok args ∧
      WorkerArguments.parse (settings.workerProgram.text :: args) = .ok parsed

/-- Whether the path of the file beside the record of the next worker is not too long. -/
def RecordFits (m : Machine) (settings : LauncherSettings) : Prop :=
  Fits (ResultRecord.staging (m.recordPath settings))

instance (m : Machine) (settings : LauncherSettings) : Decidable (m.RecordFits settings) :=
  inferInstanceAs (Decidable (Fits _))

lemma accepts_iff {m : Machine} {settings : LauncherSettings} {c : LaunchConfiguration W} :
    m.Accepts settings c ↔
      (match (c.command (m.payloadPath settings) (m.recordPath settings)).arguments with
        | .ok args => (WorkerArguments.parse (settings.workerProgram.text :: args)).isOk
        | .error _ => false) = true := by
  constructor
  · rintro ⟨args, parsed, hargs, hparsed⟩
    simp [hargs, hparsed, Except.isOk, Except.toBool]
  · intro h
    split at h
    · next args hargs =>
      cases hparsed : WorkerArguments.parse (settings.workerProgram.text :: args) with
      | ok parsed => exact ⟨args, parsed, hargs, hparsed⟩
      | error e => simp [hparsed, Except.isOk, Except.toBool] at h
    · cases h

instance (m : Machine) (settings : LauncherSettings) (c : LaunchConfiguration W) :
    Decidable (m.Accepts settings c) := decidable_of_iff _ accepts_iff.symm

/-! ### The exchange directory -/

variable {m m' : Machine} {settings : LauncherSettings} {fs : FileSystem} {order : WorkPayload}

lemma isName_payload : Path.IsName payloadName := ⟨by decide, by decide, by decide⟩

lemma isName_record : Path.IsName recordName := ⟨by decide, by decide, by decide⟩

lemma isName_staging : Path.IsName (recordName ++ ".tmp") := ⟨by decide, by decide, by decide⟩

lemma isAbsolute_here (fs : FileSystem) : fs.here.isAbsolute = true := by
  rw [FileSystem.here]
  cases fs.workDir with
  | nil => rfl
  | cons name names => simp [Path.isAbsolute, Path.startsAtRoot]

lemma isAbsolute_exchange (m : Machine) (settings : LauncherSettings) :
    (m.exchange settings).isAbsolute = true :=
  Path.isAbsolute_join (Path.isAbsolute_join (isAbsolute_here m.files) _) _

lemma continues_exchange (m : Machine) (settings : LauncherSettings) :
    (m.exchange settings).Continues := by
  refine Path.continues_join ?_ (by simp)
  have hdigits : '/' ∉ Nat.toDigits 10 (m.started + 1) := by
    intro h
    have hslash := Nat.isDigit_of_mem_toDigits (by decide) (by decide) h
    exact absurd hslash (by decide)
  simpa using hdigits

lemma fits_payload_iff (m : Machine) (settings : LauncherSettings) :
    Fits (m.payloadPath settings) ↔
      (m.exchange settings).bytes + 10 ≤ FileSystem.maxPathBytes := by
  have hname : (Text.Utf8.encode payloadName.toList).length = 9 := by decide
  rw [FileSystem.fits_iff, payloadPath,
    Path.bytes_join isName_payload.whole.1 (m.continues_exchange settings), hname]

/-- The record needs more room than the payload, for the name of the file beside it. -/
lemma recordFits_iff (m : Machine) (settings : LauncherSettings) :
    m.RecordFits settings ↔ (m.exchange settings).bytes + 16 ≤ FileSystem.maxPathBytes := by
  have hname : (Text.Utf8.encode recordName.toList).length = 11 := by decide
  have hsuffix : (Text.Utf8.encode ".tmp".toList).length = 4 := by decide
  rw [RecordFits, ResultRecord.staging, FileSystem.fits_iff, Path.bytes_append, recordPath,
    Path.bytes_join isName_record.whole.1 (m.continues_exchange settings), hname, hsuffix]

/-- Whether the exchange directory is as the worker should find it: the payload is there, and the
places of the record and of the file beside it are free. -/
structure Furnished (fs : FileSystem) (exchange : Path) (l : Location) (order : WorkPayload) :
    Prop where
  /-- The path leads to the directory. -/
  leads : fs.Leads exchange l
  /-- The path of the payload is not too long. -/
  fits : Fits (exchange.join ⟨payloadName⟩)
  /-- The payload is there. -/
  payload : fs.node? (l ++ [payloadName.toList]) = some (.file order.bytes false)
  /-- The record is not there. -/
  record : fs.node? (l ++ [recordName.toList]) = none
  /-- The file beside the record is not there. -/
  staging : fs.node? (l ++ [(recordName ++ ".tmp").toList]) = none

lemma Furnished.workDir {exchange : Path} {l : Location}
    (h : Furnished fs exchange l order) (w : Location) :
    Furnished { fs with workDir := w } exchange l order :=
  ⟨h.leads.of_keeps (FileSystem.keeps_workDir fs w), h.fits, h.payload, h.record, h.staging⟩

lemma enter_eq_ok {dir : Option Path} {files : FileSystem} (h : enter files dir = .ok fs) :
    ∃ w, fs = { files with workDir := w } := by
  cases dir with
  | none =>
    cases h
    exact ⟨fs.workDir, rfl⟩
  | some dir =>
    cases hnode : files.lookup dir with
    | error fault => simp [enter, hnode, bind, Except.bind] at h
    | ok node =>
      cases node with
      | file content runnable => simp [enter, hnode, bind, Except.bind] at h
      | directory =>
        cases hplace : files.locate dir with
        | error fault => simp [enter, hnode, hplace, bind, Except.bind] at h
        | ok w =>
          simp only [enter, hnode, hplace, bind, Except.bind] at h
          cases h
          exact ⟨w, rfl⟩

lemma leads_exchange {l : Location}
    (hlocate : m.files.locate (m.exchange settings) = .ok l) :
    (m.files.put l .directory).Leads (m.exchange settings) l := by
  have hmade : (m.files.put l .directory).node? l = some .directory := by
    cases l with
    | nil => rfl
    | cons a l => exact FileSystem.node?_put _ _ _ (List.cons_ne_nil a l)
  have hkeeps : m.files.Keeps (m.files.put l .directory) := FileSystem.keeps_put fun _ => rfl
  exact ⟨m.isAbsolute_exchange settings, m.continues_exchange settings,
    FileSystem.locate_of_keeps hkeeps (m.isAbsolute_exchange settings) hlocate, hmade⟩

/-- A worker finds what was there, with its exchange directory and the payload in it. -/
lemma Prepares.eq_put {dir : Option Path} (h : m.Prepares settings order dir fs)
    (hfresh : ∀ l, m.files.locate (m.exchange settings) = .ok l → m.files.Vacant l) :
    ∃ l w, m.files.Vacant l ∧ (m.files.put l .directory).Leads (m.exchange settings) l ∧
      Fits (m.payloadPath settings) ∧
      fs = { (m.files.put l .directory).put (l ++ [payloadName.toList]) (.file order.bytes false)
        with workDir := w } := by
  obtain ⟨l, files, hlocate, hwrite, henter⟩ := h
  have hvacant : m.files.Vacant l := hfresh l hlocate
  have hleads : (m.files.put l .directory).Leads (m.exchange settings) l := leads_exchange hlocate
  rw [payloadPath, hleads.write_new isName_payload (hvacant.node?_put_directory _)] at hwrite
  split at hwrite
  · next hfits =>
    cases hwrite
    obtain ⟨w, rfl⟩ := enter_eq_ok henter
    exact ⟨l, w, hvacant, hleads, hfits, rfl⟩
  · cases hwrite

lemma Prepares.furnished {dir : Option Path} (h : m.Prepares settings order dir fs)
    (hfresh : ∀ l, m.files.locate (m.exchange settings) = .ok l → m.files.Vacant l) :
    ∃ l, Furnished fs (m.exchange settings) l order := by
  obtain ⟨l, w, hvacant, hleads, hfits, rfl⟩ := h.eq_put hfresh
  let made := m.files.put l .directory
  have hfree (name : List Char) : made.node? (l ++ [name]) = none :=
    hvacant.node?_put_directory name
  have hother {name : List Char} (hne : name ≠ payloadName.toList) :
      (made.put (l ++ [payloadName.toList]) (.file order.bytes false)).node? (l ++ [name]) =
        none := by
    rw [FileSystem.node?_put_of_ne (by simpa using hne), hfree]
  have hkeeps : made.Keeps (made.put (l ++ [payloadName.toList]) (.file order.bytes false)) :=
    FileSystem.keeps_put (by rw [hfree]; nofun)
  have hfurnished : Furnished (made.put (l ++ [payloadName.toList]) (.file order.bytes false))
      (m.exchange settings) l order :=
    ⟨hleads.of_keeps hkeeps, hfits, FileSystem.node?_put _ _ _ (by simp), hother (by decide),
      hother (by decide)⟩
  exact ⟨l, hfurnished.workDir w⟩

/-- A worker finds everything that was there before it was launched. -/
lemma Prepares.retains {dir : Option Path} (h : m.Prepares settings order dir fs)
    (hfresh : ∀ l, m.files.locate (m.exchange settings) = .ok l → m.files.Vacant l) :
    m.files.Retains fs := by
  obtain ⟨l, w, hvacant, -, -, rfl⟩ := h.eq_put hfresh
  have hexchange : m.files.Retains (m.files.put l .directory) :=
    FileSystem.retains_put fun there hthere => by
      cases l with
      | nil =>
        cases hthere
        rfl
      | cons a l =>
        rw [hvacant.node?_eq_none (List.cons_ne_nil a l)] at hthere
        cases hthere
  have hpayload : (m.files.put l .directory).Retains
      ((m.files.put l .directory).put (l ++ [payloadName.toList]) (.file order.bytes false)) :=
    FileSystem.retains_put fun there hthere => by
      rw [hvacant.node?_put_directory] at hthere
      cases hthere
  exact (hexchange.trans hpayload).trans (FileSystem.retains_workDir _ w)

/-! ### The worker -/

section Worker

variable {registry : WorkRegistry} {args : WorkerArguments} {exchange : Path} {l : Location}

lemma Furnished.run_eq (h : Furnished fs exchange l order)
    (hargs : args.payload = exchange.join ⟨payloadName⟩)
    (hversion : order.version = WorkPayload.currentVersion) (hsorted : order.params.Sorted)
    (hplain : order.encode.Plain Json.maxDepth) {e : UnitExecution}
    (hdispatch : Worker.dispatch? registry order (Worker.context args order) fs = some e) :
    Worker.run registry args fs =
      Worker.finish args (Worker.filesLeft registry order (Worker.context args order) fs) e := by
  have hread : fs.read args.payload = .ok order.bytes := by
    rw [hargs]
    exact h.leads.read_file isName_payload h.fits h.payload
  rw [Worker.run, WorkPayload.readFrom_bytes hread hversion hsorted hplain]
  simp only [hdispatch]

/-- A record that has to be left is left, if it fits into its place. -/
lemma Furnished.finish_of_fits (h : Furnished fs exchange l order)
    (hargs : args.result = exchange.join ⟨recordName⟩) {e : UnitExecution} {record : ResultRecord}
    (hrecord : Worker.record? e.ending = some record)
    (hfits : Fits (ResultRecord.staging args.result)) :
    ∃ after, Worker.finish args fs e = ⟨e.console, e.pauseMs, 0, after⟩ ∧
      ∀ w, { after with workDir := w }.read args.result = .ok record.bytes := by
  rw [hargs] at hfits ⊢
  obtain ⟨after, hwrite, hleads, hnode⟩ := ResultRecord.writeAtomic_of_fits h.leads isName_record
    isName_staging h.record h.staging hfits record
  refine ⟨after, ?_, fun w => ?_⟩
  · cases hending : e.ending with
    | exits code => rw [hending] at hrecord; cases hrecord
    | value | failure | unencodable =>
      rw [hending] at hrecord
      simp only [Worker.finish, hending, hrecord, hargs, hwrite, Worker.exitSuccess]
  · exact (hleads.of_keeps (FileSystem.keeps_workDir after w)).read_file isName_record
      hfits.of_append hnode

lemma Furnished.finish_of_not_fits (h : Furnished fs exchange l order)
    (hargs : args.result = exchange.join ⟨recordName⟩) {e : UnitExecution} {record : ResultRecord}
    (hrecord : Worker.record? e.ending = some record)
    (hfits : ¬ Fits (ResultRecord.staging args.result)) :
    Worker.finish args fs e = ⟨e.console, e.pauseMs, 4, fs⟩ := by
  rw [hargs] at hfits
  obtain ⟨fault, hwrite⟩ := ResultRecord.writeAtomic_of_not_fits h.leads isName_record
    isName_staging h.staging hfits record
  cases hending : e.ending with
  | exits code => rw [hending] at hrecord; cases hrecord
  | value | failure | unencodable =>
    rw [hending] at hrecord
    simp only [Worker.finish, hending, hrecord, hargs, hwrite, Worker.exitRecordUnwritten]

end Worker

/-! ### The launch -/

variable {work : WorkType W V} {c : LaunchConfiguration W} {run : ProgramRun}

lemma settles_launched {ending : Nat × ProgramEnd} {held : Nat}
    (hend : run.ending = some ending) (hheld : run.letGo = some held) :
    (m.launched settings work run).Settles ((m.remains settings run).conclude settings work) :=
  (Launched.untouched_of_fresh rfl rfl hend hheld).settles

/-- A worker that exits with a code other than zero or without a result breaks the protocol. -/
theorem breaks_launched {time code held : Nat} (hend : run.ending = some (time, .exited code))
    (hheld : run.letGo = some held) (h : code ≠ 0 ∨ ¬ (m.remains settings run).HoldsResult work) :
    (m.launched settings work run).Breaks code := by
  have hended : (m.remains settings run).ending = .exited code := by simp [remains, hend]
  obtain ⟨message, diagnostics, hconclude⟩ : ∃ message diagnostics,
      (m.remains settings run).conclude settings work =
        .error (.launcher message (some code) diagnostics) :=
    WorkerRemains.conclude_eq_error hended h
  refine ⟨⟨time, hend⟩, message, diagnostics, ?_⟩
  rw [← hconclude]
  exact settles_launched hend hheld

lemma not_holdsResult_of_error {fault : FileFault}
    (h : { run.files with workDir := m.files.workDir }.read (m.recordPath settings) =
      .error fault) : ¬ (m.remains settings run).HoldsResult work := by
  rintro ⟨content, -, hcontent, -⟩
  have hnone : (m.remains settings run).record = .error fault := h
  rw [hnone] at hcontent
  cases hcontent

variable {registry : WorkRegistry} {l : Launched V} {params : Json}

/-- The worker of a launch starts with what was prepared for it. -/
lemma launch_start (h : m.launch settings work c = (m', .ok l))
    (hhosts : m.Hosts settings registry) (hparams : work.encode? c.work = some params) :
    ∃ fs place args run,
      (c.command (m.payloadPath settings) (m.recordPath settings)).arguments = .ok args ∧
      m.Prepares settings (c.order work.kindName params) c.workDir fs ∧
      Furnished fs (m.exchange settings) place (c.order work.kindName params) ∧
      run.Follows (Worker.start registry (settings.workerProgram.text :: args) fs) ∧
      l = m.launched settings work run := by
  obtain ⟨params', args, fs, worker, hparams', hargs, hprepares, hworker, rfl⟩ := launch_eq_ok h
  cases hparams.symm.trans hparams'
  obtain ⟨place, hfurnished⟩ := hprepares.furnished hhosts.fresh
  exact ⟨fs, place, args, _, hargs, hprepares, hfurnished, hhosts.works fs worker hworker _ fs, rfl⟩

section Command

variable {args : List String}

lemma isAbsolute_payload_command (m : Machine) (settings : LauncherSettings)
    (c : LaunchConfiguration W) :
    (c.command (m.payloadPath settings) (m.recordPath settings)).payload.isAbsolute = true := by
  rw [LaunchConfiguration.payload_command, payloadPath]
  exact Path.isAbsolute_join (m.isAbsolute_exchange settings) _

lemma isAbsolute_result_command (m : Machine) (settings : LauncherSettings)
    (c : LaunchConfiguration W) :
    (c.command (m.payloadPath settings) (m.recordPath settings)).result.isAbsolute = true := by
  rw [LaunchConfiguration.result_command, recordPath]
  exact Path.isAbsolute_join (m.isAbsolute_exchange settings) _

/-- A worker that accepts its command line takes from it what is meant. -/
lemma Accepts.parse (h : m.Accepts settings c)
    (hargs : (c.command (m.payloadPath settings) (m.recordPath settings)).arguments = .ok args) :
    WorkerArguments.parse (settings.workerProgram.text :: args) =
      .ok (c.command (m.payloadPath settings) (m.recordPath settings)).meant := by
  have hpayload := m.isAbsolute_payload_command settings c
  have hresult := m.isAbsolute_result_command settings c
  obtain ⟨args', parsed, hargs', hparsed⟩ := h
  cases hargs.symm.trans hargs'
  refine WorkerCommand.parse_of_not_garbled hpayload hresult hargs (fun hgarbled => ?_) _
  obtain ⟨e, he⟩ := WorkerCommand.parse_of_garbled hpayload hresult hargs hgarbled
    settings.workerProgram.text
  cases hparsed.symm.trans he

end Command

/-- The worker of a launch takes over what was prepared for it. -/
theorem launch_worker (h : m.launch settings work c = (m', .ok l))
    (hhosts : m.Hosts settings registry) (haccepts : m.Accepts settings c)
    (hparams : work.encode? c.work = some params) :
    ∃ fs place args run, m.Prepares settings (c.order work.kindName params) c.workDir fs ∧
      Furnished fs (m.exchange settings) place (c.order work.kindName params) ∧
      args.payload = m.payloadPath settings ∧ args.result = m.recordPath settings ∧
      Worker.context args (c.order work.kindName params) = c.context ∧
      run.Follows (Worker.run registry args fs) ∧ l = m.launched settings work run := by
  obtain ⟨fs, place, args, run, hargs, hprepares, hfurnished, hstart, rfl⟩ :=
    launch_start h hhosts hparams
  let command := c.command (m.payloadPath settings) (m.recordPath settings)
  have hcontext : Worker.context command.meant (c.order work.kindName params) = c.context :=
    WorkerCommand.context_meant hargs rfl
  rw [Worker.start, haccepts.parse hargs] at hstart
  refine ⟨fs, place, command.meant, run, hprepares, hfurnished, ?_, ?_, hcontext, hstart, rfl⟩
  · rw [WorkerCommand.payload_meant, LaunchConfiguration.payload_command]
  · rw [WorkerCommand.result_meant, LaunchConfiguration.result_command]

lemma breaks_of_not_accepts (h : m.launch settings work c = (m', .ok l))
    (hhosts : m.Hosts settings registry) (hno : ¬ m.Accepts settings c) :
    ∃ code, l.Breaks code := by
  obtain ⟨params, -, -, -, hparams, -⟩ := launch_eq_ok h
  obtain ⟨fs, place, args, run, hargs, -, hfurnished, hstart, rfl⟩ := launch_start h hhosts hparams
  cases hparse : WorkerArguments.parse (settings.workerProgram.text :: args) with
  | ok parsed => exact absurd ⟨args, parsed, hargs, hparse⟩ hno
  | error e =>
    rw [Worker.start, hparse] at hstart
    obtain ⟨⟨time, hend⟩, ⟨held, hheld⟩, hfiles⟩ := hstart
    refine ⟨_, breaks_launched hend hheld (.inr ?_)⟩
    obtain ⟨fault, hread⟩ := (hfurnished.workDir m.files.workDir).leads.read_new isName_record
      hfurnished.record
    exact not_holdsResult_of_error (by rw [hfiles]; exact hread)

/-- A launch of a worker is untouched and has an end. -/
lemma exists_untouched (h : m.launch settings work c = (m', .ok l))
    (hhosts : m.Hosts settings registry) :
    ∃ time, l.startedAt = m.clock ∧ l.Untouched time ∧
      ∃ ending held, l.run.ending = some ending ∧ l.run.letGo = some held := by
  obtain ⟨params, -, -, -, hparams, -⟩ := launch_eq_ok h
  obtain ⟨fs, place, args, run, -, -, -, hstart, rfl⟩ := launch_start h hhosts hparams
  obtain ⟨⟨time, hend⟩, ⟨held, hheld⟩, -⟩ := hstart
  exact ⟨_, rfl, Launched.untouched_of_fresh rfl rfl hend hheld, _, _, hend, hheld⟩

/-- A launch with nothing but its files on the command line goes through from the root, if there is
room for the files. -/
lemma exists_launch_of_fits {place : Location} {worker : Program}
    (hready : m.Ready settings worker) (hname : '\x00' ∉ settings.workerProgram.text.toList)
    (hdir : c.workDir = some ⟨"/"⟩)
    (hcommand : ∀ payload record, c.command payload record = ⟨payload, record, [], none, none, []⟩)
    (hparams : work.encode? c.work = some params)
    (hlocate : m.files.locate (m.exchange settings) = .ok place)
    (hpayload : Fits (m.payloadPath settings)) (hrecord : Fits (m.recordPath settings)) :
    (∃ m' l, m.launch settings work c = (m', .ok l)) ∧ m.Accepts settings c := by
  have hmade := leads_exchange hlocate
  have hargs : (c.command (m.payloadPath settings) (m.recordPath settings)).arguments =
      .ok ["--payload", (m.payloadPath settings).text, "--result",
        (m.recordPath settings).text] := by
    rw [hcommand]
    rfl
  constructor
  · let order := c.order work.kindName params
    have hwrite : (m.files.put place .directory).write (m.payloadPath settings) order.bytes =
        .ok ((m.files.put place .directory).put (place ++ [payloadName.toList])
          (.file order.bytes false)) := by
      rw [payloadPath, hmade.write_new isName_payload
        ((hready.fresh place hlocate).node?_put_directory _), ← payloadPath, if_pos hpayload]
    have henter (fs : FileSystem) : enter fs c.workDir = .ok { fs with workDir := [] } := by
      rw [hdir]
      simp [enter, FileSystem.lookup, FileSystem.locate_root, bind, Except.bind]
    have hprogram (files fs : FileSystem) :
        program { m with files := files } fs settings.workerProgram = .ok worker := by
      simp only [program]
      rw [hready.runs]
      rfl
    have hsaid : ∀ text ∈ settings.workerProgram.text :: (c.workDir.toList.map Path.text ++
        ["--payload", (m.payloadPath settings).text, "--result", (m.recordPath settings).text]),
        '\x00' ∉ text.toList := by
      have hpayload' := hmade.notMem_join isName_payload hpayload
      have hrecord' := hmade.notMem_join isName_record hrecord
      rw [hdir]
      simp only [Option.toList_some, List.map_cons, List.map_nil, List.cons_append, List.nil_append,
        List.forall_mem_cons, List.not_mem_nil, false_implies, implies_true, and_true]
      exact ⟨hname, by decide, by decide, hpayload', by decide, hrecord'⟩
    have hstart (files : FileSystem) := start_of_program (henter files) (hprogram files _) hsaid
    obtain ⟨m', hlaunch⟩ := exists_launch hparams hlocate hwrite hargs (hstart _)
    exact ⟨m', _, hlaunch⟩
  · have hclear : ¬ (c.command (m.payloadPath settings) (m.recordPath settings)).Garbled := by
      rw [hcommand]
      simp [WorkerCommand.Garbled, WorkerCommand.LooksLikeOption]
    exact ⟨_, _, hargs, WorkerCommand.parse_of_not_garbled (m.isAbsolute_payload_command settings c)
      (m.isAbsolute_result_command settings c) hargs hclear _⟩

section LongExchange

variable (hfiles : m.files = ⟨[], [(["tmp".toList], .directory)]⟩) (hfirst : m.started = 0)
  (hexchange : settings.exchangeDir = some (Path.longTmp 4068))

include hfiles hfirst hexchange

/-- The exchange directory is new, and its path has just so many bytes that the file beside the
record has none. -/
lemma exchange_longTmp :
    m.files.locate (m.exchange settings) = .ok ["tmp".toList, "vessel-1".toList] ∧
      (m.exchange settings).bytes = 4080 := by
  have hfits : Fits (Path.longTmp 4068) := by
    rw [FileSystem.fits_iff, Path.bytes_longTmp]
    decide
  have htmp : m.files.Leads (Path.longTmp 4068) ["tmp".toList] :=
    FileSystem.leads_longTmp (by rw [hfiles]; rfl) hfits
  have heq : m.exchange settings = (Path.longTmp 4068).join ⟨"vessel-1"⟩ := by
    rw [exchange, hexchange, hfirst, Option.getD_some, Path.join_of_isAbsolute htmp.absolute]
    rfl
  have hbytes : (m.exchange settings).bytes = 4080 := by
    have hname : (Text.Utf8.encode "vessel-1".toList).length = 8 := by decide
    rw [heq, Path.bytes_join (by decide) htmp.continues, Path.bytes_longTmp, hname]
  have hname : Path.IsName "vessel-1" := ⟨by decide, by decide, by decide⟩
  have hshort : Fits ((Path.longTmp 4068).join ⟨"vessel-1"⟩) := by
    rw [← heq, FileSystem.fits_iff, hbytes]
    decide
  refine ⟨?_, hbytes⟩
  rw [heq, htmp.locate_join hname, if_pos hshort]
  rfl

/-- A launch with nothing but its files on the command line goes through, and the worker finds no
room for its record. -/
lemma exists_launch_longTmp {worker : Program}
    (hruns : (m.programs.find? fun p => p.1.same settings.workerProgram).map (·.2) = some worker)
    (hname : '\x00' ∉ settings.workerProgram.text.toList) (hdir : c.workDir = some ⟨"/"⟩)
    (hcommand : ∀ payload record, c.command payload record = ⟨payload, record, [], none, none, []⟩)
    (hparams : work.encode? c.work = some params) :
    m.Ready settings worker ∧ (∃ m' l, m.launch settings work c = (m', .ok l)) ∧
      m.Accepts settings c ∧ ¬ m.RecordFits settings := by
  obtain ⟨hlocate, hbytes⟩ := exchange_longTmp hfiles hfirst hexchange
  have hready : m.Ready settings worker := by
    refine ⟨hruns, fun l hl => ?_⟩
    cases hlocate.symm.trans hl
    simp [FileSystem.Vacant, hfiles]
  have hpayload : Fits (m.payloadPath settings) := by
    rw [fits_payload_iff, hbytes]
    decide
  have hrecord : Fits (m.recordPath settings) := by
    have hlength : (Text.Utf8.encode recordName.toList).length = 11 := by decide
    rw [FileSystem.fits_iff, recordPath, Path.bytes_join isName_record.whole.1
      (m.continues_exchange settings), hbytes, hlength]
    decide
  have hstaging : ¬ m.RecordFits settings := by
    rw [recordFits_iff, hbytes]
    decide
  obtain ⟨hlaunch, haccepts⟩ :=
    exists_launch_of_fits hready hname hdir hcommand hparams hlocate hpayload hrecord
  exact ⟨hready, hlaunch, haccepts, hstaging⟩

end LongExchange

section Leaving

variable {place : Location} {args : WorkerArguments} {e : UnitExecution} {record : ResultRecord}

/-- A launch whose worker has a record to leave settles on the record if that fits into its
place. -/
lemma Furnished.settles_of_record (h : Furnished fs (m.exchange settings) place order)
    (hresult : args.result = m.recordPath settings)
    (hfollows : run.Follows (Worker.finish args fs e))
    (hleaves : Worker.record? e.ending = some record) (hreadable : record.Readable)
    (hfits : m.RecordFits settings) :
    (m.launched settings work run).Settles
      ((m.remains settings run).concludeRecord settings work record) := by
  rw [RecordFits, ← hresult] at hfits
  obtain ⟨after, hwritten, hread⟩ := h.finish_of_fits hresult hleaves hfits
  rw [hwritten] at hfollows
  obtain ⟨⟨time, hend⟩, ⟨held, hheld⟩, hfiles⟩ := hfollows
  have hended : (m.remains settings run).ending = .exited 0 := by
    simp only [remains, hend]
    rfl
  have hcontent : (m.remains settings run).record = .ok record.bytes := by
    change FileSystem.read { run.files with workDir := m.files.workDir }
      (m.recordPath settings) = _
    rw [hfiles, ← hresult]
    exact hread m.files.workDir
  rw [← WorkerRemains.conclude_of_record hended hcontent hreadable]
  exact settles_launched hend hheld

lemma Furnished.breaks_of_record (h : Furnished fs (m.exchange settings) place order)
    (hresult : args.result = m.recordPath settings)
    (hfollows : run.Follows (Worker.finish args fs e))
    (hleaves : Worker.record? e.ending = some record) (hfits : ¬ m.RecordFits settings) :
    (m.launched settings work run).Breaks 4 := by
  rw [RecordFits, ← hresult] at hfits
  rw [h.finish_of_not_fits hresult hleaves hfits] at hfollows
  obtain ⟨⟨time, hend⟩, ⟨held, hheld⟩, -⟩ := hfollows
  exact breaks_launched hend hheld (.inl (by decide))

end Leaving

/-- What was kept of the console lines are the last of them. -/
lemma transcript_remains (m : Machine) (settings : LauncherSettings) (work : WorkType W V)
    (run : ProgramRun) :
    (m.remains settings run).transcript settings =
      (m.launched settings work run).transcript settings :=
  Console.kept_eq_lastOf _ _

/-- A launch hands on how the unit of work ended, if the value has the type that is wanted. -/
theorem handsOn_of_dispatch {encode : V → Json} (h : m.launch settings work c = (m', .ok l))
    (hhosts : m.Hosts settings registry) (hspares : Worker.Spares registry)
    (haccepts : m.Accepts settings c)
    (hparams : work.encode? c.work = some params) (hsorted : params.Sorted)
    (hplain : params.Plain 126) :
    ∃ fs, m.Prepares settings (c.order work.kindName params) c.workDir fs ∧
      ∀ e, Worker.dispatch? registry (c.order work.kindName params) c.context fs = some e →
        (∀ output, e.ending = .value output → output.Plain 126 ∧
          ∃ v, encode v = output ∧ work.result? output.sorted.toDoc = some v) →
        l.HandsOn settings encode (m.RecordFits settings) e.ending := by
  obtain ⟨fs, place, args, run, hprepares, hfurnished, hpayload, hresult, hcontext, hfollows,
    rfl⟩ := launch_worker h hhosts haccepts hparams
  refine ⟨fs, hprepares, fun e hdispatch hvalue => ?_⟩
  rw [hfurnished.run_eq hpayload rfl hsorted (WorkPayload.plain_encode hplain)
    (hcontext ▸ hdispatch), Worker.filesLeft_of_spares hspares] at hfollows
  cases hending : e.ending with
  | value output =>
    obtain ⟨hflat, v, hencode, hv⟩ := hvalue output hending
    have hreadable : (ResultRecord.success output.sorted).Readable :=
      ⟨Json.sorted_sorted output, hflat.sorted⟩
    have hconclude : (m.remains settings run).concludeRecord settings work
        (.success output.sorted) =
          .ok (.success v ((m.launched settings work run).transcript settings)) := by
      simp only [WorkerRemains.concludeRecord, hv, m.transcript_remains settings work run]
    have hleaves : Worker.record? e.ending = some (.success output.sorted) := by
      rw [hending]
      rfl
    have hsettles (hfits : m.RecordFits settings) : (m.launched settings work run).Settles
        ((m.remains settings run).concludeRecord settings work (.success output.sorted)) :=
      hfurnished.settles_of_record hresult hfollows hleaves hreadable hfits
    rw [hconclude] at hsettles
    exact ⟨fun hfits => ⟨v, hencode, hsettles hfits⟩,
      hfurnished.breaks_of_record hresult hfollows hleaves⟩
  | failure cause =>
    have hreadable : (ResultRecord.failure cause).Readable := trivial
    have hconclude : (m.remains settings run).concludeRecord settings work (.failure cause) =
        .ok (.failure cause ((m.launched settings work run).transcript settings)) := by
      simp only [WorkerRemains.concludeRecord, m.transcript_remains settings work run]
    have hleaves : Worker.record? e.ending = some (.failure cause) := by
      rw [hending]
      rfl
    exact ⟨fun hfits => hconclude ▸
        hfurnished.settles_of_record hresult hfollows hleaves hreadable hfits,
      hfurnished.breaks_of_record hresult hfollows hleaves⟩
  | unencodable =>
    have hgone : Worker.finish args fs e = ⟨e.console, e.pauseMs, 3, fs⟩ := by
      simp only [Worker.finish, hending, Worker.record?, Worker.exitBadPayload]
    rw [hgone] at hfollows
    obtain ⟨⟨time, hend⟩, ⟨held, hheld⟩, -⟩ := hfollows
    exact breaks_launched hend hheld (.inl (by decide))
  | exits code =>
    have hgone : Worker.finish args fs e = ⟨e.console, e.pauseMs, code, fs⟩ := by
      simp only [Worker.finish, hending]
    rw [hgone] at hfollows
    obtain ⟨⟨time, hend⟩, ⟨held, hheld⟩, hfiles⟩ := hfollows
    refine breaks_launched hend hheld (.inr ?_)
    obtain ⟨fault, hread⟩ := (hfurnished.workDir m.files.workDir).leads.read_new isName_record
      hfurnished.record
    exact not_holdsResult_of_error (by rw [hfiles]; exact hread)

/-- Results come through.  The launch of a probe or of a manifest hands on how the unit of work
ended, and the launch of any worker that exits with a code other than zero or without a result comes
to an error with that code. -/
theorem results_come_through :
    (∀ {c : LaunchConfiguration Probe} {l : Launched Int64},
      m.launch settings Probe.workType c = (m', .ok l) →
      m.Ready settings (Worker.program Worker.standardRegistry) → m.Accepts settings c →
        l.HandsOn settings (fun v => .int v.toInt) (m.RecordFits settings)
          c.work.execute.ending) ∧
    (∀ {c : LaunchConfiguration BuildManifest} {l : Launched JobArtifact},
      m.launch settings BuildManifest.workType c = (m', .ok l) →
      m.Ready settings (Worker.program Worker.standardRegistry) → m.Accepts settings c →
      c.work.flow.Sorted → c.work.flow.Plain 125 →
        ∃ fs, m.Prepares settings (c.order BuildManifest.kindName c.work.encode.sorted) c.workDir
            fs ∧
          l.HandsOn settings JobArtifact.encode (m.RecordFits settings)
            (c.work.execute c.context fs).ending) ∧
    (∀ {W V : Type} {work : WorkType W V} {c : LaunchConfiguration W} {l : Launched V}
      {time code held : Nat}, m.launch settings work c = (m', .ok l) →
      l.run.ending = some (time, .exited code) → l.run.letGo = some held →
      code ≠ 0 ∨ ¬ (m.remains settings l.run).HoldsResult work → l.Breaks code) := by
  refine ⟨?_, ?_, ?_⟩
  · intro c l h hready haccepts
    obtain ⟨fs, -, hhands⟩ := handsOn_of_dispatch h hready.hosts
      Worker.spares_standardRegistry haccepts rfl (Json.sorted_sorted c.work.encode)
      (c.work.plain_encode 124).sorted
    exact hhands c.work.execute (c.work.dispatch?_eq c.resolvedClasspath)
      fun output hvalue => Probe.exists_result hvalue 126
  · intro c l h hready haccepts hsorted hplain
    obtain ⟨fs, hprepares, hhands⟩ := handsOn_of_dispatch h hready.hosts
      Worker.spares_standardRegistry haccepts rfl (Json.sorted_sorted c.work.encode)
      (BuildManifest.plain_encode hplain).sorted
    exact ⟨fs, hprepares, hhands _ (BuildManifest.dispatch?_eq hsorted c.resolvedClasspath)
      fun output hvalue => BuildManifest.exists_result hsorted hplain hvalue⟩
  · intro W V work c l time code held h hend hheld hno
    obtain ⟨params, args, fs, worker, -, -, -, -, rfl⟩ := launch_eq_ok h
    exact breaks_launched hend hheld hno

lemma exists_launched (h : (m.launch settings work c).2.isOk = true) :
    ∃ m' l, m.launch settings work c = (m', .ok l) := by
  rcases hlaunch : m.launch settings work c with ⟨m', e | l⟩
  · rw [hlaunch] at h
    cases h
  · exact ⟨m', l, rfl⟩

/-- A division by zero, a manifest without dependencies, and a worker that only exits. -/
theorem results_come_through_division :
    let files : FileSystem := ⟨[], [(["tmp".toList], .directory)]⟩
    let worker : Machine :=
      { files := files, programs := [(⟨"worker"⟩, Worker.program Worker.standardRegistry)] }
    let quitter : Machine :=
      { files := files
        programs := [(⟨"worker"⟩, fun _ fs =>
          { printed := [], complained := [], ending := some (0, .exited 7), files := fs })] }
    let settings : LauncherSettings := { workerProgram := ⟨"worker"⟩ }
    let division : LaunchConfiguration Probe :=
      ⟨.divide 1 0, none, none, [], [], true, [], none⟩
    let manifest : LaunchConfiguration BuildManifest :=
      ⟨⟨⟨"j"⟩, .obj [], []⟩, none, none, [], [], true, [], none⟩
    (∃ m' l, worker.launch settings Probe.workType division = (m', .ok l) ∧
      l.Settles (.ok (.failure ⟨"ArithmeticError", "division by zero", []⟩
        (l.transcript settings)))) ∧
    (∃ m' l v, worker.launch settings BuildManifest.workType manifest = (m', .ok l) ∧
      l.Settles (.ok (.success v (l.transcript settings)))) ∧
    ∃ m' l, quitter.launch settings Probe.workType division = (m', .ok l) ∧ l.Breaks 7 := by
  intro files worker quitter settings division manifest
  have hlocate : worker.files.locate (worker.exchange settings) =
      .ok ["tmp".toList, "vessel-1".toList] := by decide +kernel
  have hready : worker.Ready settings (Worker.program Worker.standardRegistry) := by
    refine ⟨by simp [worker, settings, Path.same_refl], fun l hl => ?_⟩
    cases hlocate.symm.trans hl
    simp [FileSystem.Vacant, worker, files]
  refine ⟨?_, ?_, ?_⟩
  · have haccepts : worker.Accepts settings division := by decide +kernel
    obtain ⟨m', l, h⟩ : ∃ m' l, worker.launch settings Probe.workType division = (m', .ok l) :=
      exists_launched (by decide +kernel)
    have hhands := results_come_through.1 h hready haccepts
    exact ⟨m', l, h, hhands.1 (by decide +kernel)⟩
  · have haccepts : worker.Accepts settings manifest := by decide +kernel
    obtain ⟨m', l, h⟩ : ∃ m' l,
        worker.launch settings BuildManifest.workType manifest = (m', .ok l) :=
      exists_launched (by decide +kernel)
    obtain ⟨fs, -, hhands⟩ := results_come_through.2.1 h hready haccepts
      (by simp [manifest, Json.Sorted, Json.SortedMembers])
      (by simp [manifest, Json.Plain, Json.PlainMembers])
    obtain ⟨v, -, hsettles⟩ := hhands.1 (by decide +kernel)
    exact ⟨m', l, v, h, hsettles⟩
  · obtain ⟨m', l, h⟩ : ∃ m' l, quitter.launch settings Probe.workType division = (m', .ok l) :=
      exists_launched (by decide +kernel)
    obtain ⟨params, args, fs, program, -, -, -, hprogram, rfl⟩ := launch_eq_ok h
    have hquits : quitter.program fs settings.workerProgram =
        .ok fun _ fs =>
          { printed := [], complained := [], ending := some (0, .exited 7), files := fs } := by
      simp [Machine.program, quitter, settings, Path.same_refl]
    cases hquits.symm.trans hprogram
    exact ⟨m', _, h, results_come_through.2.2 h rfl rfl (.inl (by decide))⟩

/-- If the path of the exchange directory leaves room for the payload but not for the record, the
artifact of a manifest does not come through: the worker accepts its arguments, and exits with the
code for a record that cannot be written. -/
theorem not_handsOn_longExchange :
    let m : Machine :=
      { files := ⟨[], [(["tmp".toList], .directory)]⟩
        programs := [(⟨"worker"⟩, Worker.program Worker.standardRegistry)] }
    let settings : LauncherSettings :=
      { workerProgram := ⟨"worker"⟩, exchangeDir := some (Path.longTmp 4068) }
    let manifest : LaunchConfiguration BuildManifest :=
      ⟨⟨⟨"j"⟩, .obj [], []⟩, none, none, [], [], true, [], some ⟨"/"⟩⟩
    ∃ m' l fs artifact, m.launch settings BuildManifest.workType manifest = (m', .ok l) ∧
      m.Accepts settings manifest ∧
      m.Prepares settings (manifest.order BuildManifest.kindName manifest.work.encode.sorted)
        manifest.workDir fs ∧
      (manifest.work.execute manifest.context fs).ending = .value artifact ∧ l.Breaks 4 ∧
      ¬ l.HandsOn settings JobArtifact.encode True (.value artifact) := by
  intro m settings manifest
  have hruns : (m.programs.find? fun p => p.1.same settings.workerProgram).map (·.2) =
      some (Worker.program Worker.standardRegistry) := by
    simp [m, settings, Path.same_refl]
  have hparams : BuildManifest.workType.encode? manifest.work = some manifest.work.encode.sorted :=
    rfl
  obtain ⟨hready, ⟨m', l, hlaunch⟩, haccepts, hstaging⟩ := exists_launch_longTmp rfl rfl rfl hruns
    (by decide) (rfl : manifest.workDir = some ⟨"/"⟩) (fun _ _ => rfl) hparams
  have hsorted : manifest.work.flow.Sorted := by simp [manifest, Json.Sorted, Json.SortedMembers]
  have hplain : manifest.work.flow.Plain 125 := by simp [manifest, Json.Plain, Json.PlainMembers]
  obtain ⟨fs, hprepares, hhands⟩ := handsOn_of_dispatch hlaunch hready.hosts
    Worker.spares_standardRegistry haccepts rfl (Json.sorted_sorted manifest.work.encode)
    (BuildManifest.plain_encode hplain).sorted
  have hends := hhands _ (BuildManifest.dispatch?_eq hsorted manifest.resolvedClasspath)
    fun output hvalue => BuildManifest.exists_result hsorted hplain hvalue
  obtain ⟨artifact, hvalue⟩ : ∃ artifact,
      (manifest.work.execute manifest.context fs).ending = .value artifact := ⟨_, rfl⟩
  rw [hvalue] at hends
  have hbreaks : l.Breaks 4 := hends.2 hstaging
  refine ⟨m', l, fs, artifact, hlaunch, haccepts, hprepares, hvalue, hbreaks, fun hcomes => ?_⟩
  obtain ⟨v, -, hsettles⟩ := hcomes.1 trivial
  obtain ⟨-, message, diagnostics, herror⟩ := hbreaks
  cases hsettles.unique herror

end Machine

end JobSupervision
