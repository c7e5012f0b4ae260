/-
# Command lines that arrive

A worker reads its command line option by option, and an option is settled when the next one
begins (`WorkerArguments.scan_option`).  What is written for a launch is read back as it was meant
unless the joined classpath looks like an option, or a heap size is nothing: then the worker
accepts nothing at all (`WorkerCommand.arrives_iff`).
-/
import JobSupervision.Launch.Configuration
import JobSupervision.Launch.CommandLine
import JobSupervision.Worker.Run
import JobSupervision.Proofs.HeapSize
import JobSupervision.Proofs.Launch.Classpath

namespace JobSupervision

/-! ### Reading option by option -/

namespace WorkerArguments

/-- Whether arguments do not go on with a value. -/
def BeginAnew (args : List String) : Prop :=
  ∀ arg ∈ args.head?, ∀ text, Argument.of arg ≠ .plain text

lemma beginAnew_nil : BeginAnew [] := nofun

lemma beginAnew_cons {arg : String} {rest : List String}
    (h : ∀ text, Argument.of arg ≠ .plain text) : BeginAnew (arg :: rest) := by
  intro arg' harg'
  cases harg'
  exact h

lemma beginAnew_flag {flag : String} {name : List Char} (rest : List String)
    (hflag : Argument.of flag = .long name none) : BeginAnew (flag :: rest) := by
  refine beginAnew_cons fun text => ?_
  rw [hflag]
  nofun

lemma BeginAnew.append {first second : List String} (h : BeginAnew first)
    (h' : BeginAnew second) : BeginAnew (first ++ second) := by
  cases first with
  | nil => exact h'
  | cons arg rest => exact h

lemma Argument.of_cases (text : String) :
    (∃ c cs, text.toList = '-' :: c :: cs) ∧ (∀ text', Argument.of text ≠ .plain text') ∨
      (∀ c cs, text.toList ≠ '-' :: c :: cs) ∧ Argument.of text = .plain text := by
  unfold Argument.of
  split
  · next h => exact .inl ⟨⟨'-', [], h⟩, nofun⟩
  · next cs _ h =>
    refine .inl ⟨⟨'-', cs, h⟩, fun text' => ?_⟩
    split <;> nofun
  · next c cs _ _ h => exact .inl ⟨⟨c, cs, h⟩, nofun⟩
  · next hdivider hlong hshort =>
    refine .inr ⟨fun c cs h => ?_, rfl⟩
    exact hshort c cs h

variable {d d' : Draft} {begun : Begun} {rest : List String} {flag value : String}
  {name : List Char} {option : OptionName}

/-- An option that was begun is settled when something new begins. -/
lemma scan_of_settleBegun (h : d.settleBegun begun = .ok d') (hrest : BeginAnew rest) :
    scan d begun rest = scan d' none rest := by
  have hnone : d'.settleBegun none = .ok d' := rfl
  cases rest with
  | nil => simp only [scan, h, hnone]
  | cons arg rest =>
    cases hof : Argument.of arg with
    | plain text => exact absurd hof (hrest arg rfl text)
    | divider | long | short => simp only [scan, hof, h, hnone]

lemma scan_of_settleBegun_error {e : ArgumentError} (h : d.settleBegun begun = .error e)
    (hrest : BeginAnew rest) : ∃ e', scan d begun rest = .error e' := by
  cases rest with
  | nil => exact ⟨e, by simp only [scan, h]; rfl⟩
  | cons arg rest =>
    simp only [scan, h]
    cases hof : Argument.of arg with
    | plain text => exact absurd hof (hrest arg rfl text)
    | divider => exact ⟨e, rfl⟩
    | long name value =>
      dsimp only
      split
      · cases value with
        | none => exact ⟨e, rfl⟩
        | some v => exact ⟨_, rfl⟩
      · cases OptionName.ofText? name with
        | none => exact ⟨_, rfl⟩
        | some option => exact ⟨e, rfl⟩
    | short letters =>
      dsimp only
      split
      · exact ⟨e, rfl⟩
      · exact ⟨_, rfl⟩

lemma scan_flag (hflag : Argument.of flag = .long name none)
    (hname : OptionName.ofText? name = some option) (rest : List String) :
    scan d none (flag :: rest) = scan d (some (option, none)) rest := by
  have hhelp : name ≠ "help".toList := by
    rintro rfl
    cases hname
  simp only [scan, hflag, if_neg hhelp, hname]
  rfl

/-- An option with a value is settled when something new begins. -/
theorem scan_option (hflag : Argument.of flag = .long name none)
    (hname : OptionName.ofText? name = some option) (hvalue : Argument.of value = .plain value)
    (hset : d.settle option (some value) = .ok d') (hrest : BeginAnew rest) :
    scan d none (flag :: value :: rest) = scan d' none rest := by
  have hsettled : d.settleBegun (some (option, some value)) = .ok d' := hset
  rw [scan_flag hflag hname, ← scan_of_settleBegun hsettled hrest]
  simp only [scan, hvalue]

/-- An option with a value that it cannot have is not accepted. -/
lemma scan_option_error {e : ArgumentError} (hflag : Argument.of flag = .long name none)
    (hname : OptionName.ofText? name = some option) (hvalue : Argument.of value = .plain value)
    (hset : d.settle option (some value) = .error e) (hrest : BeginAnew rest) :
    ∃ e', scan d none (flag :: value :: rest) = .error e' := by
  have hfault : d.settleBegun (some (option, some value)) = .error e := hset
  obtain ⟨e', he'⟩ := scan_of_settleBegun_error hfault hrest
  refine ⟨e', ?_⟩
  rw [scan_flag hflag hname, ← he']
  simp only [scan, hvalue]

lemma scan_flag_error (hflag : Argument.of flag = .long name none)
    (hname : OptionName.ofText? name = some option) (hrest : BeginAnew rest) :
    ∃ e, scan d none (flag :: rest) = .error e := by
  rw [scan_flag hflag hname]
  exact scan_of_settleBegun_error (e := .invalidValue) rfl hrest

/-! ### Heap sizes on a command line -/

lemma beginAnew_sizeOption (hflag : Argument.of flag = .long name none) (size : Option HeapSize) :
    BeginAnew (WorkerCommand.sizeOption flag size) := by
  cases size with
  | none => exact beginAnew_nil
  | some size => exact beginAnew_flag _ hflag

lemma Argument.of_heapText (size : HeapSize) : Argument.of size.text = .plain size.text := by
  obtain ⟨c, cs, htext, hdigit⟩ := size.exists_toList_text
  rcases Argument.of_cases size.text with ⟨⟨c', cs', hdash⟩, -⟩ | ⟨-, hplain⟩
  · rw [htext] at hdash
    obtain ⟨rfl, -⟩ := List.cons.inj hdash
    cases hdigit
  · exact hplain

lemma heapValue_text (size : HeapSize) :
    heapValue size.text = if 0 < size.bytes then .ok size else .error .valueValidation := by
  rw [heapValue, size.parse?_text]
  by_cases h : 0 < size.bytes
  · simp only [if_pos h]
  · simp only [if_neg h]

variable {set : HeapSize → Draft} {size : Option HeapSize}

/-- A heap size on a command line is settled, unless it is nothing. -/
lemma scan_sizeOption (hflag : Argument.of flag = .long name none)
    (hname : OptionName.ofText? name = some option)
    (hset : ∀ v, d.settle option (some v) = (heapValue v).map set) (hrest : BeginAnew rest)
    (hpos : ∀ h ∈ size, 0 < h.bytes) :
    scan d none (WorkerCommand.sizeOption flag size ++ rest) =
      scan ((size.map set).getD d) none rest := by
  cases size with
  | none => rfl
  | some h =>
    refine scan_option hflag hname (Argument.of_heapText h) ?_ hrest
    rw [hset, heapValue_text, if_pos (hpos h rfl)]
    rfl

/-- A heap size of nothing is not accepted. -/
lemma scan_sizeOption_error (hflag : Argument.of flag = .long name none)
    (hname : OptionName.ofText? name = some option)
    (hset : ∀ v, d.settle option (some v) = (heapValue v).map set) (hrest : BeginAnew rest)
    (hzero : ∃ h ∈ size, h.bytes = 0) :
    ∃ e, scan d none (WorkerCommand.sizeOption flag size ++ rest) = .error e := by
  obtain ⟨h, hsize, hzero⟩ := hzero
  cases hsize
  refine scan_option_error (e := .valueValidation) hflag hname (Argument.of_heapText h) ?_ hrest
  rw [hset, heapValue_text, if_neg (by simp [hzero])]
  rfl

end WorkerArguments

/-! ### Command lines as they are written -/

lemma HeapSize.pos_of_ne_zero {size : Option HeapSize} (h : ¬ ∃ h ∈ size, h.bytes = 0) :
    ∀ h ∈ size, 0 < h.bytes := by
  intro size' hsize'
  exact UInt64.pos_iff_ne_zero.2 fun hzero => h ⟨size', hsize', hzero⟩

namespace WorkerCommand

open WorkerArguments

/-- Whether a joined classpath looks like an option: it begins with a dash and is more than
that. -/
def LooksLikeOption (classpath : List Path) : Prop :=
  ∃ entry rest, classpath = entry :: rest ∧ entry.text.toList.head? = some '-' ∧
    (entry.text ≠ "-" ∨ rest ≠ [])

/-- Whether there is something on the command line that the worker does not accept. -/
def Garbled (c : WorkerCommand) : Prop :=
  LooksLikeOption c.classpath ∨ (∃ h ∈ c.heapInitial, h.bytes = 0) ∨ ∃ h ∈ c.heapMax, h.bytes = 0

/-- What the worker is to take from the command line. -/
def meant (c : WorkerCommand) : WorkerArguments :=
  ⟨c.payload, c.result, if c.classpath = [] then none else joinClasspath? c.classpath,
    c.heapInitial, c.heapMax, c.extraFlags⟩

variable {c : WorkerCommand} {args : List String}

@[simp] lemma payload_meant (c : WorkerCommand) : c.meant.payload = c.payload := rfl

@[simp] lemma result_meant (c : WorkerCommand) : c.meant.result = c.result := rfl

/-- The joined classpath is dashed exactly if it looks like an option. -/
lemma looksLikeOption_iff {classpath : List Path} {joined : String}
    (hjoin : joinClasspath? classpath = some joined) (hne : classpath ≠ []) :
    LooksLikeOption classpath ↔ ∃ ch cs, joined.toList = '-' :: ch :: cs := by
  obtain ⟨-, hjoined⟩ := joinClasspath?_eq_some hjoin
  obtain ⟨entry, rest, rfl⟩ := List.exists_cons_of_ne_nil hne
  have htext : entry.text = "-" ↔ entry.text.toList = ['-'] := by
    rw [← String.toList_inj]
    rfl
  have hlooks : LooksLikeOption (entry :: rest) ↔
      entry.text.toList.head? = some '-' ∧ (entry.text.toList ≠ ['-'] ∨ rest ≠ []) := by
    constructor
    · rintro ⟨entry', rest', h, hhead, hmore⟩
      obtain ⟨rfl, rfl⟩ := List.cons.inj h
      exact ⟨hhead, hmore.imp_left fun hne => fun h => hne (htext.2 h)⟩
    · rintro ⟨hhead, hmore⟩
      exact ⟨entry, rest, rfl, hhead, hmore.imp_left fun hne => fun h => hne (htext.1 h)⟩
  rw [hlooks, hjoined, List.map_cons]
  generalize entry.text.toList = es
  -- what is joined to the first entry comes behind the separator
  cases rest with
  | nil => rcases es with - | ⟨c, - | ⟨c', cs⟩⟩ <;> simp
  | cons next rest => rcases es with - | ⟨c, - | ⟨c', cs⟩⟩ <;> simp [classpathSeparator]

/-- The arguments behind the heap sizes. -/
def handedThrough (flags : List String) : List String :=
  if flags.isEmpty then [] else "--" :: flags

/-- The arguments of the heap sizes and all behind them. -/
def tail (c : WorkerCommand) : List String :=
  sizeOption "--heap-initial" c.heapInitial ++
    (sizeOption "--heap-max" c.heapMax ++ handedThrough c.extraFlags)

/-- The arguments are those of the files, then those of the classpath if there is one, and then
the others. -/
lemma arguments_cases (h : c.arguments = .ok args) :
    c.classpath = [] ∧
        args = "--payload" :: c.payload.text :: "--result" :: c.result.text :: c.tail ∨
      c.classpath ≠ [] ∧ ∃ joined, joinClasspath? c.classpath = some joined ∧
        args = "--payload" :: c.payload.text :: "--result" :: c.result.text ::
          "--classpath" :: joined :: c.tail := by
  unfold arguments at h
  dsimp only at h
  split at h
  · next hempty =>
    cases h
    exact .inl ⟨List.isEmpty_iff.1 hempty, by simp [tail, handedThrough]⟩
  · next hempty =>
    split at h
    · next joined hjoin =>
      cases h
      exact .inr ⟨fun hnil => hempty (by simp [hnil]), joined, hjoin,
        by simp [tail, handedThrough]⟩
    · cases h

lemma beginAnew_handedThrough (flags : List String) : BeginAnew (handedThrough flags) := by
  have hdivider : Argument.of "--" = .divider := rfl
  unfold handedThrough
  split
  · exact beginAnew_nil
  · refine beginAnew_cons fun text => ?_
    rw [hdivider]
    nofun

lemma scan_handedThrough (d : Draft) (flags : List String) :
    scan d none (handedThrough flags) = d.finish flags := by
  cases flags <;> rfl

/-- The flags of the options. -/
lemma of_flags :
    Argument.of "--payload" = .long "payload".toList none ∧
      Argument.of "--result" = .long "result".toList none ∧
      Argument.of "--classpath" = .long "classpath".toList none ∧
      Argument.of "--heap-initial" = .long "heap-initial".toList none ∧
      Argument.of "--heap-max" = .long "heap-max".toList none :=
  ⟨rfl, rfl, rfl, rfl, rfl⟩

lemma beginAnew_heapMax (c : WorkerCommand) :
    BeginAnew (sizeOption "--heap-max" c.heapMax ++ handedThrough c.extraFlags) := by
  obtain ⟨-, -, -, -, hmax⟩ := of_flags
  exact (beginAnew_sizeOption hmax _).append (beginAnew_handedThrough _)

lemma beginAnew_tail (c : WorkerCommand) : BeginAnew c.tail := by
  obtain ⟨-, -, -, hinitial, -⟩ := of_flags
  exact (beginAnew_sizeOption hinitial _).append c.beginAnew_heapMax

section Tail

variable (payload result : Option Path) (classpath : Option String)

lemma scan_heapInitial (hinitial : ∀ h ∈ c.heapInitial, 0 < h.bytes) :
    scan ⟨payload, result, classpath, none, none⟩ none c.tail =
      scan ⟨payload, result, classpath, c.heapInitial, none⟩ none
        (sizeOption "--heap-max" c.heapMax ++ handedThrough c.extraFlags) := by
  obtain ⟨-, -, -, hflag, -⟩ := of_flags
  rw [tail, scan_sizeOption hflag rfl (fun v => rfl) c.beginAnew_heapMax hinitial]
  cases c.heapInitial <;> rfl

/-- Behind the classpath everything is taken as it is meant, unless a heap size is nothing. -/
lemma scan_tail (hinitial : ∀ h ∈ c.heapInitial, 0 < h.bytes)
    (hmax : ∀ h ∈ c.heapMax, 0 < h.bytes) :
    scan ⟨payload, result, classpath, none, none⟩ none c.tail =
      Draft.finish ⟨payload, result, classpath, c.heapInitial, c.heapMax⟩ c.extraFlags := by
  obtain ⟨-, -, -, -, hflag⟩ := of_flags
  rw [scan_heapInitial _ _ _ hinitial,
    scan_sizeOption hflag rfl (fun v => rfl) (beginAnew_handedThrough _) hmax,
    scan_handedThrough]
  cases c.heapMax <;> rfl

lemma scan_tail_error
    (hzero : (∃ h ∈ c.heapInitial, h.bytes = 0) ∨ ∃ h ∈ c.heapMax, h.bytes = 0) :
    ∃ e, scan ⟨payload, result, classpath, none, none⟩ none c.tail = .error e := by
  obtain ⟨-, -, -, hflag, hflag'⟩ := of_flags
  by_cases hinitial : ∃ h ∈ c.heapInitial, h.bytes = 0
  · exact scan_sizeOption_error hflag rfl (fun v => rfl) c.beginAnew_heapMax hinitial
  · have hmax := hzero.resolve_left hinitial
    rw [scan_heapInitial _ _ _ (HeapSize.pos_of_ne_zero hinitial)]
    exact scan_sizeOption_error hflag' rfl (fun v => rfl) (beginAnew_handedThrough _) hmax

end Tail

/-- The files are settled first. -/
lemma parse_files (hpayload : c.payload.isAbsolute = true) (hresult : c.result.isAbsolute = true)
    (program : String) {rest : List String} (hrest : BeginAnew rest) :
    parse (program :: "--payload" :: c.payload.text :: "--result" :: c.result.text :: rest) =
      scan ⟨some c.payload, some c.result, none, none, none⟩ none rest := by
  have hvalue : ∀ p : Path, p.isAbsolute = true →
      Argument.of p.text = .plain p.text ∧ pathValue p.text = .ok p := by
    intro p hp
    have hhead : p.text.toList.head? = some '/' := by
      simpa [Path.isAbsolute, Path.startsAtRoot] using hp
    constructor
    · rcases Argument.of_cases p.text with ⟨⟨ch, cs, hdash⟩, -⟩ | ⟨-, hplain⟩
      · rw [hdash] at hhead
        cases hhead
      · exact hplain
    · have hne : p.text ≠ "" := by
        intro hempty
        rw [hempty] at hhead
        cases hhead
      simp [pathValue, hne]
  obtain ⟨hflag, hflag', -⟩ := of_flags
  obtain ⟨hplain, hpath⟩ := hvalue _ hpayload
  obtain ⟨hplain', hpath'⟩ := hvalue _ hresult
  have hset : Draft.settle {} .payload (some c.payload.text) =
      .ok ⟨some c.payload, none, none, none, none⟩ := by
    simp only [Draft.settle, Draft.has, hpath]
    rfl
  have hset' : Draft.settle ⟨some c.payload, none, none, none, none⟩ .result
      (some c.result.text) = .ok ⟨some c.payload, some c.result, none, none, none⟩ := by
    simp only [Draft.settle, Draft.has, hpath']
    rfl
  rw [parse, List.tail_cons, scan_option hflag rfl hplain hset (beginAnew_flag _ hflag'),
    scan_option hflag' rfl hplain' hset' hrest]

/-- The worker takes what is meant from the command line, unless something is not accepted. -/
lemma parse_of_not_garbled (hpayload : c.payload.isAbsolute = true)
    (hresult : c.result.isAbsolute = true) (h : c.arguments = .ok args) (hclear : ¬ c.Garbled)
    (program : String) : parse (program :: args) = .ok c.meant := by
  have hinitial := HeapSize.pos_of_ne_zero fun hzero => hclear (.inr (.inl hzero))
  have hmax := HeapSize.pos_of_ne_zero fun hzero => hclear (.inr (.inr hzero))
  obtain ⟨-, -, hflag, -⟩ := of_flags
  rcases arguments_cases h with ⟨hnil, rfl⟩ | ⟨hne, joined, hjoin, rfl⟩
  · rw [parse_files hpayload hresult program (beginAnew_tail c), scan_tail _ _ _ hinitial hmax,
      meant, if_pos hnil]
    rfl
  · have hplain : Argument.of joined = .plain joined := by
      rcases Argument.of_cases joined with ⟨hdash, -⟩ | ⟨-, hplain⟩
      · exact absurd (.inl ((looksLikeOption_iff hjoin hne).2 hdash)) hclear
      · exact hplain
    rw [parse_files hpayload hresult program (beginAnew_flag _ hflag),
      scan_option hflag rfl hplain rfl (beginAnew_tail c), scan_tail _ _ _ hinitial hmax,
      meant, if_neg hne, hjoin]
    rfl

lemma parse_of_garbled (hpayload : c.payload.isAbsolute = true)
    (hresult : c.result.isAbsolute = true) (h : c.arguments = .ok args) (hgarbled : c.Garbled)
    (program : String) : ∃ e, parse (program :: args) = .error e := by
  obtain ⟨-, -, hflag, -⟩ := of_flags
  rcases arguments_cases h with ⟨hnil, rfl⟩ | ⟨hne, joined, hjoin, rfl⟩
  · rw [parse_files hpayload hresult program (beginAnew_tail c)]
    rcases hgarbled with ⟨entry, rest, hcons, -⟩ | hzero
    · rw [hnil] at hcons
      cases hcons
    · exact scan_tail_error _ _ _ hzero
  · rw [parse_files hpayload hresult program (beginAnew_flag _ hflag)]
    rcases Argument.of_cases joined with ⟨-, hdash⟩ | ⟨hvalue, hplain⟩
    · exact scan_flag_error hflag rfl (beginAnew_cons hdash)
    · rw [scan_option hflag rfl hplain rfl (beginAnew_tail c)]
      rcases hgarbled with hlooks | hzero
      · obtain ⟨ch, cs, hdash⟩ := (looksLikeOption_iff hjoin hne).1 hlooks
        exact absurd hdash (hvalue ch cs)
      · exact scan_tail_error _ _ _ hzero

/-- A worker that takes what is meant sees the settings, if its payload holds the classpath. -/
lemma context_meant (h : c.arguments = .ok args) {order : WorkPayload}
    (horder : order.classpath = c.classpath) :
    Worker.context c.meant order = ⟨c.classpath, c.heapInitial, c.heapMax, c.extraFlags⟩ := by
  by_cases hnil : c.classpath = []
  · simp [Worker.context, meant, horder, hnil]
  · rcases arguments_cases h with ⟨hnil', -⟩ | ⟨-, joined, hjoin, -⟩
    · exact absurd hnil' hnil
    · simp [Worker.context, meant, hnil, hjoin, splitClasspath_of_join hjoin hnil]

end WorkerCommand

/-! ### Launches -/

namespace LaunchConfiguration

variable {W : Type}

/-- What is handed to the worker of a launch on its command line. -/
def command (c : LaunchConfiguration W) (payload result : Path) : WorkerCommand :=
  ⟨payload, result, c.resolvedClasspath, c.heapInitial, c.heapMax, c.extraFlags⟩

@[simp] lemma payload_command (c : LaunchConfiguration W) (payload result : Path) :
    (c.command payload result).payload = payload := rfl

@[simp] lemma result_command (c : LaunchConfiguration W) (payload result : Path) :
    (c.command payload result).result = result := rfl

/-- Whether a worker with a command line finds its files and sees the settings of a launch, with a
payload that holds the classpath of the launch. -/
def Arrives (c : LaunchConfiguration W) (payload result : Path) (commandLine : List String) :
    Prop :=
  ∃ args, WorkerArguments.parse commandLine = .ok args ∧ args.payload = payload ∧
    args.result = result ∧ ∀ kind params,
      Worker.context args ⟨WorkPayload.currentVersion, kind, params, c.resolvedClasspath⟩ =
        ⟨c.resolvedClasspath, c.heapInitial, c.heapMax, c.extraFlags⟩

/-- The settings of a launch arrive exactly if the joined classpath does not look like an option
and no heap size is nothing.  The flags may look like anything. -/
theorem arrives_iff (c : LaunchConfiguration W) {payload result : Path}
    (hpayload : payload.isAbsolute = true) (hresult : result.isAbsolute = true)
    {args : List String} (h : (c.command payload result).arguments = .ok args)
    (program : String) :
    c.Arrives payload result (program :: args) ↔
      ¬ WorkerCommand.LooksLikeOption c.resolvedClasspath ∧
        (∀ size ∈ c.heapInitial, 0 < size.bytes) ∧ ∀ size ∈ c.heapMax, 0 < size.bytes := by
  have hgarbled : ¬ (c.command payload result).Garbled ↔
      ¬ WorkerCommand.LooksLikeOption c.resolvedClasspath ∧
        (∀ size ∈ c.heapInitial, 0 < size.bytes) ∧ ∀ size ∈ c.heapMax, 0 < size.bytes := by
    simp [WorkerCommand.Garbled, command, UInt64.pos_iff_ne_zero]
  have hpayload' : (c.command payload result).payload.isAbsolute = true := by
    rwa [payload_command]
  have hresult' : (c.command payload result).result.isAbsolute = true := by
    rwa [result_command]
  rw [← hgarbled]
  constructor
  · rintro ⟨wargs, hparse, -⟩ hg
    obtain ⟨e, he⟩ := WorkerCommand.parse_of_garbled hpayload' hresult' h hg program
    cases hparse.symm.trans he
  · intro hclear
    exact ⟨_, WorkerCommand.parse_of_not_garbled hpayload' hresult' h hclear program, rfl, rfl,
      fun kind params => WorkerCommand.context_meant h rfl⟩

/-- Flags that look like options, and a lone dash as the classpath. -/
theorem arrives_dashedFlags :
    let d : LaunchDraft Unit :=
      (((LaunchDraft.withWork {} ()).addEntries [⟨"-"⟩]).withFlag "--heap-max").withFlag "-h"
    let payload : Path := ⟨"/x/work.json"⟩
    let result : Path := ⟨"/x/result.json"⟩
    ∃ c, d.build = .ok c ∧ ∃ args, (c.command payload result).arguments = .ok args ∧
      c.Arrives payload result ("worker" :: args) := by
  refine ⟨_, rfl, _, rfl, (arrives_iff _ (by decide) (by decide) rfl _).2 ⟨?_, ?_, ?_⟩⟩
  · rintro ⟨entry, rest, h, -, hmore⟩
    obtain ⟨rfl, rfl⟩ := List.cons.inj h
    simp at hmore
  · nofun
  · nofun

/-- A classpath of one directory whose name begins with a dash does not arrive. -/
theorem not_arrives_dashedEntry :
    let d : LaunchDraft Unit := (LaunchDraft.withWork {} ()).addEntries [⟨"-lib"⟩]
    let payload : Path := ⟨"/x/work.json"⟩
    let result : Path := ⟨"/x/result.json"⟩
    ∃ c, d.build = .ok c ∧ ∃ args, (c.command payload result).arguments = .ok args ∧
      ¬ c.Arrives payload result ("worker" :: args) := by
  refine ⟨_, rfl, _, rfl, ?_⟩
  rintro ⟨args, hparse, -⟩
  cases hparse

end LaunchConfiguration

end JobSupervision
