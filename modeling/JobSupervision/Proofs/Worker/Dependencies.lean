/-
# Dependencies of an artifact

A request for a file is met by an absolute path that leads to a file, which stays as it is, or by
the first entry of the classpath that provides the file: a directory with a file of that name in
it, or a file that ends in the name (`BuildManifest.Meets`).  A build looks for the files in the
order of the requests and fails at the first one without a file.

A directory and an absolute path are looked at before they are taken; an entry that is no directory
is taken by its name alone.  So a request may be misled to an entry where no file is
(`BuildManifest.Misled`), and what is said here of a request that was not misled says nothing of
one that was.
-/
import JobSupervision.Worker.Manifest
import Mathlib.Data.List.Forall2

namespace JobSupervision

namespace FileSystem

lemma isDirectory_of_isFile {fs : FileSystem} {p : Path} (h : fs.isFile p = true) :
    fs.isDirectory p = false := by
  unfold isFile at h
  unfold isDirectory
  cases hlookup : fs.lookup p with
  | error => rfl
  | ok node =>
    cases node with
    | directory => simp [hlookup] at h
    | file => rfl

end FileSystem

namespace BuildManifest

variable {ctx : WorkerContext} {fs : FileSystem} {entry d p : Path}

/-! ### Entries of a classpath -/

/-- The file that an entry of a classpath provides under a name. -/
inductive Provides (fs : FileSystem) (entry name : Path) : Path → Prop
  /-- A directory with a file of that name in it. -/
  | inside (hdirectory : fs.isDirectory entry = true) (hfile : fs.isFile (entry.join name) = true) :
    Provides fs entry name (entry.join name)
  /-- A file that ends in the name. -/
  | itself (hfile : fs.isFile entry = true) (hname : entry.fileName? = some name.text) :
    Provides fs entry name entry

/-- An entry that ends in a name, without being a directory or a file. -/
structure Names (fs : FileSystem) (entry name : Path) : Prop where
  /-- There is no directory. -/
  noDirectory : fs.isDirectory entry = false
  /-- There is no file. -/
  noFile : fs.isFile entry = false
  /-- The name is that of the entry. -/
  name : entry.fileName? = some name.text

/-- What is taken for an entry under a name. -/
def taken? (fs : FileSystem) (name entry : Path) : Option Path :=
  if fs.isDirectory entry then
    if fs.isFile (entry.join name) then some (entry.join name) else none
  else if entry.fileName? = some name.text then some entry
  else none

lemma isFile_of_provides (h : Provides fs entry d p) : fs.isFile p = true := by
  cases h with
  | inside _ hfile => exact hfile
  | itself hfile => exact hfile

lemma taken?_of_provides (h : Provides fs entry d p) : taken? fs d entry = some p := by
  cases h with
  | inside hdirectory hfile => rw [taken?, if_pos hdirectory, if_pos hfile]
  | itself hfile hname =>
    rw [taken?, FileSystem.isDirectory_of_isFile hfile, if_neg Bool.false_ne_true, if_pos hname]

/-- What is taken is provided, unless the entry is there by its name only. -/
lemma provides_or_names_of_taken? (h : taken? fs d entry = some p) :
    Provides fs entry d p ∨ Names fs entry d := by
  rw [taken?] at h
  split at h
  · next hdirectory =>
    obtain ⟨hfile, hp⟩ := Option.ite_none_right_eq_some.1 h
    obtain rfl := Option.some.inj hp
    exact .inl (.inside hdirectory hfile)
  · next hdirectory =>
    obtain ⟨hname, hentry⟩ := Option.ite_none_right_eq_some.1 h
    obtain rfl := Option.some.inj hentry
    cases hfile : fs.isFile entry with
    | true => exact .inl (.itself hfile hname)
    | false => exact .inr ⟨Bool.eq_false_iff.2 hdirectory, hfile, hname⟩

/-! ### Requests -/

/-- The file that meets a request. -/
inductive Meets (ctx : WorkerContext) (fs : FileSystem) (d : Path) : Path → Prop
  /-- An absolute path meets itself, if it leads to a file. -/
  | absolute (habsolute : d.isAbsolute = true) (hfile : fs.isFile d = true) : Meets ctx fs d d
  /-- Any other path is met by the first entry of the classpath that provides a file. -/
  | relative {p : Path} (habsolute : d.isAbsolute = false) (before after : List Path) (entry : Path)
    (hclasspath : ctx.classpath = before ++ entry :: after)
    (hbefore : ∀ e ∈ before, ∀ q, ¬ Provides fs e d q) (hentry : Provides fs entry d p) :
    Meets ctx fs d p

/-- A request for which an entry that is neither a directory nor a file ends in the name, and no
entry before that one provides a file. -/
structure Misled (ctx : WorkerContext) (fs : FileSystem) (d : Path) : Prop where
  /-- The request is looked for on the classpath. -/
  relative : d.isAbsolute = false
  /-- The entry stands there. -/
  entry : ∃ before entry after, ctx.classpath = before ++ entry :: after ∧
    (∀ e ∈ before, ∀ q, ¬ Provides fs e d q) ∧ Names fs entry d

lemma isFile_of_meets (h : Meets ctx fs d p) : fs.isFile p = true := by
  cases h with
  | absolute _ hfile => exact hfile
  | relative _ _ _ _ _ _ hentry => exact isFile_of_provides hentry

lemma resolve?_of_relative (h : d.isAbsolute = false) :
    resolve? ctx fs d = ctx.classpath.findSome? (taken? fs d) := by
  rw [resolve?, h, if_neg Bool.false_ne_true]
  rfl

/-- The file that is found for a request meets it, unless the request was misled. -/
lemma meets_or_misled_of_resolve? (h : resolve? ctx fs d = some p) :
    Meets ctx fs d p ∨ Misled ctx fs d := by
  cases habsolute : d.isAbsolute with
  | true =>
    rw [resolve?, if_pos habsolute] at h
    obtain ⟨hfile, hp⟩ := Option.ite_none_right_eq_some.1 h
    obtain rfl := Option.some.inj hp
    exact .inl (.absolute habsolute hfile)
  | false =>
    rw [resolve?_of_relative habsolute, List.findSome?_eq_some_iff] at h
    obtain ⟨before, entry, after, hclasspath, htaken, hnone⟩ := h
    have hbefore : ∀ e ∈ before, ∀ q, ¬ Provides fs e d q := fun e he q hq =>
      Option.some_ne_none q ((taken?_of_provides hq).symm.trans (hnone e he))
    rcases provides_or_names_of_taken? htaken with hentry | hentry
    · exact .inl (.relative habsolute before after entry hclasspath hbefore hentry)
    · exact .inr ⟨habsolute, before, entry, after, hclasspath, hbefore, hentry⟩

lemma resolve?_of_meets (h : Meets ctx fs d p) (hmisled : ¬ Misled ctx fs d) :
    resolve? ctx fs d = some p := by
  cases h with
  | absolute habsolute hfile => rw [resolve?, if_pos habsolute, if_pos hfile]
  | relative habsolute before after entry hclasspath hbefore hentry =>
    have hnone : ∀ e ∈ before, taken? fs d e = none := by
      intro e he
      by_contra hsome
      obtain ⟨q, hq⟩ := Option.ne_none_iff_exists'.1 hsome
      rcases provides_or_names_of_taken? hq with hprovides | hnames
      · exact hbefore e he q hprovides
      · -- an entry that misleads stands before the one that provides the file
        obtain ⟨first, rest, rfl⟩ := List.append_of_mem he
        refine hmisled ⟨habsolute, first, e, rest ++ entry :: after, ?_, ?_, hnames⟩
        · rw [hclasspath, List.append_assoc, List.cons_append]
        · exact fun e' he' => hbefore e' (List.mem_append_left _ he')
    rw [resolve?_of_relative habsolute, List.findSome?_eq_some_iff]
    exact ⟨before, entry, after, hclasspath, taken?_of_provides hentry, hnone⟩

/-! ### All requests -/

lemma forall₂_of_resolveAll {requests : List Path} (h : (resolveAll ctx fs requests).2 = none) :
    List.Forall₂ (fun d p => resolve? ctx fs d = some p) requests
      (resolveAll ctx fs requests).1 := by
  induction requests with
  | nil => exact .nil
  | cons d rest ih =>
    cases hp : resolve? ctx fs d with
    | none => simp [resolveAll, hp] at h
    | some p =>
      simp only [resolveAll, hp] at h ⊢
      exact .cons hp (ih h)

/-- The first request without a file is the one that is missing. -/
lemma resolveAll_of_missing {before after : List Path}
    (hbefore : ∀ e ∈ before, ∃ p, resolve? ctx fs e = some p) (hd : resolve? ctx fs d = none) :
    (resolveAll ctx fs (before ++ d :: after)).2 = some d := by
  induction before with
  | nil => rw [List.nil_append, resolveAll, hd]
  | cons e rest ih =>
    obtain ⟨p, hp⟩ := hbefore e List.mem_cons_self
    rw [List.cons_append, resolveAll, hp]
    exact ih fun e he => hbefore e (List.mem_cons_of_mem _ he)

/-! ### The artifact -/

/-- The cause of a build that fails because of a request. -/
def missing (d : Path) : FailureCause :=
  ⟨"MissingDependency", "dependency " ++ d.text ++ " not found", []⟩

/-- The cause of a build that fails because of its flow. -/
def invalidFlow (m : BuildManifest) : FailureCause :=
  ⟨"InvalidFlow", "flow of job " ++ m.jobId.text ++ " is not a JSON object", []⟩

lemma build_of_flow {m : BuildManifest} (h : isObject m.flow = false) :
    (m.build ctx fs).2 = .error m.invalidFlow := by
  simp [build, h, invalidFlow]

lemma build_of_missing {m : BuildManifest} (h : isObject m.flow = true)
    (hmissing : (resolveAll ctx fs m.dependencies).2 = some d) :
    (m.build ctx fs).2 = .error (missing d) := by
  simp [build, h, hmissing, missing]

lemma build_of_found {m : BuildManifest} (h : isObject m.flow = true)
    (hfound : (resolveAll ctx fs m.dependencies).2 = none) :
    (m.build ctx fs).2 =
      .ok ⟨m.jobId, flowDigest m.flow, (resolveAll ctx fs m.dependencies).1, m.flow⟩ := by
  simp [build, h, hfound]

/-- An artifact that is built has the files, the flow and its digest. -/
lemma build_eq_ok {m : BuildManifest} {artifact : JobArtifact}
    (h : (m.build ctx fs).2 = .ok artifact) :
    (resolveAll ctx fs m.dependencies).2 = none ∧
      artifact = ⟨m.jobId, flowDigest m.flow, (resolveAll ctx fs m.dependencies).1, m.flow⟩ := by
  cases hflow : isObject m.flow with
  | false => cases (build_of_flow hflow).symm.trans h
  | true =>
    cases hfound : (resolveAll ctx fs m.dependencies).2 with
    | some d => cases (build_of_missing hflow hfound).symm.trans h
    | none => exact ⟨rfl, (Except.ok.inj ((build_of_found hflow hfound).symm.trans h)).symm⟩

/-- Whether the artifact of a manifest names, request by request, the file that meets it, and a
manifest with a request that no file meets fails for the first such request. -/
structure ResolvesAll (m : BuildManifest) (ctx : WorkerContext) (fs : FileSystem) : Prop where
  /-- An artifact that is built names existing files, one for each request and in their order. -/
  files (artifact : JobArtifact) (hartifact : (m.build ctx fs).2 = .ok artifact) :
    List.Forall₂ (Meets ctx fs) m.dependencies artifact.dependencies
  /-- The first request without a file is the cause of the failure. -/
  fails (before after : List Path) (d : Path) (hrequests : m.dependencies = before ++ d :: after)
    (hbefore : ∀ e ∈ before, ∃ p, Meets ctx fs e p) (hd : ∀ p, ¬ Meets ctx fs d p) :
    (m.build ctx fs).2 = .error (missing d)

/-- How the requests of a manifest are met, where they are not misled. -/
structure ResolvesRequests (m : BuildManifest) (ctx : WorkerContext) (fs : FileSystem) : Prop where
  /-- A flow that is no object is refused, whatever is requested. -/
  refused (hflow : isObject m.flow = false) : (m.build ctx fs).2 = .error m.invalidFlow
  /-- An artifact that is built names one path for each request, in their order: an existing file
  that meets the request, unless the request was misled. -/
  files (artifact : JobArtifact) (hartifact : (m.build ctx fs).2 = .ok artifact) :
    List.Forall₂ (fun d p => ¬ Misled ctx fs d → Meets ctx fs d p ∧ fs.isFile p = true)
      m.dependencies artifact.dependencies
  /-- The first request without a file is the cause of the failure, if neither it nor one before
  it is misled. -/
  fails (hflow : isObject m.flow = true) (before after : List Path) (d : Path)
    (hrequests : m.dependencies = before ++ d :: after)
    (hmisled : ∀ e ∈ before ++ [d], ¬ Misled ctx fs e)
    (hbefore : ∀ e ∈ before, ∃ p, Meets ctx fs e p) (hd : ∀ p, ¬ Meets ctx fs d p) :
    (m.build ctx fs).2 = .error (missing d)

/-- The requests of a manifest are met. -/
theorem resolvesRequests (m : BuildManifest) (ctx : WorkerContext) (fs : FileSystem) :
    m.ResolvesRequests ctx fs := by
  constructor
  case refused => exact build_of_flow
  case files =>
    intro artifact hartifact
    cases hflow : isObject m.flow with
    | false => cases (build_of_flow hflow).symm.trans hartifact
    | true =>
      cases hfound : (resolveAll ctx fs m.dependencies).2 with
      | some d => cases (build_of_missing hflow hfound).symm.trans hartifact
      | none =>
        obtain rfl := Except.ok.inj ((build_of_found hflow hfound).symm.trans hartifact)
        refine (forall₂_of_resolveAll hfound).imp fun d p hp hmisled => ?_
        have hmeets := (meets_or_misled_of_resolve? hp).resolve_right hmisled
        exact ⟨hmeets, isFile_of_meets hmeets⟩
  case fails =>
    intro hflow before after d hrequests hmisled hbefore hd
    have hfound : ∀ e ∈ before, ∃ p, resolve? ctx fs e = some p := by
      intro e he
      obtain ⟨p, hp⟩ := hbefore e he
      exact ⟨p, resolve?_of_meets hp (hmisled e (List.mem_append_left _ he))⟩
    have hnone : resolve? ctx fs d = none := by
      by_contra hsome
      obtain ⟨p, hp⟩ := Option.ne_none_iff_exists'.1 hsome
      rcases meets_or_misled_of_resolve? hp with hmeets | hmisled'
      · exact hd p hmeets
      · exact hmisled d List.mem_concat_self hmisled'
    refine build_of_missing hflow ?_
    rw [hrequests]
    exact resolveAll_of_missing hfound hnone

/-- Two manifests whose requests are not met as one may expect.  A flow that is no object is
refused before the missing file is noticed.  And where the only entry of the classpath ends in the
name of the file, it is taken though nothing stands there. -/
theorem not_resolvesAll_listFlow_absentEntry :
    ¬ ResolvesAll ⟨⟨"job"⟩, .arr [], [⟨"udf.jar"⟩]⟩ ⟨[], none, none, []⟩ ⟨[], []⟩ ∧
      ¬ ResolvesAll ⟨⟨"job"⟩, .obj [], [⟨"udf.jar"⟩]⟩ ⟨[⟨"lib/udf.jar"⟩], none, none, []⟩
        ⟨[], []⟩ := by
  constructor
  · intro h
    have hunmet : ∀ p, ¬ Meets ⟨[], none, none, []⟩ ⟨[], []⟩ ⟨"udf.jar"⟩ p := by
      rintro _ (⟨habsolute, -⟩ | ⟨-, before, after, entry, hclasspath, -, -⟩)
      · exact absurd habsolute (by decide)
      · exact List.append_ne_nil_of_right_ne_nil before (List.cons_ne_nil entry after)
          hclasspath.symm
    have hfails := h.fails [] [] ⟨"udf.jar"⟩ rfl (by rintro _ ⟨⟩) hunmet
    rw [build_of_flow rfl] at hfails
    exact absurd (congrArg FailureCause.kind (Except.error.inj hfails)) (by decide)
  · intro h
    have hfiles := h.files _ (build_of_found rfl (by decide))
    have hfound : (resolveAll ⟨[⟨"lib/udf.jar"⟩], none, none, []⟩ ⟨[], []⟩ [⟨"udf.jar"⟩]).1 =
        [⟨"lib/udf.jar"⟩] := by decide
    simp only [hfound] at hfiles
    obtain ⟨hmeets, -⟩ := List.forall₂_cons.1 hfiles
    exact absurd (isFile_of_meets hmeets) (by decide)

end BuildManifest

end JobSupervision
