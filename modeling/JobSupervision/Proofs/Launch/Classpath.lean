/-
# Classpaths of launches

A launch is described setting by setting, and its classpath goes through two rounds of
deduplication: each list on its own when the launch is built, and both together when it is handed
to the worker.  What comes out is one round over the entries as they were given
(`LaunchSetting.resolvesClasspath`), because an entry that is left out is the same as one in front
of it, and whatever is the same as the one is the same as the other (`Path.dedup_append_dedup`).
A classpath is handed over as one text and comes back from it unless it is empty, since no entry
holds the separator (`splitClasspath_of_join`).
-/
import Mathlib.Data.List.Induction
import JobSupervision.Launch.Setting

namespace JobSupervision

/-! ### First occurrences -/

namespace Path

/-- The entries that are not the same as any entry in front of them. -/
def firsts (given : List Path) : List Path :=
  (given.zipIdx.filter fun e => !(given.take e.2).any e.1.same).map (·.1)

/-- Whether the entries that are kept of a list are the first of those that are the same, as they
were written and in their order, and nothing is left out that is not the same as one of them. -/
structure KeepsFirsts (given kept : List Path) : Prop where
  /-- They are the entries that are not the same as any entry in front of them. -/
  eq_firsts : kept = firsts given
  /-- No two of them are the same. -/
  distinct : kept.Pairwise fun p q => p.same q = false
  /-- For each given entry there is the first one that is the same. -/
  covers : ∀ p ∈ given, ∃ q ∈ kept, given.find? p.same = some q
  /-- They stand in the order of the given entries. -/
  sublist : kept.Sublist given

variable {p q : Path} {given : List Path}

lemma same_iff : p.same q = true ↔ p.components = q.components := by
  rw [same, decide_eq_true_eq]

/-- What is the same as the one of two equal paths is the same as the other. -/
lemma same_congr (h : p.same q = true) : p.same = q.same := by
  funext r
  rw [same, same, same_iff.1 h]

lemma firsts_concat (given : List Path) (p : Path) :
    firsts (given ++ [p]) = if given.any p.same then firsts given else firsts given ++ [p] := by
  have hfront : (given.zipIdx.filter fun e => !((given ++ [p]).take e.2).any e.1.same) =
      given.zipIdx.filter fun e => !(given.take e.2).any e.1.same := by
    refine List.filter_congr fun e he => ?_
    obtain ⟨-, hlt, -⟩ := List.mem_zipIdx (x := e.1) (i := e.2) he
    rw [List.take_append_of_le_length (by omega)]
  rw [firsts, List.zipIdx_append, List.filter_append, hfront, List.zipIdx_singleton]
  by_cases h : given.any p.same <;> simp [h, firsts]

lemma dedup_concat (given : List Path) (p : Path) :
    dedup (given ++ [p]) =
      if (dedup given).any p.same then dedup given else dedup given ++ [p] := by
  simp only [dedup, List.foldl_append, List.foldl_cons, List.foldl_nil, List.any_reverse]
  split <;> simp

lemma any_dedup (given : List Path) (p : Path) :
    (dedup given).any p.same = given.any p.same := by
  induction given using List.reverseRecOn with
  | nil => rfl
  | append_singleton given r ih =>
    rw [dedup_concat, List.any_append, List.any_cons, List.any_nil, Bool.or_false, ← ih]
    split
    · next hr =>
      obtain ⟨q, hq, hrq⟩ := List.any_eq_true.1 hr
      by_cases hpr : p.same r = true
      · rw [hpr, Bool.or_true]
        exact List.any_eq_true.2 ⟨q, hq, by rw [same_congr hpr]; exact hrq⟩
      · rw [Bool.eq_false_iff.2 hpr, Bool.or_false]
    · rw [List.any_append, List.any_cons, List.any_nil, Bool.or_false]

lemma dedup_eq_firsts (given : List Path) : dedup given = firsts given := by
  induction given using List.reverseRecOn with
  | nil => rfl
  | append_singleton given p ih => rw [dedup_concat, firsts_concat, any_dedup, ih]

lemma distinct_dedup (given : List Path) :
    (dedup given).Pairwise fun p q => p.same q = false := by
  induction given using List.reverseRecOn with
  | nil => exact .nil
  | append_singleton given p ih =>
    rw [dedup_concat]
    split
    · exact ih
    · next hp =>
      refine List.pairwise_append.2 ⟨ih, List.pairwise_singleton _ _, fun q hq r hr => ?_⟩
      obtain rfl := List.mem_singleton.1 hr
      refine Bool.eq_false_iff.2 fun hsame => hp ?_
      exact List.any_eq_true.2 ⟨q, hq, same_symm hsame⟩

lemma sublist_dedup (given : List Path) : (dedup given).Sublist given := by
  induction given using List.reverseRecOn with
  | nil => exact List.Sublist.slnil
  | append_singleton given p ih =>
    rw [dedup_concat]
    split
    · exact ih.trans (List.sublist_append_left _ _)
    · exact ih.append (List.Sublist.refl _)

lemma mem_dedup_of_find? (h : given.find? p.same = some q) : q ∈ dedup given := by
  induction given using List.reverseRecOn with
  | nil => cases h
  | append_singleton given r ih =>
    rw [dedup_concat]
    rw [List.find?_append, Option.or_eq_some_iff] at h
    rcases h with h | ⟨hnone, hlast⟩
    · split
      · exact ih h
      · exact List.mem_append_left _ (ih h)
    · have hr : r = q := List.mem_singleton.1 (List.mem_of_find?_eq_some hlast) |>.symm
      have hpr : p.same r = true := by
        rw [hr]
        exact List.find?_some hlast
      rw [any_dedup, ← same_congr hpr, List.any_eq_false.2 fun x hx =>
        List.find?_eq_none.1 hnone x hx, hr]
      simp

lemma keepsFirsts_dedup (given : List Path) : KeepsFirsts given (dedup given) where
  eq_firsts := dedup_eq_firsts given
  distinct := distinct_dedup given
  covers p hp := by
    cases hfind : given.find? p.same with
    | none => exact absurd (same_refl p) (List.find?_eq_none.1 hfind p hp)
    | some q => exact ⟨q, mem_dedup_of_find? hfind, rfl⟩
  sublist := sublist_dedup given

/-- Behind some entries only those stay that are not the same as one of them. -/
lemma dedup_append (front back : List Path) :
    dedup (front ++ back) = dedup front ++ (dedup back).filter fun p => !front.any p.same := by
  induction back using List.reverseRecOn with
  | nil => simp [dedup]
  | append_singleton back p ih =>
    rw [← List.append_assoc, dedup_concat, any_dedup, List.any_append, dedup_concat, any_dedup, ih]
    by_cases hfront : front.any p.same <;> by_cases hback : back.any p.same <;>
      simp [hfront, hback]

lemma dedup_of_distinct (h : given.Pairwise fun p q => p.same q = false) :
    dedup given = given := by
  induction given using List.reverseRecOn with
  | nil => rfl
  | append_singleton given p ih =>
    obtain ⟨hgiven, -, hlast⟩ := List.pairwise_append.1 h
    have hnone : given.any p.same = false := by
      refine List.any_eq_false.2 fun q hq hsame => ?_
      have hdiffer := hlast q hq p (List.mem_singleton_self p)
      rw [same_symm hsame] at hdiffer
      cases hdiffer
    rw [dedup_concat, any_dedup, hnone, ih hgiven]
    rfl

/-- Deduplicating two lists on their own changes nothing for both together. -/
theorem dedup_append_dedup (front back : List Path) :
    dedup (dedup front ++ dedup back) = dedup (front ++ back) := by
  have honce : ∀ given, dedup (dedup given) = dedup given :=
    fun given => dedup_of_distinct (distinct_dedup given)
  rw [dedup_append, dedup_append, honce, honce]
  refine congrArg _ (List.filter_congr fun p _ => ?_)
  rw [any_dedup]

end Path

/-! ### Joined texts -/

lemma joinClasspath?_eq_some {classpath : List Path} {joined : String}
    (h : joinClasspath? classpath = some joined) :
    (∀ p ∈ classpath, classpathSeparator ∉ p.text.toList) ∧
      joined.toList = [classpathSeparator].intercalate (classpath.map (·.text.toList)) := by
  unfold joinClasspath? at h
  split at h
  · cases h
  · next hnone =>
    cases h
    constructor
    · intro p hp hsep
      exact hnone (List.any_eq_true.2 ⟨p, hp, by simpa using hsep⟩)
    · simp [String.toList_intercalate, classpathSeparator, Function.comp_def]

/-- A classpath that is not empty comes back from its joined text. -/
theorem splitClasspath_of_join {classpath : List Path} {joined : String}
    (h : joinClasspath? classpath = some joined) (hne : classpath ≠ []) :
    splitClasspath joined = classpath := by
  obtain ⟨hsep, hjoined⟩ := joinClasspath?_eq_some h
  have hparts : Path.splitAt classpathSeparator joined.toList =
      classpath.map (·.text.toList) := by
    rw [hjoined, Path.splitAt_eq_splitOn]
    refine List.splitOn_intercalate _ ?_ (by simpa using hne)
    simpa using hsep
  rw [splitClasspath, hparts]
  simp [Function.comp_def]

/-! ### Descriptions -/

/-- The scopes of a chain, nearest first. -/
def ClasspathChain.scopes (c : ClasspathChain) : List (List Path) := c.entries :: c.outer

namespace LaunchSetting

/-- The entries of the user that a setting adds. -/
def added : LaunchSetting → List Path
  | .entries paths => paths
  | .chain c => c.scopes.flatten
  | _ => []

/-- The entries of the launching process, if a setting gives them. -/
def replacement? : LaunchSetting → Option (List Path)
  | .parent paths => some paths
  | _ => none

/-- Whether a setting puts the entries of the user in front. -/
def isolates : LaunchSetting → Bool
  | .isolate => true
  | _ => false

/-- Whether a setting is about the memory of the worker. -/
def setsMemory : LaunchSetting → Bool
  | .heapInitial _ | .heapMax _ | .heapInitialSize _ | .heapMaxSize _ => true
  | _ => false

/-- All entries of the user, in the order they were added. -/
def userEntries (settings : List LaunchSetting) : List Path := settings.flatMap added

/-- The entries of the launching process that were given last, over those of a draft. -/
def parentEntries (before : List Path) (settings : List LaunchSetting) : List Path :=
  (settings.filterMap replacement?).getLast?.getD before

/-- All entries that some settings give, repeated ones included: those of the user behind those of
the launching process, or in front of them if a setting says so. -/
def given (settings : List LaunchSetting) : List Path :=
  if settings.any isolates then userEntries settings ++ parentEntries [] settings
  else parentEntries [] settings ++ userEntries settings

variable {W : Type} {d d' : LaunchDraft W} {setting : LaunchSetting}
  {settings : List LaunchSetting}

/-- What one setting does to the classpath of a draft. -/
lemma apply_eq_ok (h : apply d setting = .ok d') :
    d'.userClasspath = d.userClasspath ++ setting.added ∧
      d'.parentClasspath = setting.replacement?.getD d.parentClasspath ∧
      d'.inherits = (d.inherits && !setting.isolates) := by
  have hsized : ∀ {text : String} {set : HeapSize → LaunchDraft W},
      apply.sized text set = .ok d' → ∃ size, set size = d' := by
    intro text set h
    unfold apply.sized at h
    split at h
    · next size _ => exact ⟨size, Except.ok.inj h⟩
    · cases h
  cases setting with
  | heapInitial text | heapMax text =>
    obtain ⟨size, rfl⟩ := hsized h
    simp [LaunchDraft.withHeapInitial, LaunchDraft.withHeapMax, added, replacement?, isolates]
  | heapInitialSize | heapMaxSize | entries | chain | parent | isolate | flag | workDir =>
    obtain rfl := Except.ok.inj h
    simp [LaunchDraft.withHeapInitial, LaunchDraft.withHeapMax, LaunchDraft.addChain,
      LaunchDraft.addEntries, LaunchDraft.withParentClasspath, LaunchDraft.isolated,
      LaunchDraft.withFlag, LaunchDraft.withWorkDir, ClasspathChain.walk, ClasspathChain.scopes,
      added, replacement?, isolates]

lemma parentEntries_cons (before : List Path) (setting : LaunchSetting)
    (settings : List LaunchSetting) :
    parentEntries before (setting :: settings) =
      parentEntries (setting.replacement?.getD before) settings := by
  cases h : setting.replacement? with
  | none => simp [parentEntries, h]
  | some paths => simp [parentEntries, h, List.getLast?_cons]

/-- What some settings do to the classpath of a draft. -/
lemma applyAll_eq_ok (h : applyAll d settings = .ok d') :
    d'.userClasspath = d.userClasspath ++ userEntries settings ∧
      d'.parentClasspath = parentEntries d.parentClasspath settings ∧
      d'.inherits = (d.inherits && !settings.any isolates) := by
  induction settings generalizing d with
  | nil =>
    obtain rfl := Except.ok.inj h
    simp [userEntries, parentEntries]
  | cons setting settings ih =>
    cases hfirst : apply d setting with
    | error text =>
      rw [applyAll, List.foldlM_cons, hfirst] at h
      cases h
    | ok next =>
      rw [applyAll, List.foldlM_cons, hfirst] at h
      obtain ⟨huser, hparent, hinherits⟩ := apply_eq_ok hfirst
      obtain ⟨huser', hparent', hinherits'⟩ := ih h
      refine ⟨?_, ?_, ?_⟩
      · rw [huser', huser, userEntries, userEntries, List.flatMap_cons, List.append_assoc]
      · rw [hparent', hparent, parentEntries_cons]
      · rw [hinherits', hinherits, List.any_cons, Bool.not_or, Bool.and_assoc]

lemma exists_applyAll (h : ∀ setting ∈ settings, setting.setsMemory = false) :
    ∃ d', applyAll d settings = .ok d' ∧ d'.work = d.work ∧ d'.heapInitial = d.heapInitial := by
  induction settings generalizing d with
  | nil => exact ⟨d, rfl, rfl, rfl⟩
  | cons setting settings ih =>
    have hfirst : ∃ next, apply d setting = .ok next ∧ next.work = d.work ∧
        next.heapInitial = d.heapInitial := by
      have hsetting := h setting List.mem_cons_self
      cases setting with
      | heapInitial | heapMax | heapInitialSize | heapMaxSize => cases hsetting
      | entries | chain | parent | isolate | flag | workDir => exact ⟨_, rfl, rfl, rfl⟩
    obtain ⟨next, hnext, hwork, hheap⟩ := hfirst
    obtain ⟨d', hd', hwork', hheap'⟩ := ih (d := next) fun s hs => h s (List.mem_cons_of_mem _ hs)
    refine ⟨d', ?_, hwork'.trans hwork, hheap'.trans hheap⟩
    rw [applyAll, List.foldlM_cons, hnext]
    exact hd'

/-- The configuration that a draft is built into has the lists of the draft, each deduplicated. -/
lemma classpath_of_build {c : LaunchConfiguration W} (h : d.build = .ok c) :
    c.userClasspath = Path.dedup d.userClasspath ∧
      c.parentClasspath = Path.dedup d.parentClasspath ∧ c.inherits = d.inherits := by
  unfold LaunchDraft.build at h
  split at h
  · cases h
  split at h
  · split at h
    · cases h
    · obtain rfl := Except.ok.inj h
      exact ⟨rfl, rfl, rfl⟩
  · obtain rfl := Except.ok.inj h
    exact ⟨rfl, rfl, rfl⟩

/-- The classpath of a launch is what is given by its settings, in whatever order they come, with
the first of several entries that are the same.  Settings that are not about memory always give a
launch. -/
theorem resolvesClasspath (work : W) (settings : List LaunchSetting) :
    ((∀ setting ∈ settings, setting.setsMemory = false) →
        ∃ d c, applyAll (LaunchDraft.withWork {} work) settings = .ok d ∧ d.build = .ok c) ∧
      ∀ d c, applyAll (LaunchDraft.withWork {} work) settings = .ok d → d.build = .ok c →
        Path.KeepsFirsts (given settings) c.resolvedClasspath := by
  constructor
  · intro hmemory
    obtain ⟨d, hd, hwork, hheap⟩ := exists_applyAll (d := LaunchDraft.withWork {} work) hmemory
    refine ⟨d, LaunchDraft.build.finish d work, hd, ?_⟩
    rw [LaunchDraft.build, hwork, hheap]
    rfl
  · intro d c hd hc
    obtain ⟨huser, hparent, hinherits⟩ := applyAll_eq_ok hd
    obtain ⟨huser', hparent', hinherits'⟩ := classpath_of_build hc
    have hresolved : c.resolvedClasspath = Path.dedup (given settings) := by
      rw [LaunchConfiguration.resolvedClasspath, hinherits', hinherits, huser', hparent', huser,
        hparent, given]
      cases settings.any isolates <;> exact Path.dedup_append_dedup _ _
    rw [hresolved]
    exact Path.keepsFirsts_dedup _

/-- Entries that are written in several ways, a chain of two scopes between them, and entries of
the launching process that are given twice. -/
def respelledSettings : List LaunchSetting :=
  [.entries [⟨"/a//b"⟩, ⟨"./x"⟩], .parent [⟨"/old"⟩],
    .chain (.ofScopes [[⟨"x"⟩, ⟨"/a/b/."⟩], [⟨"/c/"⟩, ⟨"/c"⟩]]), .isolate,
    .parent [⟨"/c/./"⟩, ⟨"/d"⟩, ⟨"//d"⟩]]

theorem resolvesClasspath_respelled :
    ∃ d c, applyAll (LaunchDraft.withWork {} ()) respelledSettings = .ok d ∧ d.build = .ok c ∧
      c.resolvedClasspath = [⟨"/a//b"⟩, ⟨"./x"⟩, ⟨"x"⟩, ⟨"/c/"⟩, ⟨"/d"⟩] ∧
      Path.KeepsFirsts (given respelledSettings) c.resolvedClasspath := by
  obtain ⟨d, c, hd, hc⟩ := (resolvesClasspath () respelledSettings).1 (by decide)
  refine ⟨d, c, hd, hc, ?_, (resolvesClasspath () respelledSettings).2 d c hd hc⟩
  obtain rfl := Except.ok.inj hd
  obtain rfl := Except.ok.inj hc
  decide

end LaunchSetting

end JobSupervision
