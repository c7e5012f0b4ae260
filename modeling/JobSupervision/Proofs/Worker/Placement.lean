/-
# Records and their places

A record is written to the file beside its place, and this file is then moved.  Both paths part only
at their last names, so that they lead to two locations, whatever the path of the record looks like
(`ResultRecord.locate_of_locate_staging`); and since nothing that is a directory is touched, they
lead there all the time.  A record is therefore either not at its place or there as a whole
(`ResultRecord.read_of_passes`), and where it is there it is all that has changed
(`ResultRecord.replaces_of_writeAtomic`).  What can go wrong is that the file beside the place is
written and cannot be moved: this happens exactly at a directory and at the empty path, and then the
file is left behind (`ResultRecord.leavesNothingBehind_iff`).
-/
import JobSupervision.Worker.Record
import JobSupervision.Proofs.FileSystem

namespace JobSupervision

namespace FileSystem

/-- Whether nothing stands where a path leads. -/
def Absent (fs : FileSystem) (p : Path) : Prop := ∀ n, fs.lookup p ≠ .ok n

lemma Absent.node?_eq_none {fs : FileSystem} {p : Path} {l : Location} (h : fs.Absent p)
    (hlocate : fs.locate p = .ok l) : fs.node? l = none := by
  cases hnode : fs.node? l with
  | none => rfl
  | some n => exact absurd ((lookup_eq_ok_iff hlocate).2 hnode) (h n)

lemma absent_of_lookup_eq_error {fs : FileSystem} {p : Path} {fault : FileFault}
    (h : fs.lookup p = .error fault) : fs.Absent p := by
  intro n hn
  rw [h] at hn
  cases hn

lemma absent_of_node?_eq_none {fs : FileSystem} {p : Path} {l : Location}
    (hlocate : fs.locate p = .ok l) (hnode : fs.node? l = none) : fs.Absent p := by
  have hlookup : fs.lookup p = .error .missing := by rw [lookup_of_locate hlocate, hnode]
  exact absent_of_lookup_eq_error hlookup

end FileSystem

namespace ResultRecord

open FileSystem (Absent)

variable {r : ResultRecord} {fs fs' : FileSystem} {path : Path} {l m : Location}

/-! ### Two places -/

/-- In a directory where the file beside the place of a record can stand there is also the place,
elsewhere. -/
lemma follow_of_follow_staging {d : Location} {last : List Char}
    (h : fs.follow d [last ++ ".tmp".toList] = .ok l) :
    l ≠ [] ∧ ∃ m, fs.follow d [last] = .ok m ∧ m ≠ l := by
  have hother {text : List Char} (htext : text.length < 4) : last ++ ".tmp".toList ≠ text := by
    rintro rfl
    rw [List.length_append] at htext
    exact absurd htext (by simp)
  rw [FileSystem.follow] at h ⊢
  split at h
  · cases h
  · cases h
  next hdirectory =>
  rw [if_neg (not_or.2 ⟨hother (by decide), hother (by decide)⟩), if_neg (hother (by decide))] at h
  split_ifs at h with hlong
  obtain rfl : d ++ [last ++ ".tmp".toList] = l := by simpa [FileSystem.follow] using h
  -- the shorter name may lead to the directory itself or the one above, which are both elsewhere
  refine ⟨by simp, ?_⟩
  split_ifs with hhere hparent hlong'
  · exact ⟨d, rfl, by simp⟩
  · refine ⟨d.dropLast, rfl, fun heq => ?_⟩
    have hlength := congrArg List.length heq
    simp only [List.length_dropLast, List.length_append, List.length_singleton] at hlength
    omega
  · rw [Text.Utf8.encode_append, List.length_append] at hlong
    omega
  · exact ⟨d ++ [last], rfl, by simp⟩

/-- Where the file beside the place of a record can stand there is also the place, elsewhere; the
empty path has none. -/
theorem locate_of_locate_staging (h : fs.locate (staging path) = .ok l) :
    l ≠ [] ∧ (path.text = "" ∨ ∃ m, fs.locate path = .ok m ∧ m ≠ l) := by
  have hchars : (staging path).text.toList = path.text.toList ++ ".tmp".toList := by
    simp [staging, Path.append]
  have hname : '/' ∉ ".tmp".toList := by decide
  obtain ⟨front, last, hplace, hbeside⟩ := Path.exists_splitAt_append hname path.text.toList
  obtain ⟨hnull, -, hfits, hfollow⟩ := FileSystem.locate_eq_ok_iff.1 h
  rw [hchars, hbeside, FileSystem.follow_append] at hfollow
  -- the two paths go the same way up to their last names
  obtain ⟨d, hd, hlast⟩ : ∃ d, fs.follow (if (staging path).isAbsolute then [] else fs.workDir)
      front = .ok d ∧ fs.follow d [last ++ ".tmp".toList] = .ok l := by
    cases hfront : fs.follow (if (staging path).isAbsolute then [] else fs.workDir) front with
    | error fault =>
      rw [hfront] at hfollow
      cases hfollow
    | ok d =>
      rw [hfront] at hfollow
      exact ⟨d, rfl, hfollow⟩
  obtain ⟨hproper, m, hm, hml⟩ := follow_of_follow_staging hlast
  refine ⟨hproper, ?_⟩
  by_cases hempty : path.text = ""
  · exact .inl hempty
  · have habsolute : (staging path).isAbsolute = path.isAbsolute := by
      rw [Path.isAbsolute, Path.isAbsolute, Path.startsAtRoot, Path.startsAtRoot, hchars,
        List.head?_append_of_ne_nil _ (by simpa using hempty)]
    rw [hchars, List.mem_append, not_or] at hnull
    refine .inr ⟨m, FileSystem.locate_eq_ok_iff.2 ⟨hnull.1, hempty, hfits.of_append, ?_⟩, hml⟩
    rw [hplace, FileSystem.follow_append, ← habsolute, hd]
    exact hm

/-! ### The two steps -/

section Staged

variable {content : List UInt8} {runnable : Bool} (hfree : fs.node? l ≠ some .directory)

include hfree

lemma locate_staged {p : Path} {k : Location} (h : fs.locate p = .ok k) :
    (fs.put l (.file content runnable)).locate p = .ok k :=
  FileSystem.locate_of_keeps_here (FileSystem.keeps_put fun hnode => absurd hnode hfree) rfl h

lemma lookup_staged (hlocate : fs.locate (staging path) = .ok l) :
    (fs.put l (.file content runnable)).lookup path = fs.lookup path := by
  rcases (locate_of_locate_staging hlocate).2 with hempty | ⟨m, hm, hml⟩
  · obtain rfl : path = ⟨""⟩ := by rw [← hempty]
    rfl
  · rw [FileSystem.lookup_of_locate (locate_staged hfree hm), FileSystem.lookup_of_locate hm,
      FileSystem.node?_put_of_ne hml]

end Staged

/-- Whether there is no place that a file could be moved into. -/
def Barred (fs : FileSystem) (path : Path) : Prop := path.text = "" ∨ fs.isDirectory path = true

/-- What is there after the file beside the place of a record is moved into the place. -/
def moved (r : ResultRecord) (fs : FileSystem) (l m : Location) (runnable : Bool) : FileSystem :=
  ((fs.put l (.file r.bytes runnable)).remove l).put m (.file r.bytes runnable)

/-- What writing a record comes to: the file beside its place cannot be written, or cannot be moved,
or is moved. -/
inductive Writes (r : ResultRecord) (fs : FileSystem) (path : Path) :
    Except RecordFault Unit × FileSystem → Prop
  | unwritten (h : ∀ l, fs.locate (staging path) = .ok l → fs.node? l = some .directory) :
      Writes r fs path (.error (.writing (staging path)), fs)
  | unmoved {l : Location} {runnable : Bool} (hlocate : fs.locate (staging path) = .ok l)
      (hfree : fs.node? l ≠ some .directory) (hbarred : Barred fs path) :
      Writes r fs path (.error (.renaming path), fs.put l (.file r.bytes runnable))
  | placed {l m : Location} {runnable : Bool} (hlocate : fs.locate (staging path) = .ok l)
      (hfree : fs.node? l ≠ some .directory) (hm : fs.locate path = .ok m) (hml : m ≠ l)
      (hplace : fs.node? m ≠ some .directory) :
      Writes r fs path (.ok (), r.moved fs l m runnable)

lemma writes_writeAtomic (r : ResultRecord) (fs : FileSystem) (path : Path) :
    r.Writes fs path (r.writeAtomic fs path) := by
  by_cases hstages : ∃ l, fs.locate (staging path) = .ok l ∧ fs.node? l ≠ some .directory
  · obtain ⟨l, hlocate, hfree⟩ := hstages
    obtain ⟨runnable, hwrite⟩ := FileSystem.exists_write_eq_put hlocate hfree
    obtain ⟨hl, hplace⟩ := locate_of_locate_staging hlocate
    rw [writeAtomic, hwrite]
    dsimp only
    have hsource : (fs.put l (.file r.bytes runnable)).locate (staging path) = .ok l :=
      locate_staged hfree hlocate
    rcases hplace with hempty | ⟨m, hm, hml⟩
    · -- nothing can be moved to the empty path
      obtain rfl : path = ⟨""⟩ := by rw [← hempty]
      rw [FileSystem.rename, hsource]
      exact .unmoved hlocate hfree (.inl rfl)
    · rw [FileSystem.rename_of_locate hsource (locate_staged hfree hm)
        (FileSystem.node?_put _ _ _ hl), FileSystem.node?_put_of_ne hml]
      split_ifs with hdirectory
      · exact .unmoved hlocate hfree (.inr ((FileSystem.isDirectory_iff hm).2 hdirectory))
      · exact .placed hlocate hfree hm hml hdirectory
  · have hnone : ∀ l, fs.locate (staging path) = .ok l → fs.node? l = some .directory := by
      intro l hl
      by_contra hfree
      exact hstages ⟨l, hl, hfree⟩
    cases hwrite : fs.write (staging path) r.bytes with
    | error fault =>
      rw [writeAtomic_of_write_error hwrite]
      exact .unwritten hnone
    | ok staged =>
      obtain ⟨l, _, hlocate, hfree, -⟩ := FileSystem.exists_put_of_write hwrite
      exact absurd (hnone l hlocate) hfree

section Moved

variable {runnable : Bool} (hfree : fs.node? l ≠ some .directory) (hm : fs.locate path = .ok m)
  (hml : m ≠ l) (hplace : fs.node? m ≠ some .directory)

lemma node?_moved_of_ne {k : Location} (hl : k ≠ l) (hm : k ≠ m) :
    (r.moved fs l m runnable).node? k = fs.node? k := by
  rw [moved, FileSystem.node?_put_of_ne hm, FileSystem.node?_remove_of_ne hl,
    FileSystem.node?_put_of_ne hl]

lemma node?_moved_staging (hl : l ≠ []) (hml : m ≠ l) :
    (r.moved fs l m runnable).node? l = none := by
  rw [moved, FileSystem.node?_put_of_ne hml.symm, FileSystem.node?_remove_self hl]

include hfree hml hplace

lemma keeps_moved : fs.Keeps (r.moved fs l m runnable) := by
  intro k hk
  have hkl : k ≠ l := by
    rintro rfl
    exact hfree hk
  have hkm : k ≠ m := by
    rintro rfl
    exact hplace hk
  rwa [node?_moved_of_ne hkl hkm]

include hm

lemma read_moved : (r.moved fs l m runnable).read path = .ok r.bytes := by
  have hroot : m ≠ [] := by
    rintro rfl
    exact hplace rfl
  have hnode : (r.moved fs l m runnable).node? m = some (.file r.bytes runnable) :=
    FileSystem.node?_put _ _ _ hroot
  have hlookup : (r.moved fs l m runnable).lookup path = .ok (.file r.bytes runnable) :=
    (FileSystem.lookup_eq_ok_iff
      (FileSystem.locate_of_keeps_here (keeps_moved hfree hml hplace) rfl hm)).2 hnode
  rw [FileSystem.read, hlookup]
  rfl

end Moved

lemma Writes.lookup_of_error {fault : RecordFault} (h : r.Writes fs path (.error fault, fs')) :
    fs'.lookup path = fs.lookup path := by
  cases h with
  | unwritten _ => rfl
  | unmoved hlocate hfree _ => exact lookup_staged hfree hlocate

lemma Writes.read_of_ok (h : r.Writes fs path (.ok (), fs')) : fs'.read path = .ok r.bytes := by
  cases h with
  | placed _ hfree hm hml hplace => exact read_moved hfree hm hml hplace

/-! ### On the way -/

/-- The states that the files go through while a record is written: a file is written byte by byte,
and moved at once. -/
inductive Passes (r : ResultRecord) (fs : FileSystem) (path : Path) : FileSystem → Prop
  /-- Nothing is written yet. -/
  | before : Passes r fs path fs
  /-- Some bytes are written. -/
  | during {state : FileSystem} (n : Nat)
      (h : fs.write (staging path) (r.bytes.take n) = .ok state) : Passes r fs path state
  /-- All is done. -/
  | after : Passes r fs path (r.writeAtomic fs path).2

/-- At every moment there is at the place of a record what was there before or the whole record. -/
theorem read_of_passes {state : FileSystem} (h : r.Passes fs path state) :
    state.lookup path = fs.lookup path ∨ state.read path = .ok r.bytes := by
  cases h with
  | before => exact .inl rfl
  | during n h =>
    obtain ⟨l, runnable, hlocate, hfree, rfl⟩ := FileSystem.exists_put_of_write h
    exact .inl (lookup_staged hfree hlocate)
  | after =>
    have hwrites := r.writes_writeAtomic fs path
    cases hresult : r.writeAtomic fs path with
    | mk answer after =>
      rw [hresult] at hwrites
      cases answer with
      | error fault => exact .inl hwrites.lookup_of_error
      | ok _ => exact .inr hwrites.read_of_ok

/-- What is there after a record was written: the record at its place, and nothing else new. -/
structure Replaces (r : ResultRecord) (fs : FileSystem) (path : Path) (after : FileSystem) :
    Prop where
  /-- The record is at its place. -/
  placed : after.read path = .ok r.bytes
  /-- No file is beside it. -/
  cleared : after.Absent (staging path)
  /-- Everything else is as it was. -/
  others : ∃ m, fs.locate path = .ok m ∧ ∀ k, k ≠ m → after.node? k = fs.node? k
  /-- The working directory is the same. -/
  here : after.workDir = fs.workDir

/-- Where nothing was beside the place of a record, a written record is all that has changed. -/
theorem replaces_of_writeAtomic (habsent : fs.Absent (staging path))
    (h : r.writeAtomic fs path = (.ok (), fs')) : r.Replaces fs path fs' := by
  have hwrites := r.writes_writeAtomic fs path
  rw [h] at hwrites
  cases hwrites with
  | @placed l m runnable hlocate hfree hm hml hplace =>
    have hl : l ≠ [] := (locate_of_locate_staging hlocate).1
    have hkeeps : fs.Keeps (r.moved fs l m runnable) := keeps_moved hfree hml hplace
    have hgone : (r.moved fs l m runnable).node? l = none := node?_moved_staging hl hml
    refine ⟨read_moved hfree hm hml hplace, ?_, ⟨m, hm, fun k hkm => ?_⟩, rfl⟩
    · exact FileSystem.absent_of_node?_eq_none
        (FileSystem.locate_of_keeps_here hkeeps rfl hlocate) hgone
    · by_cases hkl : k = l
      · rw [hkl, hgone, habsent.node?_eq_none hlocate]
      · exact node?_moved_of_ne hkl hkm

/-! ### What is left behind -/

/-- Whether a record that cannot be written leaves nothing behind, and one that is written replaces
what is at its place, which is never seen half written. -/
structure LeavesNothingBehind (r : ResultRecord) (fs : FileSystem) (path : Path) : Prop where
  /-- If the record is not written, everything is as it was. -/
  unwritten : ∀ {fault after}, r.writeAtomic fs path = (.error fault, after) → after = fs
  /-- If it is written, nothing else is new. -/
  written : ∀ {after}, r.writeAtomic fs path = (.ok (), after) → r.Replaces fs path after
  /-- Its place holds what was there before or all of the record, at every moment. -/
  whole : ∀ {state}, r.Passes fs path state →
    state.lookup path = fs.lookup path ∨ state.read path = .ok r.bytes

/-- Whether the file beside the place of a record can be written, but not moved. -/
def Strands (fs : FileSystem) (path : Path) : Prop :=
  Barred fs path ∧ ∃ l, fs.locate (staging path) = .ok l

/-- A file that cannot be moved stays beside the place of the record. -/
lemma writeAtomic_of_strands (habsent : fs.Absent (staging path)) (h : Strands fs path) :
    ∃ l runnable, fs.node? l = none ∧ l ≠ [] ∧
      r.writeAtomic fs path = (.error (.renaming path), fs.put l (.file r.bytes runnable)) := by
  obtain ⟨hbarred, l, hlocate⟩ := h
  have hwrites := r.writes_writeAtomic fs path
  have hnode : fs.node? l = none := habsent.node?_eq_none hlocate
  generalize r.writeAtomic fs path = result at hwrites ⊢
  cases hwrites with
  | unwritten hnone =>
    rw [hnone l hlocate] at hnode
    cases hnode
  | unmoved hlocate' hfree _ =>
    obtain rfl := Except.ok.inj (hlocate.symm.trans hlocate')
    exact ⟨l, _, hnode, (locate_of_locate_staging hlocate).1, rfl⟩
  | placed _ _ hm _ hplace =>
    rcases hbarred with hempty | hdirectory
    · exact absurd hempty (FileSystem.locate_eq_ok_iff.1 hm).2.1
    · exact absurd ((FileSystem.isDirectory_iff hm).1 hdirectory) hplace

lemma not_leavesNothingBehind_of_strands (habsent : fs.Absent (staging path))
    (h : Strands fs path) : ¬ r.LeavesNothingBehind fs path := by
  intro hleaves
  -- if everything were as before, the file that stays would have been there before
  obtain ⟨l, runnable, hnode, hl, hwrite⟩ := writeAtomic_of_strands (r := r) habsent h
  have hsame : fs.put l (.file r.bytes runnable) = fs := hleaves.unwritten hwrite
  have hleft := FileSystem.node?_put fs l (.file r.bytes runnable) hl
  rw [hsame, hnode] at hleft
  cases hleft

/-- Nothing is left behind, unless a file is written beside the place of the record and cannot be
moved, because the path is empty or leads to a directory. -/
theorem leavesNothingBehind_iff (habsent : fs.Absent (staging path)) :
    r.LeavesNothingBehind fs path ↔ ¬ Strands fs path := by
  constructor
  · exact fun hleaves hstrands => not_leavesNothingBehind_of_strands habsent hstrands hleaves
  · intro hmoves
    refine ⟨fun {fault after} hwrite => ?_, replaces_of_writeAtomic habsent, read_of_passes⟩
    have hwrites := r.writes_writeAtomic fs path
    rw [hwrite] at hwrites
    cases hwrites with
    | unwritten _ => rfl
    | unmoved hlocate _ hbarred => exact absurd ⟨hbarred, _, hlocate⟩ hmoves

/-- A record replaces an older file in a directory. -/
theorem leavesNothingBehind_olderFile :
    let fs : FileSystem :=
      ⟨[], [(["io".toList], .directory), (["io".toList, "r".toList], .file [1, 2, 3] false)]⟩
    fs.Absent (staging ⟨"io/r"⟩) ∧ (success (.obj [])).LeavesNothingBehind fs ⟨"io/r"⟩ := by
  intro fs
  have hlookup : fs.lookup (staging ⟨"io/r"⟩) = .error .missing := by decide
  have habsent : fs.Absent (staging ⟨"io/r"⟩) := FileSystem.absent_of_lookup_eq_error hlookup
  refine ⟨habsent, (leavesNothingBehind_iff habsent).2 ?_⟩
  rintro ⟨hempty | hdirectory, -⟩
  · exact absurd hempty (by decide)
  · exact absurd hdirectory (by decide)

/-- Where a directory is at the place of a record, the file beside it stays. -/
theorem not_leavesNothingBehind_directory :
    let fs : FileSystem := ⟨[], [(["d".toList], .directory)]⟩
    fs.Absent (staging ⟨"d"⟩) ∧ ¬ (success (.obj [])).LeavesNothingBehind fs ⟨"d"⟩ := by
  intro fs
  have hlookup : fs.lookup (staging ⟨"d"⟩) = .error .missing := by decide
  have habsent : fs.Absent (staging ⟨"d"⟩) := FileSystem.absent_of_lookup_eq_error hlookup
  refine ⟨habsent, not_leavesNothingBehind_of_strands habsent ⟨.inr (by decide), ?_⟩⟩
  exact ⟨["d.tmp".toList], by decide⟩

end ResultRecord

end JobSupervision
