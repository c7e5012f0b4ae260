/-
# Files in a directory

A path leads to the same place as long as no directory goes away (`FileSystem.locate_of_keeps`), and
a path into a directory leads below that directory (`FileSystem.locate_join`).  So a file that is
written into a directory is found there again, and can be moved within it (`FileSystem.move_into`).
-/
import Mathlib.Data.List.Basic
import Mathlib.Tactic.Common
import JobSupervision.FileSystem

namespace JobSupervision

namespace Path

lemma splitAt_append_cons (separator : Char) (front rest : List Char) :
    splitAt separator (front ++ separator :: rest) =
      splitAt separator front ++ splitAt separator rest := by
  induction front with
  | nil =>
    rw [List.nil_append, splitAt, splitAt]
    cases h : splitAt separator rest with
    | nil => rw [splitAt_eq_splitOn] at h; exact absurd h (List.splitOn_ne_nil _ _)
    | cons part parts => simp
  | cons c front ih =>
    rw [List.cons_append, splitAt, splitAt, ih]
    cases h : splitAt separator front with
    | nil => rw [splitAt_eq_splitOn] at h; exact absurd h (List.splitOn_ne_nil _ _)
    | cons part parts =>
      by_cases hc : c = separator <;> simp [hc]

lemma splitAt_of_notMem {separator : Char} {text : List Char} (h : separator ∉ text) :
    splitAt separator text = [text] := by
  induction text with
  | nil => rfl
  | cons c text ih =>
    rw [List.mem_cons, not_or] at h
    obtain ⟨hc, htext⟩ := h
    rw [splitAt, ih htext]
    simp [Ne.symm hc]

/-- A text behind a path belongs to the last part of the path. -/
lemma exists_splitAt_append {separator : Char} {suffix : List Char} (h : separator ∉ suffix)
    (text : List Char) :
    ∃ front last, splitAt separator text = front ++ [last] ∧
      splitAt separator (text ++ suffix) = front ++ [last ++ suffix] := by
  induction text with
  | nil => exact ⟨[], [], rfl, splitAt_of_notMem h⟩
  | cons c text ih =>
    obtain ⟨front, last, htext, hmore⟩ := ih
    by_cases hc : c = separator
    · refine ⟨[] :: front, last, ?_, ?_⟩
      · rw [splitAt, htext]
        cases front <;> simp [hc]
      · rw [List.cons_append, splitAt, hmore]
        cases front <;> simp [hc]
    · cases front with
      | nil => exact ⟨[], c :: last, by simp [splitAt, htext, hc], by simp [splitAt, hmore, hc]⟩
      | cons part front =>
        exact ⟨(c :: part) :: front, last, by simp [splitAt, htext, hc],
          by simp [splitAt, hmore, hc]⟩

/-- Whether a text is a name in a directory. -/
structure IsName (text : String) : Prop where
  /-- It is the name of something, and not of the directory itself or the one above. -/
  proper : text.toList ≠ [] ∧ text.toList ≠ ['.'] ∧ text.toList ≠ ['.', '.']
  /-- It is one part of a path. -/
  whole : '/' ∉ text.toList ∧ '\x00' ∉ text.toList
  /-- It is not too long. -/
  short : (Text.Utf8.encode text.toList).length ≤ FileSystem.maxNameBytes

/-- Whether a path can be followed by a separator and a name. -/
def Continues (p : Path) : Prop := p.text ≠ "" ∧ endsInSeparator p.text.toList = false

section Names

variable {base : Path} {name : String} (hname : '/' ∉ name.toList)

include hname

lemma isAbsolute_of_notMem : isAbsolute ⟨name⟩ = false := by
  rw [isAbsolute, startsAtRoot, decide_eq_false_iff_not]
  exact fun h => hname (List.mem_of_mem_head? h)

lemma text_join (hbase : base.Continues) :
    (base.join ⟨name⟩).text = base.text ++ "/" ++ name := by
  have hempty : base.text.isEmpty = false := by simpa using hbase.1
  simp [join, isAbsolute_of_notMem hname, hempty, hbase.2]

lemma continues_join (hne : name ≠ "") : (base.join ⟨name⟩).Continues := by
  have hback (front : String) : Continues ⟨front ++ name⟩ := by
    have hchars : name.toList ≠ [] := by simpa using hne
    constructor
    · intro hempty
      exact hne (String.append_eq_empty_iff.1 hempty).2
    · rw [endsInSeparator, decide_eq_false_iff_not, String.toList_append,
        List.getLast?_append_of_ne_nil _ hchars]
      exact fun hlast => hname (List.mem_of_getLast? hlast)
  rw [join, isAbsolute_of_notMem hname, if_neg Bool.false_ne_true]
  split
  · exact hback base.text
  · exact hback (base.text ++ "/")

end Names

lemma isAbsolute_join {base : Path} (h : base.isAbsolute = true) (p : Path) :
    (base.join p).isAbsolute = true := by
  have hfront (rest : String) : isAbsolute ⟨base.text ++ rest⟩ = true := by
    rw [isAbsolute, startsAtRoot, decide_eq_true_eq] at h ⊢
    rw [String.toList_append, List.head?_append, h]
    rfl
  rw [join]
  split_ifs with habsolute
  · exact habsolute
  · exact hfront p.text
  · have := hfront ("/" ++ p.text)
    rwa [← String.append_assoc] at this

lemma join_of_isAbsolute {base p : Path} (h : p.isAbsolute = true) : base.join p = p := by
  rw [join, if_pos h]

/-- The number of bytes of a path. -/
def bytes (p : Path) : Nat := (Text.Utf8.encode p.text.toList).length

lemma bytes_append (p : Path) (suffix : String) :
    (p.append suffix).bytes = p.bytes + (Text.Utf8.encode suffix.toList).length := by
  rw [bytes, append, String.toList_append, Text.Utf8.encode_append, List.length_append, bytes]

lemma bytes_join {base : Path} {name : String} (hname : '/' ∉ name.toList)
    (hbase : base.Continues) :
    (base.join ⟨name⟩).bytes = base.bytes + 1 + (Text.Utf8.encode name.toList).length := by
  have hseparator : (Text.Utf8.encode ['/']).length = 1 := by decide
  have hchars : (base.join ⟨name⟩).text.toList = base.text.toList ++ ['/'] ++ name.toList := by
    rw [text_join hname hbase]
    simp
  rw [bytes, hchars, Text.Utf8.encode_append, Text.Utf8.encode_append, List.length_append,
    List.length_append, hseparator, bytes]

end Path

namespace FileSystem

variable {fs fs' : FileSystem} {l k : Location} {p : Path} {name : String} {n : Node}

/-! ### What stands where -/

lemma node?_remove_of_ne (h : k ≠ l) : (fs.remove l).node? k = fs.node? k := by
  cases k with
  | nil => rfl
  | cons a k =>
    simp only [node?, remove, List.find?_filter]
    congr 2
    funext e
    by_cases he : e.1 = a :: k
    · simp [he, h]
    · simp [he]

lemma node?_remove_self (h : l ≠ []) : (fs.remove l).node? l = none := by
  cases l with
  | nil => exact absurd rfl h
  | cons a l =>
    rw [node?, Option.map_eq_none_iff, List.find?_eq_none]
    · intro e he heq
      have hne : e.1 ≠ a :: l := by simpa using (List.mem_filter.1 he).2
      exact hne (of_decide_eq_true heq)
    · exact List.cons_ne_nil a l

lemma node?_put_of_ne (h : k ≠ l) : (fs.put l n).node? k = fs.node? k := by
  have hremove : (fs.remove l).node? k = fs.node? k := node?_remove_of_ne h
  rw [← hremove]
  cases k with
  | nil => rfl
  | cons a k => simp [node?, put, Ne.symm h]

/-- Whether nothing stands at a location or below it. -/
def Vacant (fs : FileSystem) (l : Location) : Prop := ∀ e ∈ fs.entries, ¬ l <+: e.1

lemma Vacant.node?_append (h : fs.Vacant l) {rest : Location} (hrest : l ++ rest ≠ []) :
    fs.node? (l ++ rest) = none := by
  cases hl : l ++ rest with
  | nil => exact absurd hl hrest
  | cons a k =>
    rw [node?, Option.map_eq_none_iff, List.find?_eq_none]
    · intro e he heq
      exact h e he ⟨rest, hl.trans (of_decide_eq_true heq).symm⟩
    · exact List.cons_ne_nil a k

lemma Vacant.node?_eq_none (h : fs.Vacant l) (hl : l ≠ []) : fs.node? l = none := by
  have hsame : l ++ [] = l := List.append_nil l
  rw [← hsame]
  exact h.node?_append (by rwa [hsame])

lemma Vacant.node?_put_directory (h : fs.Vacant l) (name : List Char) :
    (fs.put l .directory).node? (l ++ [name]) = none := by
  have hne : l ++ [name] ≠ l := by simp
  rw [node?_put_of_ne hne]
  exact h.node?_append (by simp)

/-! ### Following a path -/

/-- Whether every directory stays. -/
def Keeps (fs fs' : FileSystem) : Prop :=
  ∀ l, fs.node? l = some .directory → fs'.node? l = some .directory

lemma Keeps.trans {fs₁ fs₂ fs₃ : FileSystem} (h : fs₁.Keeps fs₂) (h' : fs₂.Keeps fs₃) :
    fs₁.Keeps fs₃ := fun l hl => h' l (h l hl)

lemma keeps_workDir (fs : FileSystem) (w : Location) : fs.Keeps { fs with workDir := w } :=
  fun _ hl => hl

lemma keeps_put (h : fs.node? l = some .directory → n = .directory) : fs.Keeps (fs.put l n) := by
  intro k hk
  by_cases hkl : k = l
  · subst hkl
    cases k with
    | nil => rfl
    | cons a k => rw [node?_put _ _ _ (List.cons_ne_nil a k), h hk]
  · rwa [node?_put_of_ne hkl]

lemma keeps_remove (h : fs.node? l ≠ some .directory) : fs.Keeps (fs.remove l) := by
  intro k hk
  have hne : k ≠ l := by
    rintro rfl
    exact h hk
  rwa [node?_remove_of_ne hne]

lemma follow_append (parts parts' : List (List Char)) :
    fs.follow l (parts ++ parts') = (fs.follow l parts).bind fun k => fs.follow k parts' := by
  induction parts generalizing l with
  | nil => rfl
  | cons part parts ih =>
    rw [List.cons_append, follow, follow]
    split
    · rfl
    · rfl
    · split_ifs
      · exact ih
      · exact ih
      · rfl
      · exact ih

lemma follow_of_keeps (hkeeps : fs.Keeps fs') {parts : List (List Char)}
    (h : fs.follow l parts = .ok k) : fs'.follow l parts = .ok k := by
  induction parts generalizing l with
  | nil => exact h
  | cons part parts ih =>
    rw [follow] at h ⊢
    split at h
    · cases h
    · cases h
    · next hdirectory =>
      rw [hkeeps l hdirectory]
      dsimp only
      split_ifs at h ⊢
      · exact ih h
      · exact ih h
      · exact ih h

theorem locate_of_keeps (hkeeps : fs.Keeps fs') (hp : p.isAbsolute = true)
    (h : fs.locate p = .ok l) : fs'.locate p = .ok l := by
  simp only [locate, hp, if_true] at h ⊢
  split_ifs at h ⊢
  exact follow_of_keeps hkeeps h

lemma locate_of_keeps_here (hkeeps : fs.Keeps fs') (hhere : fs'.workDir = fs.workDir)
    (h : fs.locate p = .ok l) : fs'.locate p = .ok l := by
  simp only [locate, hhere] at h ⊢
  split_ifs at h ⊢
  · exact follow_of_keeps hkeeps h
  · exact follow_of_keeps hkeeps h

/-- What a path leads to is what stands there. -/
lemma lookup_of_locate (h : fs.locate p = .ok l) :
    fs.lookup p = match fs.node? l with
      | some n => .ok n
      | none => .error .missing := by
  rw [lookup, h]
  rfl

lemma lookup_eq_ok_iff (h : fs.locate p = .ok l) : fs.lookup p = .ok n ↔ fs.node? l = some n := by
  rw [lookup_of_locate h]
  cases fs.node? l <;> simp

lemma isDirectory_iff (h : fs.locate p = .ok l) :
    fs.isDirectory p = true ↔ fs.node? l = some .directory := by
  rw [← lookup_eq_ok_iff h, isDirectory]
  split
  · simp_all
  next hother => simpa using hother

lemma exists_write_eq_put (h : fs.locate p = .ok l) (hfree : fs.node? l ≠ some .directory) :
    ∃ runnable, ∀ content, fs.write p content = .ok (fs.put l (.file content runnable)) := by
  cases hnode : fs.node? l with
  | none => exact ⟨false, fun content => by simp [write, h, hnode, bind, Except.bind]⟩
  | some there =>
    cases there with
    | directory => exact absurd hnode hfree
    | file old runnable =>
      exact ⟨runnable, fun content => by simp [write, h, hnode, bind, Except.bind]⟩

/-- A file that was written stands where its path leads, and there was no directory. -/
lemma exists_put_of_write {after : FileSystem} {content : List UInt8}
    (h : fs.write p content = .ok after) :
    ∃ l runnable, fs.locate p = .ok l ∧ fs.node? l ≠ some .directory ∧
      after = fs.put l (.file content runnable) := by
  cases hlocate : fs.locate p with
  | error fault => simp [write, hlocate, bind, Except.bind] at h
  | ok l =>
    have hfree : fs.node? l ≠ some .directory := by
      intro hdirectory
      simp [write, hlocate, hdirectory, bind, Except.bind] at h
    obtain ⟨runnable, hwrite⟩ := exists_write_eq_put hlocate hfree
    rw [hwrite content] at h
    exact ⟨l, runnable, rfl, hfree, (Except.ok.inj h).symm⟩

/-- A file is moved unless its new place is a directory. -/
lemma rename_of_locate {source target : Path} (h : fs.locate source = .ok l)
    (h' : fs.locate target = .ok k) (hnode : fs.node? l = some n) :
    fs.rename source target =
      if fs.node? k = some .directory then .error .isDirectory
      else .ok ((fs.remove l).put k n) := by
  cases htarget : fs.node? k with
  | none => simp [rename, h, h', hnode, htarget, bind, Except.bind]
  | some there =>
    cases there <;> simp [rename, h, h', hnode, htarget, bind, Except.bind]

lemma locate_root (fs : FileSystem) : fs.locate ⟨"/"⟩ = .ok [] := by
  rw [locate, if_neg (by decide), if_neg (by decide), if_neg (by decide), if_pos (by decide)]
  rfl

lemma notMem_of_locate (h : fs.locate p = .ok l) : '\x00' ∉ p.text.toList := by
  intro hnull
  rw [locate, if_pos hnull] at h
  cases h

/-! ### What stays as it is -/

/-- Whether everything that is there stays as it is. -/
def Retains (fs fs' : FileSystem) : Prop := ∀ l n, fs.node? l = some n → fs'.node? l = some n

lemma Retains.keeps (h : fs.Retains fs') : fs.Keeps fs' := fun l hl => h l .directory hl

lemma Retains.trans {fs₁ fs₂ fs₃ : FileSystem} (h : fs₁.Retains fs₂) (h' : fs₂.Retains fs₃) :
    fs₁.Retains fs₃ := fun l n hl => h' l n (h l n hl)

lemma retains_workDir (fs : FileSystem) (w : Location) :
    fs.Retains { fs with workDir := w } := fun _ _ hl => hl

lemma retains_put (h : ∀ there, fs.node? l = some there → there = n) :
    fs.Retains (fs.put l n) := by
  intro k there hk
  by_cases hkl : k = l
  · subst hkl
    cases k with
    | nil => exact hk
    | cons a k => rw [node?_put _ _ _ (List.cons_ne_nil a k), h there hk]
  · rwa [node?_put_of_ne hkl]

lemma Retains.isFile (h : fs.Retains fs') (hp : p.isAbsolute = true)
    (hfile : fs.isFile p = true) : fs'.isFile p = true := by
  obtain ⟨content, runnable, hlookup⟩ : ∃ content runnable,
      fs.lookup p = .ok (.file content runnable) := by
    rw [FileSystem.isFile] at hfile
    split at hfile
    next content runnable hlookup => exact ⟨content, runnable, hlookup⟩
    · cases hfile
  cases hlocate : fs.locate p with
  | error fault =>
    rw [lookup, hlocate] at hlookup
    cases hlookup
  | ok l =>
    have hnode := h l _ ((lookup_eq_ok_iff hlocate).1 hlookup)
    have hlocate' : fs'.locate p = .ok l := locate_of_keeps h.keeps hp hlocate
    rw [FileSystem.isFile, (lookup_eq_ok_iff hlocate').2 hnode]

/-! ### A directory and what is in it -/

/-- Whether a path leads to a directory, from wherever one starts. -/
structure Leads (fs : FileSystem) (p : Path) (l : Location) : Prop where
  /-- It starts at the root. -/
  absolute : p.isAbsolute = true
  /-- It can be followed by a separator and a name. -/
  continues : p.Continues
  /-- It leads to the location. -/
  reached : fs.locate p = .ok l
  /-- A directory stands there. -/
  directory : fs.node? l = some .directory

lemma Leads.of_keeps (h : fs.Leads p l) (hkeeps : fs.Keeps fs') : fs'.Leads p l :=
  ⟨h.absolute, h.continues, locate_of_keeps hkeeps h.absolute h.reached, hkeeps l h.directory⟩

/-- Whether a path is short enough to be followed. -/
def Fits (p : Path) : Prop := (Text.Utf8.encode p.text.toList).length ≤ maxPathBytes

instance (p : Path) : Decidable (Fits p) := inferInstanceAs (Decidable (_ ≤ _))

lemma fits_iff (p : Path) : Fits p ↔ p.bytes ≤ maxPathBytes := Iff.rfl

lemma Fits.of_append {suffix : String} (h : Fits (p.append suffix)) : Fits p := by
  rw [Fits, Path.append, String.toList_append, Text.Utf8.encode, List.flatMap_append,
    List.length_append] at h
  exact Nat.le_trans (Nat.le_add_right _ _) h

/-- A path leads somewhere if it can be given to the system and followed part by part. -/
lemma locate_eq_ok_iff : fs.locate p = .ok l ↔
    '\x00' ∉ p.text.toList ∧ p.text ≠ "" ∧ Fits p ∧
      fs.follow (if p.isAbsolute then [] else fs.workDir) (Path.splitAt '/' p.text.toList) =
        .ok l := by
  have hempty : p.text.toList.isEmpty = true ↔ p.text = "" := by simp
  simp only [locate, Fits, ← Nat.not_lt, hempty]
  by_cases hnull : '\x00' ∈ p.text.toList
  · simp [hnull]
  · by_cases hnothing : p.text = ""
    · simp [hnothing]
    · by_cases hlong : maxPathBytes < (Text.Utf8.encode p.text.toList).length
      · simp [hnull, hnothing, hlong]
      · simp [hnull, hnothing, hlong]

lemma Leads.locate_join (h : fs.Leads p l) (hname : Path.IsName name) :
    fs.locate (p.join ⟨name⟩) =
      if Fits (p.join ⟨name⟩) then .ok (l ++ [name.toList]) else .error .nameTooLong := by
  have hlocate := h.reached
  have habsolute : (p.join ⟨name⟩).isAbsolute = true := Path.isAbsolute_join h.absolute _
  have hchars : (p.join ⟨name⟩).text.toList = p.text.toList ++ '/' :: name.toList := by
    rw [Path.text_join hname.whole.1 h.continues]
    simp
  have hlast : fs.follow l [name.toList] = .ok (l ++ [name.toList]) := by
    obtain ⟨hnil, hcurrent, hparent⟩ := hname.proper
    rw [follow, h.directory]
    simp [hnil, hcurrent, hparent, Nat.not_lt.2 hname.short, follow]
  simp only [locate, h.absolute, if_true] at hlocate
  split_ifs at hlocate with hnull hempty hlong
  have hnull' : '\x00' ∉ (p.join ⟨name⟩).text.toList := by
    rw [hchars]
    simp [hnull, hname.whole.2]
  have hempty' : (p.join ⟨name⟩).text.toList.isEmpty = false := by
    rw [hchars]
    simp
  rw [locate, if_neg hnull', hempty', if_neg Bool.false_ne_true]
  by_cases hfits : Fits (p.join ⟨name⟩)
  · have hshort := Nat.not_lt.2 hfits
    rw [if_pos hfits, if_neg hshort, if_pos habsolute, hchars, Path.splitAt_append_cons,
      Path.splitAt_of_notMem hname.whole.1, follow_append, hlocate]
    exact hlast
  · have hlong := Nat.not_le.1 hfits
    rw [if_neg hfits, if_pos hlong]

lemma Leads.notMem_join (h : fs.Leads p l) (hname : Path.IsName name)
    (hfits : Fits (p.join ⟨name⟩)) : '\x00' ∉ (p.join ⟨name⟩).text.toList := by
  have hlocate := h.locate_join hname
  rw [if_pos hfits] at hlocate
  exact notMem_of_locate hlocate

section Contents

variable {content : List UInt8} {runnable : Bool}

/-- A new file is put where its name leads, if the path is not too long. -/
lemma Leads.write_new (h : fs.Leads p l) (hname : Path.IsName name)
    (hnew : fs.node? (l ++ [name.toList]) = none) :
    fs.write (p.join ⟨name⟩) content =
      if Fits (p.join ⟨name⟩) then .ok (fs.put (l ++ [name.toList]) (.file content false))
      else .error .nameTooLong := by
  rw [write, h.locate_join hname]
  split
  · simp [hnew, bind, Except.bind]
  · rfl

lemma Leads.locate_join_of_fits (h : fs.Leads p l) (hname : Path.IsName name)
    (hfits : Fits (p.join ⟨name⟩)) : fs.locate (p.join ⟨name⟩) = .ok (l ++ [name.toList]) := by
  rw [h.locate_join hname, if_pos hfits]

lemma Leads.read_file (h : fs.Leads p l) (hname : Path.IsName name)
    (hfits : Fits (p.join ⟨name⟩))
    (hnode : fs.node? (l ++ [name.toList]) = some (.file content runnable)) :
    fs.read (p.join ⟨name⟩) = .ok content := by
  rw [read, (lookup_eq_ok_iff (h.locate_join_of_fits hname hfits)).2 hnode]
  rfl

lemma Leads.read_new (h : fs.Leads p l) (hname : Path.IsName name)
    (hnew : fs.node? (l ++ [name.toList]) = none) :
    ∃ fault, fs.read (p.join ⟨name⟩) = .error fault := by
  by_cases hfits : Fits (p.join ⟨name⟩)
  · refine ⟨.missing, ?_⟩
    rw [read, lookup_of_locate (h.locate_join_of_fits hname hfits), hnew]
    rfl
  · refine ⟨.nameTooLong, ?_⟩
    rw [read, lookup, h.locate_join hname, if_neg hfits]
    rfl

/-- A file of a directory is moved to a name in it that is free. -/
lemma Leads.rename_new (h : fs.Leads p l) {name' : String} (hname : Path.IsName name)
    (hname' : Path.IsName name') (hfits : Fits (p.join ⟨name⟩)) (hfits' : Fits (p.join ⟨name'⟩))
    (hnode : fs.node? (l ++ [name.toList]) = some (.file content runnable))
    (hnew : fs.node? (l ++ [name'.toList]) = none) :
    ∃ after, fs.rename (p.join ⟨name⟩) (p.join ⟨name'⟩) = .ok after ∧ fs.Keeps after ∧
      after.node? (l ++ [name'.toList]) = some (.file content runnable) := by
  let after := (fs.remove (l ++ [name.toList])).put (l ++ [name'.toList]) (.file content runnable)
  have hrename : fs.rename (p.join ⟨name⟩) (p.join ⟨name'⟩) = .ok after := by
    rw [rename_of_locate (h.locate_join_of_fits hname hfits) (h.locate_join_of_fits hname' hfits')
      hnode, hnew, if_neg nofun]
  have hfree : (fs.remove (l ++ [name.toList])).node? (l ++ [name'.toList]) = none := by
    have hne : l ++ [name'.toList] ≠ l ++ [name.toList] := by
      intro heq
      rw [heq, hnode] at hnew
      cases hnew
    rw [node?_remove_of_ne hne, hnew]
  have hremove : fs.Keeps (fs.remove (l ++ [name.toList])) := keeps_remove (by rw [hnode]; nofun)
  have hput : (fs.remove (l ++ [name.toList])).Keeps after := keeps_put (by rw [hfree]; nofun)
  exact ⟨after, hrename, hremove.trans hput, node?_put _ _ _ (by simp)⟩

end Contents

end FileSystem

/-! ### A directory with a long path -/

/-- The directory `tmp` in the root, written with many separators in front. -/
def Path.longTmp (n : Nat) : Path := ⟨String.ofList (List.replicate n '/' ++ "tmp".toList)⟩

lemma Path.toList_longTmp (n : Nat) :
    (Path.longTmp n).text.toList = List.replicate n '/' ++ "tmp".toList := by
  rw [Path.longTmp, String.toList_ofList]

lemma Path.bytes_longTmp (n : Nat) : (Path.longTmp n).bytes = n + 3 := by
  have hname : (Text.Utf8.encode "tmp".toList).length = 3 := by decide
  have hseparator : (Text.Utf8.encode ['/']).length = 1 := by decide
  have hfront : (Text.Utf8.encode (List.replicate n '/')).length = n := by
    induction n with
    | zero => rfl
    | succ n ih =>
      rw [List.replicate_succ', Text.Utf8.encode_append, List.length_append, ih, hseparator]
  rw [Path.bytes, Path.toList_longTmp, Text.Utf8.encode_append, List.length_append, hname, hfront]

lemma Path.splitAt_replicate_append (n : Nat) (rest : List Char) :
    Path.splitAt '/' (List.replicate n '/' ++ rest) =
      List.replicate n [] ++ Path.splitAt '/' rest := by
  induction n with
  | zero => rfl
  | succ n ih =>
    have hcons := Path.splitAt_append_cons '/' [] (List.replicate n '/' ++ rest)
    rw [List.nil_append, ih] at hcons
    exact hcons

namespace FileSystem

lemma follow_replicate_nil (fs : FileSystem) (n : Nat) (parts : List (List Char)) :
    fs.follow [] (List.replicate n [] ++ parts) = fs.follow [] parts := by
  induction n with
  | zero => rfl
  | succ n ih =>
    rw [List.replicate_succ, List.cons_append, follow, node?_root]
    simpa using ih

lemma leads_longTmp {fs : FileSystem} {n : Nat}
    (htmp : fs.node? ["tmp".toList] = some .directory) (hfits : Fits (Path.longTmp (n + 1))) :
    fs.Leads (Path.longTmp (n + 1)) ["tmp".toList] := by
  have hchars := Path.toList_longTmp (n + 1)
  have habsolute : (Path.longTmp (n + 1)).isAbsolute = true := by
    rw [Path.isAbsolute, hchars]
    simp [Path.startsAtRoot, List.replicate_succ]
  have hcontinues : (Path.longTmp (n + 1)).Continues := by
    constructor
    · intro hempty
      rw [hempty] at hchars
      simp at hchars
    · rw [hchars, Path.endsInSeparator]
      simp
  have hnull : '\x00' ∉ (Path.longTmp (n + 1)).text.toList := by
    rw [hchars]
    simp
  have hempty : (Path.longTmp (n + 1)).text.toList.isEmpty = false := by
    rw [hchars]
    simp
  have hparts : Path.splitAt '/' (Path.longTmp (n + 1)).text.toList =
      List.replicate (n + 1) [] ++ ["tmp".toList] := by
    rw [hchars, Path.splitAt_replicate_append]
    rfl
  have hlocate : fs.locate (Path.longTmp (n + 1)) = .ok ["tmp".toList] := by
    rw [locate, if_neg hnull, hempty, if_neg Bool.false_ne_true, if_neg (Nat.not_lt.2 hfits),
      if_pos habsolute, hparts, follow_replicate_nil]
    rfl
  exact ⟨habsolute, hcontinues, hlocate, htmp⟩

end FileSystem

end JobSupervision
