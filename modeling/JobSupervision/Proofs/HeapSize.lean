/-
# Texts of heap sizes

A heap size is read from exactly the texts of one form (`HeapSize.Writes`): blanks, a plus sign if
one likes, decimal digits, a letter for the unit if there is one, and blanks.  Reading takes such a
text apart from the outside, and each step has a lemma that says what it accepts: the blanks
(`Text.exists_trim`, `Text.trim_of_blank`), the unit (`HeapSize.eq_append_of_split?`,
`HeapSize.split?_append`) and the digits (`HeapSize.number?_eq_some_iff`).  A heap size is shown in
the largest unit that divides it, which is such a text, so it comes back from there
(`HeapSize.textFaithful`) unless it is nothing at all.
-/
import Mathlib.Algebra.Group.Nat.Defs
import Mathlib.Data.List.Basic
import JobSupervision.HeapSize

namespace JobSupervision

/-! ### Blanks at the ends -/

namespace Text

/-- What is trimmed off a text is blank. -/
theorem exists_trim (cs : List Char) :
    ∃ before after, cs = before ++ trim cs ++ after ∧
      (∀ c ∈ before, isBlank c = true) ∧ ∀ c ∈ after, isBlank c = true := by
  have hdrop : ∀ ds : List Char, ds = ds.takeWhile isBlank ++ ds.dropWhile isBlank :=
    fun ds => List.takeWhile_append_dropWhile.symm
  have hblank : ∀ ds : List Char, ∀ c ∈ ds.takeWhile isBlank, isBlank c = true :=
    fun ds c hc => List.all_eq_true.1 List.all_takeWhile c hc
  refine ⟨cs.takeWhile isBlank, ((cs.dropWhile isBlank).reverse.takeWhile isBlank).reverse, ?_,
    hblank cs, fun c hc => hblank _ c (List.mem_reverse.1 hc)⟩
  rw [trim, List.append_assoc, ← List.reverse_append, ← hdrop, List.reverse_reverse, ← hdrop]

lemma dropWhile_isBlank {blanks text : List Char} (hblanks : ∀ c ∈ blanks, isBlank c = true)
    (hfirst : ∀ c ∈ text.head?, isBlank c = false) : (blanks ++ text).dropWhile isBlank = text := by
  rw [List.dropWhile_append_of_pos hblanks]
  cases text with
  | nil => rfl
  | cons c text => exact List.dropWhile_cons_of_neg (by simp [hfirst c rfl])

/-- A text whose ends are not blank is what is left of it among blanks. -/
theorem trim_of_blank {before text after : List Char} (hbefore : ∀ c ∈ before, isBlank c = true)
    (hafter : ∀ c ∈ after, isBlank c = true) (hne : text ≠ [])
    (hfirst : ∀ c ∈ text.head?, isBlank c = false)
    (hlast : ∀ c ∈ text.getLast?, isBlank c = false) : trim (before ++ text ++ after) = text := by
  have hfront : ∀ c ∈ (text ++ after).head?, isBlank c = false := by
    rwa [List.head?_append_of_ne_nil _ hne]
  have hback : (after.reverse ++ text.reverse).dropWhile isBlank = text.reverse :=
    dropWhile_isBlank (fun c hc => hafter c (List.mem_reverse.1 hc)) (by simpa using hlast)
  rw [trim, List.append_assoc, dropWhile_isBlank hbefore hfront, List.reverse_append, hback,
    List.reverse_reverse]

end Text

namespace HeapSize

/-! ### Characters -/

lemma isDigit_iff {c : Char} : isDigit c = true ↔ 48 ≤ c.toNat ∧ c.toNat ≤ 57 := by
  simp only [isDigit, Bool.and_eq_true, decide_eq_true_eq, Char.le_def, UInt32.le_iff_toNat_le]
  rfl

lemma isBlank_of_isDigit {c : Char} (h : isDigit c = true) : Text.isBlank c = false := by
  obtain ⟨hlow, hhigh⟩ := isDigit_iff.1 h
  simp only [Text.isBlank, Text.inRanges, Text.blankRanges, List.any_cons, List.any_nil,
    Bool.or_false, Bool.or_eq_false_iff, Bool.and_eq_false_iff, decide_eq_false_iff_not]
  omega

lemma isLetter_of_isDigit {c : Char} (h : isDigit c = true) : isLetter c = false := by
  obtain ⟨hlow, hhigh⟩ := isDigit_iff.1 h
  have hcode : ∀ d : Char, d ≤ c ↔ d.toNat ≤ c.toNat := fun d => by
    rw [Char.le_def, UInt32.le_iff_toNat_le]
    rfl
  simp only [isLetter, hcode, Bool.or_eq_false_iff, Bool.and_eq_false_iff, decide_eq_false_iff_not]
  have ha : 'a'.toNat = 97 := rfl
  have hA : 'A'.toNat = 65 := rfl
  omega

/-! ### The written form -/

/-- The letters that may stand behind the digits, with the bytes in the unit of each. -/
def letters : List (Char × Nat) :=
  [('k', 2 ^ 10), ('K', 2 ^ 10), ('m', 2 ^ 20), ('M', 2 ^ 20), ('g', 2 ^ 30), ('G', 2 ^ 30)]

/-- Whether the end of a text stands for a unit of so many bytes: nothing for single bytes, or one
of the letters. -/
def Denotes (suffix : List Char) (unit : Nat) : Prop :=
  suffix = [] ∧ unit = 1 ∨ ∃ c, suffix = [c] ∧ (c, unit) ∈ letters

/-- Whether a text is decimal digits that write a number, with or without a plus sign. -/
def Counts (cs : List Char) (n : Nat) : Prop :=
  ∃ sign digits, cs = sign ++ digits ∧ (sign = [] ∨ sign = ['+']) ∧ digits ≠ [] ∧
    (∀ c ∈ digits, c.isDigit = true) ∧ n = Nat.ofDigitChars 10 digits 0

/-- Whether a text writes a number of bytes: blanks, a number, a unit, and blanks. -/
def Writes (cs : List Char) (bytes : Nat) : Prop :=
  ∃ before number suffix after n unit, cs = before ++ (number ++ suffix) ++ after ∧
    (∀ c ∈ before, Text.isBlank c = true) ∧ (∀ c ∈ after, Text.isBlank c = true) ∧
    Counts number n ∧ Denotes suffix unit ∧ bytes = n * unit

variable {cs number suffix : List Char} {n unit : Nat}

/-! ### Numbers -/

lemma ofDigits_eq (ds : List Char) : ofDigits ds = Nat.ofDigitChars 10 ds 0 := by
  simp [ofDigits, Nat.ofDigitChars, Nat.mul_comm]

/-- The digits behind the plus sign are read, and nothing else is. -/
theorem number?_eq_some_iff : number? cs = some n ↔ Counts cs n := by
  have hread : ∀ ds : List Char,
      (if ds ≠ [] ∧ ds.all isDigit then some (ofDigits ds) else none) = some n ↔
        ds ≠ [] ∧ (∀ c ∈ ds, c.isDigit = true) ∧ n = Nat.ofDigitChars 10 ds 0 := by
    intro ds
    rw [Option.ite_none_right_eq_some, and_assoc, List.all_eq_true, ofDigits_eq, Option.some_inj,
      eq_comm (a := n)]
    rfl
  constructor
  · intro h
    unfold number? at h
    dsimp only at h
    split at h
    · next rest => exact ⟨['+'], rest, rfl, .inr rfl, (hread rest).1 h⟩
    · exact ⟨[], cs, rfl, .inl rfl, (hread cs).1 h⟩
  · rintro ⟨sign, ds, rfl, rfl | rfl, hds⟩
    · -- a digit is no plus sign
      have hplus : ∀ rest, ds ≠ '+' :: rest := by
        rintro rest rfl
        cases hds.2.1 '+' List.mem_cons_self
      rw [List.nil_append, number?]
      · exact (hread ds).2 hds
      · exact hplus
    · exact (hread ds).2 hds

lemma Counts.getLast? (h : Counts cs n) : ∃ c, cs.getLast? = some c ∧ isDigit c = true := by
  obtain ⟨sign, ds, rfl, -, hne, hds, -⟩ := h
  refine ⟨ds.getLast hne, ?_, hds _ (List.getLast_mem hne)⟩
  rw [List.getLast?_append, List.getLast?_eq_some_getLast hne, Option.some_or]

lemma Counts.head? (h : Counts cs n) : ∃ c, cs.head? = some c ∧ Text.isBlank c = false := by
  obtain ⟨sign, ds, rfl, rfl | rfl, hne, hds, -⟩ := h
  · obtain ⟨c, cs, rfl⟩ := List.exists_cons_of_ne_nil hne
    exact ⟨c, rfl, isBlank_of_isDigit (hds c List.mem_cons_self)⟩
  · exact ⟨'+', rfl, by decide⟩

lemma counts_digits (n : Nat) : Counts (digits n) n :=
  ⟨[], digits n, rfl, .inl rfl, Nat.toDigits_ne_nil,
    fun _ hc => Nat.isDigit_of_mem_toDigits (by decide) (by decide) hc,
    Nat.ofDigitChars_ten_toDigits.symm⟩

/-! ### Units -/

lemma unit?_eq_some_iff {c : Char} : unit? c = some unit ↔ (c, unit) ∈ letters := by
  simp only [unit?, letters, kibi, mebi, gibi, List.mem_cons, List.not_mem_nil, or_false,
    Prod.mk.injEq]
  constructor
  · intro h
    split at h
    · next hc => rcases hc with rfl | rfl <;> simp_all
    split at h
    · next hc => rcases hc with rfl | rfl <;> simp_all
    split at h
    · next hc => rcases hc with rfl | rfl <;> simp_all
    · cases h
  · rintro (⟨rfl, rfl⟩ | ⟨rfl, rfl⟩ | ⟨rfl, rfl⟩ | ⟨rfl, rfl⟩ | ⟨rfl, rfl⟩ | ⟨rfl, rfl⟩) <;> rfl

lemma isLetter_of_mem_letters {c : Char} (h : (c, unit) ∈ letters) :
    isLetter c = true ∧ Text.isBlank c = false ∧ 0 < unit := by
  have hall : ∀ e ∈ letters, isLetter e.1 = true ∧ Text.isBlank e.1 = false ∧ 0 < e.2 := by decide
  exact hall (c, unit) h

lemma Denotes.pos (h : Denotes suffix unit) : 0 < unit := by
  rcases h with ⟨-, rfl⟩ | ⟨c, -, hc⟩
  · exact Nat.one_pos
  · exact (isLetter_of_mem_letters hc).2.2

/-- What is split off a text is a unit. -/
theorem eq_append_of_split? (h : split? cs = some (number, unit)) :
    ∃ suffix, cs = number ++ suffix ∧ Denotes suffix unit := by
  unfold split? at h
  split at h
  · next hlast =>
    cases h
    exact ⟨[], List.getLast?_eq_none_iff.1 hlast, .inl ⟨rfl, rfl⟩⟩
  · next c hlast =>
    split at h
    · obtain ⟨u, hu, hsplit⟩ := Option.map_eq_some_iff.1 h
      cases hsplit
      refine ⟨[c], ?_, .inr ⟨c, rfl, unit?_eq_some_iff.1 hu⟩⟩
      exact (List.dropLast_append_getLast? c hlast).symm
    · cases h
      exact ⟨[], (List.append_nil _).symm, .inl ⟨rfl, rfl⟩⟩

/-- A number with a unit behind it is split at the unit. -/
theorem split?_append (hnumber : Counts number n) (hsuffix : Denotes suffix unit) :
    split? (number ++ suffix) = some (number, unit) := by
  rcases hsuffix with ⟨rfl, rfl⟩ | ⟨c, rfl, hc⟩
  · obtain ⟨d, hlast, hd⟩ := hnumber.getLast?
    simp [split?, hlast, isLetter_of_isDigit hd]
  · simp [split?, (isLetter_of_mem_letters hc).1, unit?_eq_some_iff.2 hc]

/-! ### Reading -/

/-- A number with a unit is not blank at its ends. -/
lemma trim_number_append {before after : List Char}
    (hbefore : ∀ c ∈ before, Text.isBlank c = true) (hafter : ∀ c ∈ after, Text.isBlank c = true)
    (hnumber : Counts number n) (hsuffix : Denotes suffix unit) :
    Text.trim (before ++ (number ++ suffix) ++ after) = number ++ suffix := by
  obtain ⟨first, hfirst, hfirstBlank⟩ := hnumber.head?
  obtain ⟨last, hlast, hdigit⟩ := hnumber.getLast?
  have hne : number ≠ [] := by
    rintro rfl
    cases hfirst
  refine Text.trim_of_blank hbefore hafter (by simp [hne]) ?_ ?_
  · rw [List.head?_append, hfirst, Option.some_or]
    intro c hc
    cases hc
    exact hfirstBlank
  · rcases hsuffix with ⟨rfl, -⟩ | ⟨c, rfl, hc⟩
    · rw [List.append_nil, hlast]
      intro c hc
      cases hc
      exact isBlank_of_isDigit hdigit
    · rw [List.getLast?_concat]
      intro c' hc'
      cases hc'
      exact (isLetter_of_mem_letters hc).2.1

/-- What a text writes is found by taking it apart. -/
lemma writes_iff {bytes : Nat} :
    Writes cs bytes ↔ ∃ number n unit, split? (Text.trim cs) = some (number, unit) ∧
      number? number = some n ∧ bytes = n * unit := by
  constructor
  · rintro ⟨before, number, suffix, after, n, unit, rfl, hbefore, hafter, hnumber, hsuffix, hbytes⟩
    refine ⟨number, n, unit, ?_, number?_eq_some_iff.2 hnumber, hbytes⟩
    rw [trim_number_append hbefore hafter hnumber hsuffix, split?_append hnumber hsuffix]
  · rintro ⟨number, n, unit, hsplit, hnumber, hbytes⟩
    obtain ⟨suffix, htrim, hsuffix⟩ := eq_append_of_split? hsplit
    obtain ⟨before, after, htext, hbefore, hafter⟩ := Text.exists_trim cs
    rw [htrim] at htext
    exact ⟨before, number, suffix, after, n, unit, htext, hbefore, hafter,
      number?_eq_some_iff.1 hnumber, hsuffix, hbytes⟩

lemma Writes.unique {bytes bytes' : Nat} (h : Writes cs bytes) (h' : Writes cs bytes') :
    bytes = bytes' := by
  obtain ⟨number, n, unit, hsplit, hnumber, rfl⟩ := writes_iff.1 h
  obtain ⟨number', n', unit', hsplit', hnumber', rfl⟩ := writes_iff.1 h'
  cases hsplit.symm.trans hsplit'
  cases hnumber.symm.trans hnumber'
  rfl

/-- A heap size is read from exactly the texts that write its bytes, unless it is nothing. -/
lemma parse?_eq_some_iff {text : String} {h : HeapSize} :
    parse? text = some h ↔ Writes text.toList h.bytes.toNat ∧ 0 < h.bytes.toNat := by
  constructor
  · intro hparse
    unfold parse? at hparse
    obtain ⟨⟨number, unit⟩, hsplit, hparse⟩ := Option.bind_eq_some_iff.1 hparse
    obtain ⟨n, hnumber, hparse⟩ := Option.bind_eq_some_iff.1 hparse
    obtain ⟨⟨-, hpos, hle⟩, hsize⟩ := Option.ite_none_right_eq_some.1 hparse
    have hbytes : h.bytes.toNat = n * unit := by
      rw [← Option.some.inj hsize]
      exact UInt64.toNat_ofNat_of_lt' (Nat.lt_succ_of_le hle)
    exact ⟨writes_iff.2 ⟨number, n, unit, hsplit, hnumber, hbytes⟩, by rwa [hbytes]⟩
  · rintro ⟨hwrites, hpos⟩
    obtain ⟨number, n, unit, hsplit, hnumber, hbytes⟩ := writes_iff.1 hwrites
    have hle : n * unit ≤ greatest := by
      rw [← hbytes]
      exact Nat.le_of_lt_succ h.bytes.toNat_lt
    obtain ⟨suffix, -, hsuffix⟩ := eq_append_of_split? hsplit
    have hn : n ≤ greatest := Nat.le_trans (Nat.le_mul_of_pos_right n hsuffix.pos) hle
    simp only [parse?, hsplit, hnumber, bind, Option.bind_some]
    rw [if_pos ⟨hn, by rwa [← hbytes], hle⟩, ← hbytes, UInt64.ofNat_toNat]

/-! ### Showing -/

/-- The units that heap sizes are shown in, with what stands behind the digits. -/
def shownUnits : List (Nat × List Char) :=
  [(2 ^ 30, ['g']), (2 ^ 20, ['m']), (2 ^ 10, ['k']), (1, [])]

/-- Whether a text shows a number of bytes in the largest unit that divides it. -/
def ShowsLargest (cs : List Char) (bytes : Nat) : Prop :=
  ∃ unit suffix, (unit, suffix) ∈ shownUnits ∧ unit ∣ bytes ∧
    (∀ other ∈ shownUnits, other.1 ∣ bytes → other.1 ≤ unit) ∧
    cs = Nat.toDigits 10 (bytes / unit) ++ suffix

/-- A unit is the largest that divides a number if it is at least as large as the others that
do. -/
lemma largest_of {bytes unit : Nat} (hgibi : 2 ^ 30 ∣ bytes → 2 ^ 30 ≤ unit)
    (hmebi : 2 ^ 20 ∣ bytes → 2 ^ 20 ≤ unit) (hkibi : 2 ^ 10 ∣ bytes → 2 ^ 10 ≤ unit)
    (hone : 1 ≤ unit) : ∀ other ∈ shownUnits, other.1 ∣ bytes → other.1 ≤ unit := by
  intro other hother
  rw [shownUnits] at hother
  simp only [List.mem_cons, List.not_mem_nil, or_false] at hother
  rcases hother with rfl | rfl | rfl | rfl
  · exact hgibi
  · exact hmebi
  · exact hkibi
  · exact fun _ => hone

lemma showsLargest_text (h : HeapSize) : ShowsLargest h.text.toList h.bytes.toNat := by
  rw [text, String.toList_ofList, chars]
  generalize h.bytes.toNat = bytes
  have hg : gibi = 2 ^ 30 := rfl
  have hm : mebi = 2 ^ 20 := rfl
  have hk : kibi = 2 ^ 10 := rfl
  simp only [hg, hm, hk, ← Nat.dvd_iff_mod_eq_zero]
  split
  · next hgibi =>
    exact ⟨2 ^ 30, ['g'], by simp [shownUnits], hgibi,
      largest_of (fun _ => Nat.le_refl _) (fun _ => by decide) (fun _ => by decide) (by decide),
      rfl⟩
  split
  · next hgibi hmebi =>
    exact ⟨2 ^ 20, ['m'], by simp [shownUnits], hmebi,
      largest_of (absurd · hgibi) (fun _ => Nat.le_refl _) (fun _ => by decide) (by decide), rfl⟩
  split
  · next hgibi hmebi hkibi =>
    exact ⟨2 ^ 10, ['k'], by simp [shownUnits], hkibi,
      largest_of (absurd · hgibi) (absurd · hmebi) (fun _ => Nat.le_refl _) (by decide), rfl⟩
  · next hgibi hmebi hkibi =>
    exact ⟨1, [], by simp [shownUnits], Nat.one_dvd _,
      largest_of (absurd · hgibi) (absurd · hmebi) (absurd · hkibi) (Nat.le_refl _),
      by simp [digits]⟩

lemma ShowsLargest.writes {bytes : Nat} (h : ShowsLargest cs bytes) : Writes cs bytes := by
  obtain ⟨unit, suffix, hmem, hdvd, -, rfl⟩ := h
  have hsuffix : Denotes suffix unit := by
    simp only [shownUnits, List.mem_cons, List.not_mem_nil, or_false, Prod.mk.injEq] at hmem
    rcases hmem with ⟨rfl, rfl⟩ | ⟨rfl, rfl⟩ | ⟨rfl, rfl⟩ | ⟨rfl, rfl⟩
    · exact .inr ⟨'g', rfl, by decide⟩
    · exact .inr ⟨'m', rfl, by decide⟩
    · exact .inr ⟨'k', rfl, by decide⟩
    · exact .inl ⟨rfl, rfl⟩
  exact ⟨[], _, suffix, [], _, unit, (List.append_nil _).symm, nofun, nofun, counts_digits _,
    hsuffix, (Nat.div_mul_cancel hdvd).symm⟩

lemma exists_toList_text (h : HeapSize) :
    ∃ c cs, h.text.toList = c :: cs ∧ isDigit c = true := by
  obtain ⟨unit, suffix, -, -, -, htext⟩ := showsLargest_text h
  cases hdigits : Nat.toDigits 10 (h.bytes.toNat / unit) with
  | nil => exact absurd hdigits Nat.toDigits_ne_nil
  | cons c cs =>
    rw [hdigits] at htext
    exact ⟨c, cs ++ suffix, htext,
      Nat.isDigit_of_mem_toDigits (by decide) (by decide) (hdigits ▸ List.mem_cons_self)⟩

/-- A heap size comes back from its text, unless it is nothing. -/
lemma parse?_text (h : HeapSize) : parse? h.text = if 0 < h.bytes then some h else none := by
  have hwrites := (showsLargest_text h).writes
  have hiff : 0 < h.bytes ↔ 0 < h.bytes.toNat := UInt64.lt_iff_toNat_lt
  by_cases hpos : 0 < h.bytes
  · rw [if_pos hpos]
    exact parse?_eq_some_iff.2 ⟨hwrites, hiff.1 hpos⟩
  · rw [if_neg hpos]
    refine Option.eq_none_iff_forall_ne_some.2 fun h' hparse => hpos (hiff.2 ?_)
    obtain ⟨hwrites', hpos'⟩ := parse?_eq_some_iff.1 hparse
    rwa [hwrites.unique hwrites']

/-! ### Both ways -/

/-- A text is read as a heap size exactly if it writes between one byte and as many as 64 bits
hold, and it is read as that number.  Every such heap size is shown in the largest unit that divides
it, and comes back from there. -/
theorem textFaithful :
    (∀ text n, (∃ h, parse? text = some h ∧ h.bytes.toNat = n) ↔
      Writes text.toList n ∧ 1 ≤ n ∧ n ≤ 2 ^ 64 - 1) ∧
      ∀ h : HeapSize, 1 ≤ h.bytes.toNat →
        parse? h.text = some h ∧ ShowsLargest h.text.toList h.bytes.toNat := by
  refine ⟨fun text n => ⟨?_, ?_⟩, fun h hpos => ⟨?_, showsLargest_text h⟩⟩
  · rintro ⟨h, hparse, rfl⟩
    obtain ⟨hwrites, hpos⟩ := parse?_eq_some_iff.1 hparse
    exact ⟨hwrites, hpos, Nat.le_sub_one_of_lt h.bytes.toNat_lt⟩
  · rintro ⟨hwrites, hpos, hle⟩
    have hn : (UInt64.ofNat n).toNat = n :=
      UInt64.toNat_ofNat_of_lt' (Nat.lt_of_le_pred (by decide) hle)
    refine ⟨⟨.ofNat n⟩, parse?_eq_some_iff.2 ?_, hn⟩
    rw [hn]
    exact ⟨hwrites, hpos⟩
  · exact parse?_eq_some_iff.2 ⟨(showsLargest_text h).writes, hpos⟩

/-- A blank that is no space, a plus sign, zeros in front, a capital letter and a line end. -/
theorem textFaithful_padded :
    (∃ h, parse? "\u3000+000512K\n" = some h ∧ h.bytes.toNat = 524288) ∧
      (HeapSize.mk 524288).text = "512k" ∧
      parse? (HeapSize.mk 524288).text = some ⟨524288⟩ ∧
      ShowsLargest (HeapSize.mk 524288).text.toList 524288 := by
  refine ⟨(textFaithful.1 _ _).2 ⟨?_, by decide, by decide⟩, by decide,
    textFaithful.2 ⟨524288⟩ (by decide)⟩
  exact ⟨['\u3000'], ['+', '0', '0', '0', '5', '1', '2'], ['K'], ['\n'], 512, 2 ^ 10, by decide,
    List.all_eq_true.1 (by decide), List.all_eq_true.1 (by decide),
    ⟨['+'], ['0', '0', '0', '5', '1', '2'], rfl, .inr rfl, by decide,
      List.all_eq_true.1 (by decide), by decide⟩,
    .inr ⟨'K', rfl, by decide⟩, by decide⟩

end HeapSize

end JobSupervision
