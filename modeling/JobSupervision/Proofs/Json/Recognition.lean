/-
# What is read was written

What is read as the document of a value whose numbers are integers is one of the texts of the value
(`Doc.parse?_eq_toDoc_iff`), so that nothing else is read: the texts of values (`Json.Spells`) are
the language of the reader.  The parts come first.  A string is read in pieces, each of which has a
text of its own; a numeral stands for an integer if it has digits only, which are then the digits of
the integer; and a value begins in one of ten ways (`Front`), each of which leaves what is behind
the value to be read by less fuel.
-/
import JobSupervision.Proofs.Json.Reading
import Mathlib.Data.List.Induction
import Mathlib.Tactic.SplitIfs

namespace JobSupervision.Json

/-! ### Strings -/

lemma isHex_of_hexValue? {c : Char} {v : Nat} (h : hexValue? c = some v) : IsHex c v := by
  have hall : ∀ n < 128, ∀ v ∈ hexValue? (Char.ofNat n),
      v < 16 ∧ (Char.ofNat n = v.digitChar ∨ Char.ofNat n = v.digitChar.toUpper) := by decide
  have hcode : c.toNat < 128 := by
    rw [hexValue?] at h
    split_ifs at h <;> omega
  have hc := hall c.toNat hcode v (by rwa [Char.ofNat_toNat])
  rwa [Char.ofNat_toNat] at hc

lemma isQuad_of_hexQuad? {a b c d : Char} {code : Nat} (h : hexQuad? a b c d = some code) :
    IsQuad [a, b, c, d] code := by
  simp only [hexQuad?, Option.bind_eq_bind, Option.bind_eq_some_iff] at h
  obtain ⟨v₁, ha, v₂, hb, v₃, hc, v₄, hd, heq⟩ := h
  cases heq
  exact ⟨a, b, c, d, v₁, v₂, v₃, v₄, rfl, isHex_of_hexValue? ha, isHex_of_hexValue? hb,
    isHex_of_hexValue? hc, isHex_of_hexValue? hd, rfl⟩

lemma IsQuad.lt {s : List Char} {unit : Nat} (h : IsQuad s unit) : unit < 0x10000 := by
  obtain ⟨a, b, c, d, v₁, v₂, v₃, v₄, -, ⟨h₁, -⟩, ⟨h₂, -⟩, ⟨h₃, -⟩, ⟨h₄, -⟩, rfl⟩ := h
  omega

lemma mem_escapeLetters_of_letterEscape? {e c : Char} (h : letterEscape? e = some c) :
    (e, c) ∈ escapeLetters := by
  rw [letterEscape?] at h
  split_ifs at h <;> cases h <;> simp [escapeLetters, *]

/-- A text of some pieces of a string. -/
inductive SpellsPieces : List Char → List Piece → Prop
  /-- No pieces. -/
  | nil : SpellsPieces [] []
  /-- A character and others. -/
  | char {s t : List Char} {c : Char} {pieces : List Piece} (h : SpellsChar s c)
    (ht : SpellsPieces t pieces) : SpellsPieces (s ++ t) (.char c :: pieces)
  /-- A unit that is escaped and others. -/
  | unit {s t : List Char} {code : Nat} {pieces : List Piece} (h : IsQuad s code)
    (ht : SpellsPieces t pieces) : SpellsPieces ('\\' :: 'u' :: (s ++ t)) (.unit code :: pieces)

lemma exists_spellsPieces {cs rest : List Char} {pieces : List Piece}
    (h : readPieces cs = some (pieces, rest)) :
    ∃ s, cs = s ++ '"' :: rest ∧ SpellsPieces s pieces := by
  fun_induction readPieces cs generalizing pieces with
  | case1 => cases h
  | case2 rest =>
    cases h
    exact ⟨[], rfl, .nil⟩
  | case3 => cases h
  | case4 a b c d cs code hquad ih =>
    obtain ⟨r, hr, heq⟩ := Option.map_eq_some_iff.1 h
    cases heq
    obtain ⟨s, rfl, hs⟩ := ih hr
    exact ⟨_, rfl, .unit (isQuad_of_hexQuad? hquad) hs⟩
  | case5 => cases h
  | case6 e cs _ c hletter ih =>
    obtain ⟨r, hr, heq⟩ := Option.map_eq_some_iff.1 h
    cases heq
    obtain ⟨s, rfl, hs⟩ := ih hr
    exact ⟨_, rfl, .char (.letter (mem_escapeLetters_of_letterEscape? hletter)) hs⟩
  | case7 => cases h
  | case8 c cs hquote _ _ hvisible ih =>
    simp only [Bool.or_eq_true, decide_eq_true_eq, not_or, Nat.not_lt] at hvisible
    obtain ⟨r, hr, heq⟩ := Option.map_eq_some_iff.1 h
    cases heq
    obtain ⟨s, rfl, hs⟩ := ih hr
    exact ⟨_, rfl, .char (.plain hvisible.1 hquote hvisible.2) hs⟩

lemma toNat_ofNat {n : Nat} (h : n.isValidChar) : (Char.ofNat n).toNat = n := by
  rw [Char.ofNat, dif_pos h]
  rfl

lemma spellsChar_of_unit {s : List Char} {code : Nat} (h : IsQuad s code)
    (hhigh : isHigh code = false) (hlow : isLow code = false) :
    SpellsChar ('\\' :: 'u' :: s) (Char.ofNat code) := by
  simp only [isHigh, isLow, Bool.and_eq_false_iff, decide_eq_false_iff_not] at hhigh hlow
  have hlt := h.lt
  have hvalid : code.isValidChar := by
    unfold Nat.isValidChar
    omega
  refine .unit ?_
  rwa [toNat_ofNat hvalid]

/-- Two halves of a pair are the code of a character. -/
lemma spellsChar_of_pair {s t : List Char} {high low : Nat} (hs : IsQuad s high)
    (ht : IsQuad t low) (hhigh : isHigh high = true) (hlow : isLow low = true) :
    SpellsChar ('\\' :: 'u' :: (s ++ '\\' :: 'u' :: t))
      (Char.ofNat (0x10000 + (high - 0xD800) * 0x400 + (low - 0xDC00))) := by
  simp only [isHigh, isLow, Bool.and_eq_true, decide_eq_true_eq] at hhigh hlow
  have hvalid : (0x10000 + (high - 0xD800) * 0x400 + (low - 0xDC00)).isValidChar := by
    unfold Nat.isValidChar
    omega
  exact .pair hs ht hhigh hlow (toNat_ofNat hvalid)

lemma SpellsPieces.spellsChars {s cs : List Char} {pieces : List Piece}
    (h : SpellsPieces s pieces) (hjoin : joinPieces pieces = some cs) : SpellsChars s cs := by
  fun_induction joinPieces pieces generalizing s cs with
  | case1 =>
    cases h
    cases hjoin
    exact .nil
  | case2 c pieces ih =>
    obtain ⟨cs, hcs, rfl⟩ := Option.map_eq_some_iff.1 hjoin
    cases h with
    | char hc ht => exact .cons hc (ih ht hcs)
  | case3 high low pieces hhigh hlow ih =>
    obtain ⟨cs, hcs, rfl⟩ := Option.map_eq_some_iff.1 hjoin
    rcases h with - | - | ⟨hs, - | - | ⟨ht, hmore⟩⟩
    have hpair := SpellsChars.cons (spellsChar_of_pair hs ht hhigh hlow) (ih hmore hcs)
    simpa using hpair
  | case4 => cases hjoin
  | case5 => cases hjoin
  | case6 code l pieces hhigh hlow ih =>
    obtain ⟨cs, hcs, rfl⟩ := Option.map_eq_some_iff.1 hjoin
    cases h with
    | unit hs ht =>
      exact .cons (spellsChar_of_unit hs (by simpa using hhigh) (by simpa using hlow)) (ih ht hcs)
  | case7 => cases hjoin
  | case8 code pieces _ hhalf ih =>
    obtain ⟨cs, hcs, rfl⟩ := Option.map_eq_some_iff.1 hjoin
    simp only [Bool.or_eq_true, not_or, Bool.not_eq_true] at hhalf
    cases h with
    | unit hs ht => exact .cons (spellsChar_of_unit hs hhalf.1 hhalf.2) (ih ht hcs)

lemma exists_spellsChars {cs rest : List Char} {text : String}
    (h : readString cs = some (some text, rest)) :
    ∃ s, cs = s ++ '"' :: rest ∧ SpellsChars s text.toList := by
  obtain ⟨⟨pieces, after⟩, hread, heq⟩ := Option.map_eq_some_iff.1 h
  obtain ⟨htext, rfl⟩ := Prod.mk.inj heq
  obtain ⟨chars, hjoin, rfl⟩ := Option.map_eq_some_iff.1 htext
  obtain ⟨s, rfl, hs⟩ := exists_spellsPieces hread
  exact ⟨s, rfl, by rw [String.toList_ofList]; exact hs.spellsChars hjoin⟩

/-! ### Numbers -/

lemma digitChar_of_isDigit {c : Char} (h : isDigit c = true) :
    c.toNat - 0x30 < 10 ∧ (c.toNat - 0x30).digitChar = c := by
  have hall : ∀ d < 10, d.digitChar = Char.ofNat (d + 0x30) := by decide
  simp only [isDigit, Bool.and_eq_true, decide_eq_true_eq, Char.le_def,
    UInt32.le_iff_toNat_le] at h
  obtain ⟨hlow, hhigh⟩ : 0x30 ≤ c.toNat ∧ c.toNat ≤ 0x39 := h
  refine ⟨by omega, ?_⟩
  rw [hall _ (by omega), Nat.sub_add_cancel hlow, Char.ofNat_toNat]

lemma toDigits_ofDigits {cs : List Char} (hne : cs ≠ []) (hall : ∀ c ∈ cs, isDigit c = true)
    (hzero : ∀ c more, cs ≠ '0' :: c :: more) :
    Nat.toDigits 10 (ofDigits (cs.map fun c => c.toNat - 0x30)) = cs := by
  -- the last digit is the one that a division by ten takes off
  induction cs using List.reverseRecOn with
  | nil => exact absurd rfl hne
  | append_singleton cs c ih =>
    obtain ⟨hlt, hchar⟩ := digitChar_of_isDigit (hall c (by simp))
    by_cases hcs : cs = []
    · subst hcs
      have hvalue : ofDigits ([c].map fun c => c.toNat - 0x30) = c.toNat - 0x30 := by
        simp [ofDigits]
      rw [List.nil_append, hvalue, Nat.toDigits_of_lt_base hlt, hchar]
    · have hdigits := ih hcs (fun d hd => hall d (by simp [hd])) fun d more h =>
        hzero d (more ++ [c]) (by simp [h])
      have hvalue : ofDigits ((cs ++ [c]).map fun c => c.toNat - 0x30) =
          ofDigits (cs.map fun c => c.toNat - 0x30) * 10 + (c.toNat - 0x30) := by
        simp [ofDigits]
      generalize ofDigits (cs.map fun c => c.toNat - 0x30) = n at hdigits hvalue
      -- otherwise a zero alone would stand in front of the last digit
      have hpos : n ≠ 0 := by
        rintro rfl
        rw [Nat.toDigits_zero] at hdigits
        exact hzero c [] (by rw [← hdigits]; rfl)
      have happend := Nat.toDigits_append_toDigits (by decide) (Nat.pos_of_ne_zero hpos) hlt
      rw [hvalue, Nat.mul_comm, ← happend, hdigits, Nat.toDigits_of_lt_base hlt, hchar]

lemma readWhole_eq_some {cs rest : List Char} {ds : List Nat}
    (h : readWhole cs = some (ds, rest)) : cs = Nat.toDigits 10 (ofDigits ds) ++ rest := by
  rw [readWhole] at h
  split at h
  · cases h
  · cases h
  · next ds rest hnil hzero heq =>
    cases h
    obtain ⟨hds, hrest⟩ := Prod.mk.inj heq
    have hall : ∀ c ∈ cs.takeWhile isDigit, isDigit c = true :=
      List.all_eq_true.1 List.all_takeWhile
    have hne : cs.takeWhile isDigit ≠ [] := fun hempty => hnil (by rw [← hds, hempty]; rfl)
    have hfront : ∀ c more, cs.takeWhile isDigit ≠ '0' :: c :: more :=
      fun c more hmore => hzero _ _ (by rw [← hds, hmore]; rfl)
    rw [← hds, toDigits_ofDigits hne hall hfront, ← hrest, List.takeWhile_append_dropWhile]

lemma takeWord_eq {value head : Nat} {ds : List Nat} (hvalue : value ≤ maxWord)
    (h : takeWord value ds = (head, [])) :
    head = ds.foldl (fun n d => n * 10 + d) value ∧ head ≤ maxWord := by
  induction ds generalizing value with
  | nil =>
    cases h
    exact ⟨rfl, hvalue⟩
  | cons d ds ih =>
    rw [takeWord] at h
    split_ifs at h with hlarge
    · cases h
    · exact ih (Nat.le_of_not_lt hlarge) h

lemma Numeral.toFloat_ne_int (negative : Bool) (significand : Nat) (power v : Int) :
    Numeral.toFloat negative significand power ≠ some (.int v) := by
  intro h
  obtain ⟨x, -, hx⟩ := Option.map_eq_some_iff.1 h
  cases hx

/-- A numeral that stands for an integer has digits only, and no zero behind a minus sign. -/
lemma Numeral.of_value?_eq_int {negative : Bool} {whole : List Nat}
    {fraction : Option (List Nat)} {power : Option Int} {v : Int}
    (h : Numeral.value? ⟨negative, whole, fraction, power⟩ = some (.int v)) :
    fraction = none ∧ power = none ∧
      (negative = false ∧ ofDigits whole ≤ 0xffffffffffffffff ∧ v = ofDigits whole ∨
        negative = true ∧ 0 < ofDigits whole ∧ ofDigits whole ≤ 0x8000000000000000 ∧
          v = -(ofDigits whole : Int)) := by
  rcases htake : takeWord 0 whole with ⟨head, rest⟩
  rw [Numeral.value?] at h
  simp only [htake] at h
  split at h
  · refine ⟨rfl, rfl, ?_⟩
    split_ifs at h with hrest hpositive hrange
    · exact absurd h (toFloat_ne_int _ _ _ _)
    · obtain rfl : rest = [] := by simpa using hrest
      obtain ⟨rfl, hword⟩ := takeWord_eq (by decide) htake
      cases h
      exact .inl ⟨by simpa using hpositive, hword, rfl⟩
    · exact absurd h (toFloat_ne_int _ _ _ _)
    · obtain rfl : rest = [] := by simpa using hrest
      obtain ⟨rfl, -⟩ := takeWord_eq (by decide) htake
      obtain ⟨hpos, hle⟩ := not_or.1 hrange
      cases h
      exact .inr ⟨by simpa using hpositive, Nat.pos_of_ne_zero hpos, Nat.le_of_not_lt hle, rfl⟩
  · split at h
    · exact absurd h (toFloat_ne_int _ _ _ _)
    · split_ifs at h
      all_goals first | cases h | exact absurd h (toFloat_ne_int _ _ _ _)

lemma readFraction_eq_none {cs rest : List Char} (h : readFraction cs = some (none, rest)) :
    cs = rest := by
  rw [readFraction.eq_def] at h
  split at h
  · split at h <;> cases h
  · cases h
    rfl

lemma readPower_eq_none {cs rest : List Char} (h : readPower cs = some (none, rest)) :
    cs = rest := by
  rw [readPower.eq_def] at h
  split at h
  · split_ifs at h
    · simp only at h
      split at h <;> cases h
    · cases h
      rfl
  · cases h
    rfl

/-- What is read as an integer are its digits. -/
lemma readNumeral_eq_int {negative : Bool} {cs rest : List Char} {n : Numeral} {v : Int}
    (h : readNumeral negative cs = some (n, rest)) (hv : n.toDoc = .num (.int v)) :
    ∃ m : Nat, cs = Nat.toDigits 10 m ++ rest ∧
      (negative = false ∧ m ≤ 0xffffffffffffffff ∧ v = m ∨
        negative = true ∧ 0 < m ∧ m ≤ 0x8000000000000000 ∧ v = -(m : Int)) := by
  simp only [readNumeral, Option.bind_eq_bind, Option.bind_eq_some_iff] at h
  obtain ⟨⟨whole, afterWhole⟩, hwhole, ⟨fraction, afterFraction⟩, hfraction, ⟨power, after⟩,
    hpower, heq⟩ := h
  cases heq
  have hvalue : Numeral.value? ⟨negative, whole, fraction, power⟩ = some (.int v) := by
    rw [Numeral.toDoc] at hv
    split at hv
    · next heq =>
      cases hv
      exact heq
    · cases hv
  obtain ⟨rfl, rfl, hsign⟩ := Numeral.of_value?_eq_int hvalue
  obtain rfl := readFraction_eq_none hfraction
  obtain rfl := readPower_eq_none hpower
  exact ⟨ofDigits whole, readWhole_eq_some hwhole, hsign⟩

/-! ### Blanks -/

lemma exists_blanks {cs rest : List Char} (h : skipSpace cs = rest) :
    ∃ blanks, (∀ c ∈ blanks, isSpace c = true) ∧ cs = blanks ++ rest := by
  subst h
  exact ⟨cs.takeWhile isSpace, List.all_eq_true.1 List.all_takeWhile,
    List.takeWhile_append_dropWhile.symm⟩

section Blanks

variable {blanks s : List Char} {j : Json}

lemma Spells.blanks_append (h : Spells s j) (hblanks : ∀ c ∈ blanks, isSpace c = true) :
    Spells (blanks ++ s) j := by
  induction blanks with
  | nil => exact h
  | cons c blanks ih =>
    obtain ⟨hc, hblanks⟩ := List.forall_mem_cons.1 hblanks
    exact .before hc (ih hblanks)

lemma Spells.append_blanks (h : Spells s j) (hblanks : ∀ c ∈ blanks, isSpace c = true) :
    Spells (s ++ blanks) j := by
  induction blanks using List.reverseRecOn with
  | nil => rwa [List.append_nil]
  | append_singleton blanks c ih =>
    rw [← List.append_assoc]
    exact .after (hblanks c (by simp)) (ih fun d hd => hblanks d (by simp [hd]))

/-- The blanks behind a value belong to a text of it. -/
lemma exists_spells_of_skipSpace {cs behind rest : List Char}
    (h : ∃ s, cs = s ++ behind ∧ Spells s j) (hskip : skipSpace behind = rest) :
    ∃ s, cs = s ++ rest ∧ Spells s j := by
  obtain ⟨s, rfl, hs⟩ := h
  obtain ⟨blanks, hblanks, rfl⟩ := exists_blanks hskip
  exact ⟨s ++ blanks, (List.append_assoc _ _ _).symm, hs.append_blanks hblanks⟩

end Blanks

/-! ### Documents of values -/

mutual

/-- A document is that of one value only. -/
theorem toDoc_inj : ∀ {j k : Json}, j.toDoc = k.toDoc → j = k
  | .arr items, .arr items', h => by
    rw [toDoc, toDoc, Doc.arr.injEq] at h
    rw [itemsToDoc_inj h]
  | .obj members, .obj members', h => by
    rw [toDoc, toDoc, Doc.obj.injEq] at h
    rw [membersToDoc_inj h]
  | .null, k, h => by cases k <;> simp_all [toDoc]
  | .bool b, k, h => by cases k <;> simp_all [toDoc]
  | .num n, k, h => by cases k <;> simp_all [toDoc]
  | .str s, k, h => by cases k <;> simp_all [toDoc]

theorem itemsToDoc_inj : ∀ {items items' : List Json},
    itemsToDoc items = itemsToDoc items' → items = items'
  | [], [], _ => rfl
  | j :: items, k :: items', h => by
    rw [itemsToDoc, itemsToDoc, List.cons.injEq] at h
    rw [toDoc_inj h.1, itemsToDoc_inj h.2]

theorem membersToDoc_inj : ∀ {members members' : List (String × Json)},
    membersToDoc members = membersToDoc members' → members = members'
  | [], [], _ => rfl
  | (key, j) :: members, (key', k) :: members', h => by
    rw [membersToDoc, membersToDoc, List.cons.injEq, Prod.mk.injEq, Option.some.injEq] at h
    rw [h.1.1, toDoc_inj h.1.2, membersToDoc_inj h.2]

end

section Documents

variable {j : Json} {depth : Nat}

lemma toDoc_ne_unreadable (j : Json) : j.toDoc ≠ .unreadable := by
  cases j <;> simp [toDoc]

lemma exists_arr_of_toDoc {items : List Doc} (h : j.toDoc = container depth (.arr items)) :
    ∃ js, j = .arr js ∧ items = itemsToDoc js := by
  rw [container] at h
  split_ifs at h
  · exact absurd h (toDoc_ne_unreadable j)
  · cases j <;> simp_all [toDoc]

lemma exists_obj_of_toDoc {members : List (Option String × Doc)}
    (h : j.toDoc = container depth (.obj members)) :
    ∃ js, j = .obj js ∧ members = membersToDoc js := by
  rw [container] at h
  split_ifs at h
  · exact absurd h (toDoc_ne_unreadable j)
  · cases j <;> simp_all [toDoc]

lemma exists_int_of_toDoc {n : Numeral} (h : j.toDoc = n.toDoc) (hj : j.Plain depth) :
    ∃ v, j = .num (.int v) ∧ n.toDoc = .num (.int v) := by
  rw [Numeral.toDoc] at h ⊢
  split at h
  · next v hvalue =>
    obtain rfl : j = .num v := toDoc_inj h
    cases v with
    | int v => exact ⟨v, rfl, rfl⟩
    | float x =>
      rw [Plain] at hj
      exact hj.elim
  · exact absurd h (toDoc_ne_unreadable j)

end Documents

/-! ### Values -/

/-- What a value begins with, and what is read behind that. -/
inductive Front (fuel depth : Nat) (rest : List Char) : List Char → Doc → Prop
  /-- The word `null`. -/
  | null : Front fuel depth rest ('n' :: 'u' :: 'l' :: 'l' :: rest) .null
  /-- The word `true`. -/
  | yes : Front fuel depth rest ('t' :: 'r' :: 'u' :: 'e' :: rest) (.bool true)
  /-- The word `false`. -/
  | no : Front fuel depth rest ('f' :: 'a' :: 'l' :: 's' :: 'e' :: rest) (.bool false)
  /-- A string. -/
  | str {cs : List Char} {text : Option String} (h : readString cs = some (text, rest)) :
    Front fuel depth rest ('"' :: cs) (text.elim .unreadable .str)
  /-- An empty list. -/
  | emptyArr {cs : List Char} (h : skipSpace cs = ']' :: rest) :
    Front fuel depth rest ('[' :: cs) (container depth (.arr []))
  /-- A list of items. -/
  | arr {cs : List Char} {items : List Doc}
    (h : readItems fuel (depth - 1) cs = some (items, rest)) :
    Front fuel depth rest ('[' :: cs) (container depth (.arr items))
  /-- An empty object. -/
  | emptyObj {cs : List Char} (h : skipSpace cs = '\x7d' :: rest) :
    Front fuel depth rest ('\x7b' :: cs) (container depth (.obj []))
  /-- An object of members. -/
  | obj {cs : List Char} {members : List (Option String × Doc)}
    (h : readMembers fuel (depth - 1) cs = some (members, rest)) :
    Front fuel depth rest ('\x7b' :: cs) (container depth (.obj members))
  /-- A number with a minus sign. -/
  | negative {cs : List Char} {n : Numeral} (h : readNumeral true cs = some (n, rest)) :
    Front fuel depth rest ('-' :: cs) n.toDoc
  /-- A number without one. -/
  | positive {cs : List Char} {n : Numeral} (h : readNumeral false cs = some (n, rest)) :
    Front fuel depth rest cs n.toDoc

lemma readWord_eq_some {word cs rest : List Char} {d d' : Doc}
    (h : readWord word d cs = some (d', rest)) : d' = d ∧ cs = word ++ rest := by
  rw [readWord] at h
  split_ifs at h with hprefix
  obtain ⟨more, rfl⟩ := List.isPrefixOf_iff_prefix.1 hprefix
  rw [List.drop_left] at h
  cases h
  exact ⟨rfl, rfl⟩

/-- What is read as a value begins in one of these ways. -/
lemma front_of_readValue {fuel depth : Nat} {cs rest : List Char} {d : Doc}
    (h : readValue (fuel + 1) depth cs = some (d, rest)) :
    Front fuel depth rest (skipSpace cs) d := by
  rw [readValue] at h
  split at h
  · cases h
  · next cs hfront =>
    obtain ⟨r, hr, heq⟩ := Option.map_eq_some_iff.1 h
    cases heq
    rw [hfront]
    exact .str hr
  · next cs hfront =>
    rw [hfront]
    split at h
    · next hclose =>
      cases h
      exact .emptyArr hclose
    · obtain ⟨r, hr, heq⟩ := Option.map_eq_some_iff.1 h
      cases heq
      rw [readItems_congr (skipSpace_skipSpace cs)] at hr
      exact .arr hr
  · next cs hfront =>
    rw [hfront]
    split at h
    · next hclose =>
      cases h
      exact .emptyObj hclose
    · obtain ⟨r, hr, heq⟩ := Option.map_eq_some_iff.1 h
      cases heq
      rw [readMembers_congr (skipSpace_skipSpace cs)] at hr
      exact .obj hr
  · next cs hfront =>
    obtain ⟨r, hr, heq⟩ := Option.map_eq_some_iff.1 h
    cases heq
    rw [hfront]
    exact .negative hr
  · next c cs _ _ _ _ hfront =>
    rw [hfront]
    split_ifs at h with hn ht hf hdigit
    · obtain ⟨rfl, rfl⟩ := readWord_eq_some h
      exact hn ▸ .null
    · obtain ⟨rfl, rfl⟩ := readWord_eq_some h
      exact ht ▸ .yes
    · obtain ⟨rfl, rfl⟩ := readWord_eq_some h
      exact hf ▸ .no
    · obtain ⟨r, hr, heq⟩ := Option.map_eq_some_iff.1 h
      cases heq
      exact .positive hr

/-- A list of items goes on behind a comma or is closed. -/
lemma readItems_eq_some {fuel depth : Nat} {cs rest : List Char} {items : List Doc}
    (h : readItems (fuel + 1) depth cs = some (items, rest)) :
    ∃ d behind, readValue fuel depth cs = some (d, behind) ∧
      ((∃ more items', skipSpace behind = ',' :: more ∧
          readItems fuel depth more = some (items', rest) ∧ items = d :: items') ∨
        skipSpace behind = ']' :: rest ∧ items = [d]) := by
  rw [readItems] at h
  split at h
  · cases h
  · next d behind hread =>
    refine ⟨d, behind, hread, ?_⟩
    split at h
    · next more hnext =>
      obtain ⟨r, hr, heq⟩ := Option.map_eq_some_iff.1 h
      cases heq
      exact .inl ⟨more, r.1, hnext, hr, rfl⟩
    · next hclose =>
      cases h
      exact .inr ⟨hclose, rfl⟩
    · cases h

/-- Members have a key and a value each; they go on behind a comma or are closed. -/
lemma readMembers_eq_some {fuel depth : Nat} {cs rest : List Char}
    {members : List (Option String × Doc)}
    (h : readMembers (fuel + 1) depth cs = some (members, rest)) :
    ∃ k key behindKey value d behind, skipSpace cs = '"' :: k ∧
      readString k = some (key, behindKey) ∧ skipSpace behindKey = ':' :: value ∧
      readValue fuel depth value = some (d, behind) ∧
      ((∃ more members', skipSpace behind = ',' :: more ∧
          readMembers fuel depth more = some (members', rest) ∧ members = (key, d) :: members') ∨
        skipSpace behind = '\x7d' :: rest ∧ members = [(key, d)]) := by
  rw [readMembers] at h
  split at h
  · next k hquote =>
    split at h
    · cases h
    · next key behindKey hkey =>
      split at h
      · next value hcolon =>
        split at h
        · cases h
        · next d behind hread =>
          refine ⟨k, key, behindKey, value, d, behind, hquote, hkey, hcolon, hread, ?_⟩
          split at h
          · next more hnext =>
            obtain ⟨r, hr, heq⟩ := Option.map_eq_some_iff.1 h
            cases heq
            exact .inl ⟨more, r.1, hnext, hr, rfl⟩
          · next hclose =>
            cases h
            exact .inr ⟨hclose, rfl⟩
          · cases h
      · cases h
  · cases h

lemma exists_spells_key {cs k behind rest : List Char} {key : String}
    (hquote : skipSpace cs = '"' :: k) (hkey : readString k = some (some key, behind))
    (hcolon : skipSpace behind = rest) : ∃ s, cs = s ++ rest ∧ Spells s (.str key) := by
  obtain ⟨blanks, hblanks, rfl⟩ := exists_blanks hquote
  obtain ⟨s, rfl, hs⟩ := exists_spellsChars hkey
  refine exists_spells_of_skipSpace ⟨blanks ++ '"' :: (s ++ ['"']), by simp, ?_⟩ hcolon
  exact (Spells.str hs).blanks_append hblanks

mutual

/-- What is read as the document of a plain value is one of its texts. -/
theorem spells_of_readValue : ∀ {fuel depth d : Nat} {cs rest : List Char} {j : Json},
    readValue fuel depth cs = some (j.toDoc, rest) → j.Plain d → ∃ s, cs = s ++ rest ∧ Spells s j
  | 0, _, _, _, _, _, h, _ => by cases h
  | fuel + 1, depth, d, cs, rest, j, h, hj => by
    -- the blanks in front belong to a text of the value as well
    suffices hfront : ∃ s, skipSpace cs = s ++ rest ∧ Spells s j by
      obtain ⟨s, hskip, hs⟩ := hfront
      obtain ⟨blanks, hblanks, rfl⟩ := exists_blanks hskip
      exact ⟨blanks ++ s, (List.append_assoc _ _ _).symm, hs.blanks_append hblanks⟩
    have hread := front_of_readValue h
    generalize skipSpace cs = front at hread
    generalize hdoc : j.toDoc = doc at hread
    cases hread with
    | null => exact ⟨['n', 'u', 'l', 'l'], rfl, toDoc_inj (k := .null) hdoc ▸ .null⟩
    | yes => exact ⟨['t', 'r', 'u', 'e'], rfl, toDoc_inj (k := .bool true) hdoc ▸ .yes⟩
    | no => exact ⟨['f', 'a', 'l', 's', 'e'], rfl, toDoc_inj (k := .bool false) hdoc ▸ .no⟩
    | @str cs text hstr =>
      cases text with
      | none => exact absurd hdoc (toDoc_ne_unreadable j)
      | some text =>
        obtain ⟨s, rfl, hs⟩ := exists_spellsChars hstr
        obtain rfl : j = .str text := toDoc_inj hdoc
        exact ⟨'"' :: (s ++ ['"']), by simp, .str hs⟩
    | emptyArr hclose =>
      obtain ⟨js, rfl, hitems⟩ := exists_arr_of_toDoc hdoc
      obtain rfl : js = [] := itemsToDoc_inj hitems.symm
      obtain ⟨blanks, hblanks, rfl⟩ := exists_blanks hclose
      exact ⟨'[' :: (blanks ++ [']']), by simp, .emptyArr hblanks⟩
    | arr hitems =>
      obtain ⟨js, rfl, rfl⟩ := exists_arr_of_toDoc hdoc
      rw [Plain] at hj
      obtain ⟨s, rfl, hs⟩ := spells_of_readItems hitems hj.2
      exact ⟨'[' :: (s ++ [']']), by simp, .arr hs⟩
    | emptyObj hclose =>
      obtain ⟨js, rfl, hmembers⟩ := exists_obj_of_toDoc hdoc
      obtain rfl : js = [] := membersToDoc_inj hmembers.symm
      obtain ⟨blanks, hblanks, rfl⟩ := exists_blanks hclose
      exact ⟨'\x7b' :: (blanks ++ ['\x7d']), by simp, .emptyObj hblanks⟩
    | obj hmembers =>
      obtain ⟨js, rfl, rfl⟩ := exists_obj_of_toDoc hdoc
      rw [Plain] at hj
      obtain ⟨s, rfl, hs⟩ := spells_of_readMembers hmembers hj.2
      exact ⟨'\x7b' :: (s ++ ['\x7d']), by simp, .obj hs⟩
    | negative hnum =>
      obtain ⟨v, rfl, hv⟩ := exists_int_of_toDoc hdoc hj
      obtain ⟨m, rfl, ⟨⟨⟩, -⟩ | ⟨-, hpos, hle, rfl⟩⟩ := readNumeral_eq_int hnum hv
      exact ⟨'-' :: Nat.toDigits 10 m, rfl, .negative hpos hle⟩
    | positive hnum =>
      obtain ⟨v, rfl, hv⟩ := exists_int_of_toDoc hdoc hj
      obtain ⟨m, rfl, ⟨-, hle, rfl⟩ | ⟨⟨⟩, -⟩⟩ := readNumeral_eq_int hnum hv
      exact ⟨Nat.toDigits 10 m, rfl, .nat hle⟩

/-- What is read as items is a text of them. -/
theorem spells_of_readItems : ∀ {fuel depth d : Nat} {cs rest : List Char} {items : List Json},
    readItems fuel depth cs = some (itemsToDoc items, rest) → PlainItems d items →
      ∃ s, cs = s ++ ']' :: rest ∧ SpellsItems s items
  | 0, _, _, _, _, _, h, _ => by cases h
  | fuel + 1, depth, d, cs, rest, [], h, _ => by
    obtain ⟨doc, behind, -, ⟨more, docs, -, -, ⟨⟩⟩ | ⟨-, ⟨⟩⟩⟩ := readItems_eq_some h
  | fuel + 1, depth, d, cs, rest, j :: items, h, hitems => by
    rw [PlainItems] at hitems
    obtain ⟨doc, behind, hread, ⟨more, docs, hcomma, hmore, heq⟩ | ⟨hclose, heq⟩⟩ :=
      readItems_eq_some h
    · obtain ⟨rfl, rfl⟩ := List.cons.inj heq
      obtain ⟨s, rfl, hs⟩ :=
        exists_spells_of_skipSpace (spells_of_readValue hread hitems.1) hcomma
      obtain ⟨t, rfl, ht⟩ := spells_of_readItems hmore hitems.2
      exact ⟨s ++ ',' :: t, by simp, .more hs ht⟩
    · obtain ⟨rfl, hnil⟩ := List.cons.inj heq
      obtain rfl : items = [] := itemsToDoc_inj hnil
      obtain ⟨s, rfl, hs⟩ :=
        exists_spells_of_skipSpace (spells_of_readValue hread hitems.1) hclose
      exact ⟨s, rfl, .one hs⟩

/-- What is read as members is a text of them. -/
theorem spells_of_readMembers : ∀ {fuel depth d : Nat} {cs rest : List Char}
    {members : List (String × Json)},
    readMembers fuel depth cs = some (membersToDoc members, rest) → PlainMembers d members →
      ∃ s, cs = s ++ '\x7d' :: rest ∧ SpellsMembers s members
  | 0, _, _, _, _, _, h, _ => by cases h
  | fuel + 1, depth, d, cs, rest, [], h, _ => by
    obtain ⟨k, key, behindKey, value, doc, behind, -, -, -, -,
      ⟨more, docs, -, -, ⟨⟩⟩ | ⟨-, ⟨⟩⟩⟩ := readMembers_eq_some h
  | fuel + 1, depth, d, cs, rest, (name, j) :: members, h, hmembers => by
    rw [PlainMembers] at hmembers
    obtain ⟨k, key, behindKey, value, doc, behind, hquote, hkey, hcolon, hread,
      ⟨more, docs, hcomma, hmore, heq⟩ | ⟨hclose, heq⟩⟩ := readMembers_eq_some h
    · obtain ⟨hm, rfl⟩ := List.cons.inj heq
      obtain ⟨rfl, rfl⟩ := Prod.mk.inj hm
      obtain ⟨k, rfl, hk⟩ := exists_spells_key hquote hkey hcolon
      obtain ⟨s, rfl, hs⟩ :=
        exists_spells_of_skipSpace (spells_of_readValue hread hmembers.1) hcomma
      obtain ⟨t, rfl, ht⟩ := spells_of_readMembers hmore hmembers.2
      exact ⟨k ++ ':' :: (s ++ ',' :: t), by simp, .more hk hs ht⟩
    · obtain ⟨hm, hnil⟩ := List.cons.inj heq
      obtain ⟨rfl, rfl⟩ := Prod.mk.inj hm
      obtain rfl : members = [] := membersToDoc_inj hnil
      obtain ⟨k, rfl, hk⟩ := exists_spells_key hquote hkey hcolon
      obtain ⟨s, rfl, hs⟩ :=
        exists_spells_of_skipSpace (spells_of_readValue hread hmembers.1) hclose
      exact ⟨k ++ ':' :: s, by simp, .one hk hs⟩

end

/-- A text is read as the document of a plain value exactly if it is one of the texts of the
value. -/
theorem Doc.parse?_eq_toDoc_iff {s : List Char} {j : Json} (hj : j.Plain maxDepth) :
    Doc.parse? s = some j.toDoc ↔ Spells s j := by
  constructor
  · intro h
    rw [Doc.parse?] at h
    split at h
    · next d rest hread =>
      split_ifs at h with hempty
      cases h
      obtain ⟨t, rfl, ht⟩ := exists_spells_of_skipSpace (spells_of_readValue hread hj)
        (List.isEmpty_iff.1 hempty)
      rwa [List.append_nil]
    · cases h
  · intro h
    rw [Doc.parse?_spells h, within_of_plain hj]

/-- A text is a text of one plain value only. -/
theorem Spells.unique {s : List Char} {j k : Json} (hj : Spells s j) (hk : Spells s k)
    (hjplain : j.Plain maxDepth) (hkplain : k.Plain maxDepth) : j = k :=
  toDoc_inj (Option.some.inj (((Doc.parse?_eq_toDoc_iff hjplain).2 hj).symm.trans
    ((Doc.parse?_eq_toDoc_iff hkplain).2 hk)))

end JobSupervision.Json
