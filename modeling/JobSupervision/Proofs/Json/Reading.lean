/-
# Reading what was written

A text of a value is read as the document of that value (`readValue_spells`), whatever blanks come
behind it and whatever closes it; a container that is nested too deeply is unreadable there
(`Json.within`).  A string is read piece by piece, a number digit by digit, and a container by
induction on what is in it; the fuel lasts because every item has a text.  What can be read is a
value whose numbers are integers that fit into 64 bits and whose containers are not nested too
deeply (`Json.Plain`).
-/
import JobSupervision.Proofs.Json.Grammar

namespace JobSupervision.Json

mutual

/-- Whether the numbers of a value are integers that fit into 64 bits, with or without a sign, and
its containers are nested in each other so many times at most. -/
def Plain (depth : Nat) : Json → Prop
  | .num (.int n) => -0x8000000000000000 ≤ n ∧ n ≤ 0xffffffffffffffff
  | .num (.float _) => False
  | .arr items => 0 < depth ∧ PlainItems (depth - 1) items
  | .obj members => 0 < depth ∧ PlainMembers (depth - 1) members
  | _ => True

/-- Whether every value of a list is plain. -/
def PlainItems (depth : Nat) : List Json → Prop
  | [] => True
  | j :: rest => Plain depth j ∧ PlainItems depth rest

/-- Whether every value among some members is plain. -/
def PlainMembers (depth : Nat) : List (String × Json) → Prop
  | [] => True
  | (_, j) :: rest => Plain depth j ∧ PlainMembers depth rest

end

mutual

/-- The document that a value is read as where so many containers may still be entered. -/
def within (depth : Nat) : Json → Doc
  | .null => .null
  | .bool b => .bool b
  | .num n => .num n
  | .str s => .str s
  | .arr items => container depth (.arr (itemsWithin (depth - 1) items))
  | .obj members => container depth (.obj (membersWithin (depth - 1) members))

/-- The documents of some items. -/
def itemsWithin (depth : Nat) : List Json → List Doc
  | [] => []
  | j :: rest => within depth j :: itemsWithin depth rest

/-- The members of a document for some members. -/
def membersWithin (depth : Nat) : List (String × Json) → List (Option String × Doc)
  | [] => []
  | (k, j) :: rest => (some k, within depth j) :: membersWithin depth rest

end

/-! ### Strings -/

lemma hexValue?_of_isHex {c : Char} {v : Nat} (h : IsHex c v) : hexValue? c = some v := by
  have hall : ∀ v < 16,
      hexValue? v.digitChar = some v ∧ hexValue? v.digitChar.toUpper = some v := by
    decide
  obtain ⟨hv, rfl | rfl⟩ := h
  · exact (hall v hv).1
  · exact (hall v hv).2

lemma exists_hexQuad {s : List Char} {code : Nat} (h : IsQuad s code) :
    ∃ a b c d, s = [a, b, c, d] ∧ hexQuad? a b c d = some code := by
  obtain ⟨a, b, c, d, v₁, v₂, v₃, v₄, rfl, ha, hb, hc, hd, rfl⟩ := h
  refine ⟨a, b, c, d, rfl, ?_⟩
  simp [hexQuad?, hexValue?_of_isHex ha, hexValue?_of_isHex hb, hexValue?_of_isHex hc,
    hexValue?_of_isHex hd]

lemma readPieces_unit {s : List Char} {code : Nat} (h : IsQuad s code) (rest : List Char) :
    readPieces ('\\' :: 'u' :: (s ++ rest)) =
      (readPieces rest).map fun r => (.unit code :: r.1, r.2) := by
  obtain ⟨a, b, c, d, rfl, hquad⟩ := exists_hexQuad h
  simp [readPieces, hquad]

/-- A unit that is no half of a pair is a character of its own. -/
lemma joinPieces_unit {code : Nat} (hhigh : isHigh code = false) (hlow : isLow code = false)
    (rest : List Piece) :
    joinPieces (.unit code :: rest) = (joinPieces rest).map (Char.ofNat code :: ·) := by
  rcases rest with - | ⟨c | l, rest⟩ <;> simp [joinPieces, hhigh, hlow]

lemma isHigh_toNat (c : Char) : isHigh c.toNat = false ∧ isLow c.toNat = false := by
  have hvalid : c.toNat < 0xd800 ∨ 0xdfff < c.toNat ∧ c.toNat < 0x110000 := c.valid
  simp only [isHigh, isLow, Bool.and_eq_false_iff, decide_eq_false_iff_not]
  omega

/-- A text of a character is read as pieces that are put together to the character. -/
lemma SpellsChar.exists_pieces {s : List Char} {c : Char} (h : SpellsChar s c) :
    ∃ pieces, (∀ rest, readPieces (s ++ rest) =
        (readPieces rest).map fun r => (pieces ++ r.1, r.2)) ∧
      ∀ more, joinPieces (pieces ++ more) = (joinPieces more).map (c :: ·) := by
  cases h with
  | plain hvisible hquote hback =>
    refine ⟨[.char c], fun rest => ?_, fun more => rfl⟩
    rw [List.cons_append, List.nil_append, readPieces]
    · simp [hback, Nat.not_lt.2 hvisible]
    · exact hquote
    · exact fun _ _ _ _ _ h _ => hback h
    · exact fun _ _ h _ => hback h
  | letter he =>
    refine ⟨[.char c], fun rest => ?_, fun more => rfl⟩
    simp only [escapeLetters, List.mem_cons, Prod.mk.injEq, List.not_mem_nil, or_false] at he
    rcases he with ⟨rfl, rfl⟩ | ⟨rfl, rfl⟩ | ⟨rfl, rfl⟩ | ⟨rfl, rfl⟩ | ⟨rfl, rfl⟩ | ⟨rfl, rfl⟩ |
      ⟨rfl, rfl⟩ | ⟨rfl, rfl⟩ <;> simp [readPieces, letterEscape?]
  | unit hs =>
    refine ⟨[.unit c.toNat], fun rest => readPieces_unit hs rest, fun more => ?_⟩
    obtain ⟨hhigh, hlow⟩ := isHigh_toNat c
    rw [List.cons_append, List.nil_append, joinPieces_unit hhigh hlow, Char.ofNat_toNat]
  | @pair s t _ high low hs ht hhigh hlow hc =>
    refine ⟨[.unit high, .unit low], fun rest => ?_, fun more => ?_⟩
    · have hsplit : '\\' :: 'u' :: (s ++ '\\' :: 'u' :: t) ++ rest =
          '\\' :: 'u' :: (s ++ '\\' :: 'u' :: (t ++ rest)) := by simp
      rw [hsplit, readPieces_unit hs, readPieces_unit ht, Option.map_map]
      rfl
    · have hchar : Char.ofNat (0x10000 + (high - 0xD800) * 0x400 + (low - 0xDC00)) = c := by
        rw [← hc, Char.ofNat_toNat]
      simp [joinPieces, isHigh, isLow, hhigh, hlow, hchar]

/-- A text of a string is read as the string, up to the closing quote. -/
lemma readString_spells {s : List Char} {text : String} (h : SpellsChars s text.toList)
    (rest : List Char) : readString (s ++ '"' :: rest) = some (some text, rest) := by
  have hpieces : ∀ {s cs : List Char}, SpellsChars s cs → ∃ pieces,
      readPieces (s ++ '"' :: rest) = some (pieces, rest) ∧ joinPieces pieces = some cs := by
    intro s cs h
    induction h with
    | nil => exact ⟨[], by simp [readPieces], rfl⟩
    | cons h ht ih =>
      obtain ⟨more, hread, hjoin⟩ := ih
      obtain ⟨pieces, hreads, hjoins⟩ := h.exists_pieces
      refine ⟨pieces ++ more, ?_, ?_⟩
      · rw [List.append_assoc, hreads, hread, Option.map_some]
      · rw [hjoins, hjoin, Option.map_some]
  obtain ⟨pieces, hread, hjoin⟩ := hpieces h
  rw [readString, hread, Option.map_some, hjoin, Option.map_some, String.ofList_toList]

/-! ### Numbers -/

lemma isSpace_iff {c : Char} :
    isSpace c = true ↔ c = ' ' ∨ c = '\n' ∨ c = '\t' ∨ c = '\r' := by
  simp [isSpace, or_assoc]

/-- Whether a text closes a value: it is at its end, or a blank, a separator or a closing bracket
comes. -/
def Closes (rest : List Char) : Prop :=
  ∀ c ∈ rest.head?, isSpace c = true ∨ c = ',' ∨ c = ']' ∨ c = '\x7d'

lemma closes_nil : Closes [] := nofun

lemma closes_cons {c : Char} (h : isSpace c = true ∨ c = ',' ∨ c = ']' ∨ c = '\x7d')
    (rest : List Char) : Closes (c :: rest) := by
  intro c' hc'
  cases hc'
  exact h

lemma head?_toDigits {n : Nat} (h : 0 < n) : (Nat.toDigits 10 n).head? ≠ some '0' := by
  induction n using Nat.strongRecOn with
  | ind n ih =>
    by_cases hlt : n < 10
    · rw [Nat.toDigits_of_lt_base hlt]
      intro hhead
      have hzero : n.digitChar = '0' := Option.some.inj hhead
      exact Nat.ne_of_gt h (Nat.digitChar_eq_zero.1 hzero)
    · have hle := Nat.le_of_not_lt hlt
      rw [Nat.toDigits_of_base_le (by decide) hle]
      have hfront := ih (n / 10) (by omega) (by omega)
      cases hdigits : Nat.toDigits 10 (n / 10) with
      | nil => exact absurd hdigits Nat.toDigits_ne_nil
      | cons c cs =>
        rw [hdigits] at hfront
        exact hfront

lemma isDigit_of_mem_toDigits {n : Nat} {c : Char} (h : c ∈ Nat.toDigits 10 n) :
    isDigit c = true := by
  have hc := Nat.isDigit_of_mem_toDigits (by decide) (by decide) h
  simpa [isDigit, Char.isDigit, Char.le_def] using hc

/-- The digits of a number as numbers. -/
def digitValues (n : Nat) : List Nat := (Nat.toDigits 10 n).map fun c => c.toNat - 0x30

lemma foldl_digitValues (n : Nat) : (digitValues n).foldl (fun n d => n * 10 + d) 0 = n := by
  have hten := Nat.ofDigitChars_ten_toDigits (n := n)
  simpa [Nat.ofDigitChars, digitValues, List.foldl_map, Nat.mul_comm] using hten

lemma Closes.isDigit {rest : List Char} (h : Closes rest) :
    ∀ c ∈ rest.head?, isDigit c = false ∧ c ≠ '.' ∧ c ≠ 'e' ∧ c ≠ 'E' := by
  intro c hc
  rcases h c hc with hspace | rfl | rfl | rfl
  · rcases isSpace_iff.1 hspace with rfl | rfl | rfl | rfl <;> decide
  all_goals decide

lemma readDigits_toDigits (n : Nat) {rest : List Char} (h : Closes rest) :
    readDigits (Nat.toDigits 10 n ++ rest) = (digitValues n, rest) := by
  have hall : ∀ c ∈ Nat.toDigits 10 n, isDigit c = true := fun c => isDigit_of_mem_toDigits
  have htake : rest.takeWhile isDigit = [] ∧ rest.dropWhile isDigit = rest := by
    cases rest with
    | nil => exact ⟨rfl, rfl⟩
    | cons c cs =>
      have hc := (h.isDigit c rfl).1
      exact ⟨by simp [hc], by simp [hc]⟩
  rw [readDigits, List.takeWhile_append_of_pos hall, List.dropWhile_append_of_pos hall, htake.1,
    htake.2, List.append_nil, digitValues]

lemma digitValues_ne_zero_cons (n d : Nat) (ds : List Nat) : digitValues n ≠ 0 :: d :: ds := by
  intro hvalues
  rcases hdigits : Nat.toDigits 10 n with - | ⟨c, cs⟩
  · exact absurd hdigits Nat.toDigits_ne_nil
  rw [digitValues, hdigits, List.map_cons] at hvalues
  obtain ⟨hzero, hmore⟩ := List.cons.inj hvalues
  rcases Nat.eq_zero_or_pos n with rfl | hpos
  · rw [Nat.toDigits_zero] at hdigits
    obtain ⟨-, rfl⟩ := List.cons.inj hdigits
    cases hmore
  · have hdigit := isDigit_of_mem_toDigits (n := n) (c := c) (by simp [hdigits])
    have hcode : 0x30 ≤ c.toNat := by
      simp only [isDigit, Bool.and_eq_true, decide_eq_true_eq, Char.le_def,
        UInt32.le_iff_toNat_le] at hdigit
      exact hdigit.1
    have hc : c = '0' := by
      rw [← Char.ofNat_toNat c, show c.toNat = 0x30 by omega]
    refine head?_toDigits hpos ?_
    rw [hdigits, hc]
    rfl

lemma readWhole_toDigits (n : Nat) {rest : List Char} (h : Closes rest) :
    readWhole (Nat.toDigits 10 n ++ rest) = some (digitValues n, rest) := by
  have hne : digitValues n ≠ [] := by simp [digitValues]
  rw [readWhole, readDigits_toDigits n h]
  rcases hvalues : digitValues n with - | ⟨- | v, - | ⟨w, ws⟩⟩
  · exact absurd hvalues hne
  · rfl
  · exact absurd hvalues (digitValues_ne_zero_cons n w ws)
  · rfl
  · rfl

lemma readNumeral_toDigits (negative : Bool) (n : Nat) {rest : List Char} (h : Closes rest) :
    readNumeral negative (Nat.toDigits 10 n ++ rest) =
      some (⟨negative, digitValues n, none, none⟩, rest) := by
  have hends : readFraction rest = some (none, rest) ∧ readPower rest = some (none, rest) := by
    cases rest with
    | nil => exact ⟨rfl, rfl⟩
    | cons c cs =>
      obtain ⟨-, hpoint, he, hE⟩ := h.isDigit c rfl
      exact ⟨by simp [readFraction, hpoint], by simp [readPower, he, hE]⟩
  obtain ⟨hfraction, hpower⟩ := hends
  simp [readNumeral, readWhole_toDigits n h, hfraction, hpower]

/-- Digits are taken together as long as their number fits into 64 bits. -/
lemma takeWord_of_le {value : Nat} {ds : List Nat}
    (h : ds.foldl (fun n d => n * 10 + d) value ≤ maxWord) :
    takeWord value ds = (ds.foldl (fun n d => n * 10 + d) value, []) := by
  induction ds generalizing value with
  | nil => rfl
  | cons d ds ih =>
    have hgrow : ∀ (ds : List Nat) (v : Nat), v ≤ ds.foldl (fun n d => n * 10 + d) v := by
      intro ds
      induction ds with
      | nil => exact fun v => Nat.le_refl v
      | cons d ds ih => exact fun v => Nat.le_trans (by omega) (ih (v * 10 + d))
    have hle := Nat.le_trans (hgrow ds (value * 10 + d)) h
    rw [takeWord, if_neg (Nat.not_lt_of_le hle), ih h]
    rfl

/-- The numeral of an integer that fits into 64 bits stands for it. -/
lemma toDoc_digitValues {n : Int} (hlow : -0x8000000000000000 ≤ n)
    (hhigh : n ≤ 0xffffffffffffffff) :
    Numeral.toDoc ⟨decide (n < 0), digitValues n.natAbs, none, none⟩ = .num (.int n) := by
  have hword : n.natAbs ≤ maxWord := by
    unfold maxWord
    omega
  have htake : takeWord 0 (digitValues n.natAbs) = (n.natAbs, []) := by
    rw [← foldl_digitValues n.natAbs] at hword
    rw [takeWord_of_le hword, foldl_digitValues]
  by_cases hneg : n < 0
  · have hvalue : ¬ (n.natAbs = 0 ∨ 9223372036854775808 < n.natAbs) := by omega
    have hback : -(n.natAbs : Int) = n := by omega
    generalize n.natAbs = m at *
    simp [Numeral.toDoc, Numeral.value?, htake, hneg, hvalue, hback]
  · have hback : (n.natAbs : Int) = n := by omega
    generalize n.natAbs = m at *
    simp [Numeral.toDoc, Numeral.value?, htake, hneg, hback]

/-! ### Blanks -/

lemma skipSpace_cons {c : Char} (h : isSpace c = false) (cs : List Char) :
    skipSpace (c :: cs) = c :: cs :=
  List.dropWhile_cons_of_neg (by simp [h])

lemma skipSpace_append {blanks : List Char} (h : ∀ c ∈ blanks, isSpace c = true)
    (cs : List Char) : skipSpace (blanks ++ cs) = skipSpace cs :=
  List.dropWhile_append_of_pos h

lemma skipSpace_skipSpace (cs : List Char) : skipSpace (skipSpace cs) = skipSpace cs := by
  induction cs with
  | nil => rfl
  | cons c cs ih =>
    cases hc : isSpace c with
    | false => rw [skipSpace_cons hc, skipSpace_cons hc]
    | true =>
      have hdrop : skipSpace (c :: cs) = skipSpace cs := List.dropWhile_cons_of_pos hc
      rw [hdrop, ih]

section Blanks

variable {cs cs' : List Char} (h : skipSpace cs = skipSpace cs') (fuel depth : Nat)

include h

/-- Blanks in front of a value make no difference. -/
lemma readValue_congr : readValue fuel depth cs = readValue fuel depth cs' := by
  cases fuel with
  | zero => rw [readValue, readValue]
  | succ fuel => rw [readValue, readValue, h]

lemma readItems_congr : readItems fuel depth cs = readItems fuel depth cs' := by
  cases fuel with
  | zero => rw [readItems, readItems]
  | succ fuel => rw [readItems, readItems, readValue_congr h]

lemma readMembers_congr : readMembers fuel depth cs = readMembers fuel depth cs' := by
  cases fuel with
  | zero => rw [readMembers, readMembers]
  | succ fuel => rw [readMembers, readMembers, h]

end Blanks

/-! ### Beginnings -/

lemma ne_of_isDigit {c d : Char} (hc : isDigit c = true) (hd : isDigit d = false) : c ≠ d := by
  rintro rfl
  rw [hc] at hd
  cases hd

lemma isSpace_of_isDigit {c : Char} (hc : isDigit c = true) : isSpace c = false := by
  have hne : ∀ d, isDigit d = false → c ≠ d := fun d => ne_of_isDigit hc
  simp [isSpace, hne ' ' rfl, hne '\n' rfl, hne '\t' rfl, hne '\r' rfl]

lemma exists_toDigits_eq_cons (n : Nat) :
    ∃ c cs, Nat.toDigits 10 n = c :: cs ∧ isDigit c = true := by
  cases hdigits : Nat.toDigits 10 n with
  | nil => exact absurd hdigits Nat.toDigits_ne_nil
  | cons c cs => exact ⟨c, cs, rfl, isDigit_of_mem_toDigits (n := n) (by simp [hdigits])⟩

/-- Behind its blanks a value does not begin with a bracket that closes a list. -/
lemma Spells.exists_skipSpace : ∀ {s : List Char} {j : Json}, Spells s j →
    ∃ c cs, c ≠ ']' ∧ ∀ rest, skipSpace (s ++ rest) = c :: (cs ++ rest)
  | _, _, .null => ⟨_, _, by decide, fun _ => skipSpace_cons rfl _⟩
  | _, _, .yes => ⟨_, _, by decide, fun _ => skipSpace_cons rfl _⟩
  | _, _, .no => ⟨_, _, by decide, fun _ => skipSpace_cons rfl _⟩
  | _, _, .nat (n := n) _ => by
    obtain ⟨c, cs, hdigits, hc⟩ := exists_toDigits_eq_cons n
    rw [hdigits]
    exact ⟨c, cs, ne_of_isDigit hc rfl, fun _ => skipSpace_cons (isSpace_of_isDigit hc) _⟩
  | _, _, .negative _ _ => ⟨_, _, by decide, fun _ => skipSpace_cons rfl _⟩
  | _, _, .str _ => ⟨_, _, by decide, fun _ => skipSpace_cons rfl _⟩
  | _, _, .emptyArr _ => ⟨_, _, by decide, fun _ => skipSpace_cons rfl _⟩
  | _, _, .arr _ => ⟨_, _, by decide, fun _ => skipSpace_cons rfl _⟩
  | _, _, .emptyObj _ => ⟨_, _, by decide, fun _ => skipSpace_cons rfl _⟩
  | _, _, .obj _ => ⟨_, _, by decide, fun _ => skipSpace_cons rfl _⟩
  | _, _, .before hc h => by
    obtain ⟨c, cs, hclose, hskip⟩ := Spells.exists_skipSpace h
    exact ⟨c, cs, hclose, fun rest => (List.dropWhile_cons_of_pos hc).trans (hskip rest)⟩
  | _, _, .after (c := b) _ h => by
    obtain ⟨c, cs, hclose, hskip⟩ := Spells.exists_skipSpace h
    refine ⟨c, cs ++ [b], hclose, fun rest => ?_⟩
    rw [List.append_assoc, hskip, List.append_assoc]

lemma SpellsItems.exists_skipSpace {s : List Char} {items : List Json}
    (h : SpellsItems s items) (rest : List Char) :
    ∃ c cs, c ≠ ']' ∧ skipSpace (s ++ rest) = c :: cs := by
  cases h with
  | one h =>
    obtain ⟨c, cs, hclose, hskip⟩ := h.exists_skipSpace
    exact ⟨c, _, hclose, hskip rest⟩
  | more h ht =>
    obtain ⟨c, cs, hclose, hskip⟩ := h.exists_skipSpace
    exact ⟨c, _, hclose, by rw [List.append_assoc, hskip]⟩

lemma Spells.exists_readString {k : List Char} {key : String} (h : Spells k (.str key))
    (rest : List Char) : ∃ cs after, skipSpace (k ++ rest) = '"' :: cs ∧
      readString cs = some (some key, after) ∧ skipSpace after = skipSpace rest := by
  obtain ⟨before, cs, blanks, rfl, hbefore, hblanks, hcs⟩ := h.exists_quoted rfl
  refine ⟨cs ++ '"' :: (blanks ++ rest), blanks ++ rest, ?_, readString_spells hcs _,
    skipSpace_append hblanks rest⟩
  rw [List.append_assoc, skipSpace_append hbefore, List.cons_append, skipSpace_cons rfl]
  simp

lemma SpellsMembers.exists_skipSpace {s : List Char} {members : List (String × Json)}
    (h : SpellsMembers s members) (rest : List Char) : ∃ cs, skipSpace (s ++ rest) = '"' :: cs := by
  cases h with
  | one hk h =>
    rw [List.append_assoc]
    obtain ⟨cs, -, hskip, -⟩ := hk.exists_readString _
    exact ⟨cs, hskip⟩
  | more hk h ht =>
    rw [List.append_assoc]
    obtain ⟨cs, -, hskip, -⟩ := hk.exists_readString _
    exact ⟨cs, hskip⟩

/-! ### Values -/

lemma readValue_nat {n : Nat} (hle : n ≤ 0xffffffffffffffff) (fuel depth : Nat)
    {rest : List Char} (h : Closes rest) :
    readValue (fuel + 1) depth (Nat.toDigits 10 n ++ rest) = some (.num (.int n), rest) := by
  obtain ⟨c, cs, hdigits, hc⟩ := exists_toDigits_eq_cons n
  have hread := readNumeral_toDigits false n h
  have hdoc := toDoc_digitValues (n := n) (by omega) (by omega)
  have hne : ∀ d, isDigit d = false → c ≠ d := fun d => ne_of_isDigit hc
  rw [hdigits, List.cons_append] at hread ⊢
  rw [readValue, skipSpace_cons (isSpace_of_isDigit hc)]
  rw [decide_eq_false (by omega), Int.natAbs_natCast] at hdoc
  simp [hne '"' rfl, hne '[' rfl, hne '\x7b' rfl, hne '-' rfl, hne 'n' rfl, hne 't' rfl,
    hne 'f' rfl, hc, hread, hdoc]

lemma readValue_negative {n : Nat} (hpos : 0 < n) (hle : n ≤ 0x8000000000000000)
    (fuel depth : Nat) {rest : List Char} (h : Closes rest) :
    readValue (fuel + 1) depth ('-' :: (Nat.toDigits 10 n ++ rest)) =
      some (.num (.int (-n)), rest) := by
  have hdoc := toDoc_digitValues (n := -n) (by omega) (by omega)
  rw [decide_eq_true (by omega), Int.natAbs_neg, Int.natAbs_natCast] at hdoc
  rw [readValue, skipSpace_cons rfl]
  simp [readNumeral_toDigits true n h, hdoc]

/-- A list that is not closed at once has items. -/
lemma readValue_arr {cs tail : List Char} {c : Char} (hskip : skipSpace cs = c :: tail)
    (hclose : c ≠ ']') (fuel depth : Nat) :
    readValue (fuel + 1) depth ('[' :: cs) =
      (readItems fuel (depth - 1) cs).map fun r => (container depth (.arr r.1), r.2) := by
  rw [readValue, skipSpace_cons rfl, ← readItems_congr (skipSpace_skipSpace cs)]
  simp [hskip, hclose]

/-- An object that is not closed at once has members. -/
lemma readValue_obj {cs tail : List Char} (hskip : skipSpace cs = '"' :: tail)
    (fuel depth : Nat) :
    readValue (fuel + 1) depth ('\x7b' :: cs) =
      (readMembers fuel (depth - 1) cs).map fun r => (container depth (.obj r.1), r.2) := by
  rw [readValue, skipSpace_cons rfl, ← readMembers_congr (skipSpace_skipSpace cs)]
  simp [hskip]

mutual

/-- A text of a value is read as its document.  What is left are the blanks behind the value and the
rest. -/
theorem readValue_spells : ∀ {s : List Char} {j : Json}, Spells s j →
    ∀ (fuel depth : Nat) (rest : List Char), s.length < fuel → Closes rest →
      ∃ rest', readValue fuel depth (s ++ rest) = some (j.within depth, rest') ∧
        skipSpace rest' = skipSpace rest
  | _, _, _, 0, _, _, hfuel, _ => absurd hfuel (Nat.not_lt_zero _)
  | _, _, .null, fuel + 1, depth, rest, _, _ => by
    refine ⟨rest, ?_, rfl⟩
    simp [within, readValue, skipSpace_cons, isSpace, readWord]
  | _, _, .yes, fuel + 1, depth, rest, _, _ => by
    refine ⟨rest, ?_, rfl⟩
    simp [within, readValue, skipSpace_cons, isSpace, readWord]
  | _, _, .no, fuel + 1, depth, rest, _, _ => by
    refine ⟨rest, ?_, rfl⟩
    simp [within, readValue, skipSpace_cons, isSpace, readWord]
  | _, _, .nat hle, fuel + 1, depth, rest, _, hrest => by
    rw [nat, within]
    exact ⟨rest, readValue_nat hle fuel depth hrest, rfl⟩
  | _, _, .negative hpos hle, fuel + 1, depth, rest, _, hrest => by
    rw [int, within]
    exact ⟨rest, readValue_negative hpos hle fuel depth hrest, rfl⟩
  | _, _, .str h, fuel + 1, depth, rest, _, _ => by
    refine ⟨rest, ?_, rfl⟩
    rw [within, List.cons_append, List.append_assoc, readValue, skipSpace_cons rfl]
    simp [readString_spells h]
  | _, _, .emptyArr hblanks, fuel + 1, depth, rest, _, _ => by
    refine ⟨rest, ?_, rfl⟩
    rw [within, List.cons_append, List.append_assoc, readValue, skipSpace_cons rfl]
    simp [skipSpace_append hblanks, skipSpace_cons, isSpace, itemsWithin]
  | _, _, .arr h, fuel + 1, depth, rest, hfuel, _ => by
    refine ⟨rest, ?_, rfl⟩
    rw [List.length_cons, List.length_append, List.length_singleton] at hfuel
    have hitems := readItems_spells h fuel (depth - 1) rest (by omega)
    obtain ⟨c, cs, hclose, hskip⟩ := h.exists_skipSpace (']' :: rest)
    rw [within, List.cons_append, List.append_assoc, List.singleton_append,
      readValue_arr hskip hclose, hitems, Option.map_some]
  | _, _, .emptyObj hblanks, fuel + 1, depth, rest, _, _ => by
    refine ⟨rest, ?_, rfl⟩
    rw [within, List.cons_append, List.append_assoc, readValue, skipSpace_cons rfl]
    simp [skipSpace_append hblanks, skipSpace_cons, isSpace, membersWithin]
  | _, _, .obj h, fuel + 1, depth, rest, hfuel, _ => by
    refine ⟨rest, ?_, rfl⟩
    rw [List.length_cons, List.length_append, List.length_singleton] at hfuel
    have hmembers := readMembers_spells h fuel (depth - 1) rest (by omega)
    obtain ⟨cs, hskip⟩ := h.exists_skipSpace ('\x7d' :: rest)
    rw [within, List.cons_append, List.append_assoc, List.singleton_append,
      readValue_obj hskip, hmembers, Option.map_some]
  | _, _, .before (s := s) hc h, fuel + 1, depth, rest, hfuel, hrest => by
    have hblank : skipSpace (_ :: (s ++ rest)) = skipSpace (s ++ rest) :=
      List.dropWhile_cons_of_pos hc
    rw [List.length_cons] at hfuel
    -- the reader skips the blank before it looks at the value
    rw [List.cons_append, readValue_congr hblank]
    exact readValue_spells h (fuel + 1) depth rest (by omega) hrest
  | _, _, .after (c := c) hc h, fuel + 1, depth, rest, hfuel, _ => by
    have hblank : skipSpace (c :: rest) = skipSpace rest := List.dropWhile_cons_of_pos hc
    rw [List.length_append, List.length_singleton] at hfuel
    -- the reader stops before the blank, which goes to the rest
    rw [List.append_assoc, List.singleton_append, ← hblank]
    exact readValue_spells h (fuel + 1) depth (c :: rest) (by omega) (closes_cons (.inl hc) rest)

/-- A text of items is read up to the closing bracket. -/
theorem readItems_spells : ∀ {s : List Char} {items : List Json}, SpellsItems s items →
    ∀ (fuel depth : Nat) (rest : List Char), s.length + 1 < fuel →
      readItems fuel depth (s ++ ']' :: rest) = some (itemsWithin depth items, rest)
  | _, _, _, 0, _, _, hfuel => absurd hfuel (Nat.not_lt_zero _)
  | _, _, .one h, fuel + 1, depth, rest, hfuel => by
    obtain ⟨rest', hread, hskip⟩ := readValue_spells h fuel depth (']' :: rest) (by omega)
      (closes_cons (.inr (.inr (.inl rfl))) rest)
    rw [skipSpace_cons rfl] at hskip
    simp [readItems, hread, hskip, itemsWithin]
  | _, _, .more (s := s) (t := t) h ht, fuel + 1, depth, rest, hfuel => by
    rw [List.length_append, List.length_cons] at hfuel
    obtain ⟨rest', hread, hskip⟩ := readValue_spells h fuel depth (',' :: (t ++ ']' :: rest))
      (by omega) (closes_cons (.inr (.inl rfl)) _)
    have hitems := readItems_spells ht fuel depth rest (by omega)
    rw [skipSpace_cons rfl] at hskip
    simp [readItems, hread, hskip, itemsWithin, hitems]

/-- A text of members is read up to the closing brace. -/
theorem readMembers_spells : ∀ {s : List Char} {members : List (String × Json)},
    SpellsMembers s members → ∀ (fuel depth : Nat) (rest : List Char), s.length + 1 < fuel →
      readMembers fuel depth (s ++ '\x7d' :: rest) = some (membersWithin depth members, rest)
  | _, _, _, 0, _, _, hfuel => absurd hfuel (Nat.not_lt_zero _)
  | _, _, .one (s := s) hk h, fuel + 1, depth, rest, hfuel => by
    rw [List.length_append, List.length_cons] at hfuel
    obtain ⟨cs, after, hquote, hkey, hcolon⟩ :=
      hk.exists_readString (':' :: (s ++ '\x7d' :: rest))
    obtain ⟨rest', hread, hskip⟩ := readValue_spells h fuel depth ('\x7d' :: rest) (by omega)
      (closes_cons (.inr (.inr (.inr rfl))) rest)
    rw [skipSpace_cons rfl] at hcolon hskip
    simp [readMembers, hquote, hkey, hcolon, hread, hskip, membersWithin]
  | _, _, .more (s := s) (t := t) hk h ht, fuel + 1, depth, rest, hfuel => by
    rw [List.length_append, List.length_cons, List.length_append, List.length_cons] at hfuel
    obtain ⟨cs, after, hquote, hkey, hcolon⟩ :=
      hk.exists_readString (':' :: (s ++ ',' :: (t ++ '\x7d' :: rest)))
    obtain ⟨rest', hread, hskip⟩ := readValue_spells h fuel depth (',' :: (t ++ '\x7d' :: rest))
      (by omega) (closes_cons (.inr (.inl rfl)) _)
    have hmembers := readMembers_spells ht fuel depth rest (by omega)
    rw [skipSpace_cons rfl] at hcolon hskip
    simp [readMembers, hquote, hkey, hcolon, hread, hskip, membersWithin, hmembers]

end

/-- The document of a text of a value. -/
lemma Doc.parse?_spells {s : List Char} {j : Json} (h : Spells s j) :
    Doc.parse? s = some (j.within maxDepth) := by
  obtain ⟨rest, hread, hskip⟩ := readValue_spells h (s.length + 1) maxDepth []
    (Nat.lt_succ_self _) closes_nil
  rw [List.append_nil] at hread
  rw [Doc.parse?, hread]
  simp only [hskip]
  rfl

/-! ### Depth -/

mutual

/-- Where a value is nested deeply enough only, it is read as its document. -/
theorem within_of_plain : ∀ {depth : Nat} {j : Json}, j.Plain depth → j.within depth = j.toDoc
  | _, .null, _ | _, .bool _, _ | _, .num _, _ | _, .str _, _ => by simp [within, toDoc]
  | depth, .arr items, h => by
    rw [Plain] at h
    rw [within, toDoc, itemsWithin_of_plain h.2, container, if_neg (Nat.ne_of_gt h.1)]
  | depth, .obj members, h => by
    rw [Plain] at h
    rw [within, toDoc, membersWithin_of_plain h.2, container, if_neg (Nat.ne_of_gt h.1)]

theorem itemsWithin_of_plain : ∀ {depth : Nat} {items : List Json}, PlainItems depth items →
    itemsWithin depth items = itemsToDoc items
  | _, [], _ => by rw [itemsWithin, itemsToDoc]
  | _, j :: items, h => by
    rw [PlainItems] at h
    rw [itemsWithin, itemsToDoc, within_of_plain h.1, itemsWithin_of_plain h.2]

theorem membersWithin_of_plain : ∀ {depth : Nat} {members : List (String × Json)},
    PlainMembers depth members → membersWithin depth members = membersToDoc members
  | _, [], _ => by rw [membersWithin, membersToDoc]
  | _, (key, j) :: members, h => by
    rw [PlainMembers] at h
    rw [membersWithin, membersToDoc, within_of_plain h.1, membersWithin_of_plain h.2]

end

lemma Doc.isSome_toJson?_container {depth : Nat} {d : Doc}
    (h : (container depth d).toJson?.isSome) : 0 < depth ∧ d.toJson?.isSome := by
  rw [container] at h
  split at h
  · simp [Doc.toJson?] at h
  · next hdepth => exact ⟨Nat.pos_of_ne_zero hdepth, h⟩

lemma Doc.isSome_itemsToJson?_cons {d : Doc} {items : List Doc} :
    (Doc.itemsToJson? (d :: items)).isSome ↔
      d.toJson?.isSome ∧ (Doc.itemsToJson? items).isSome := by
  cases hd : d.toJson? <;> cases hitems : Doc.itemsToJson? items <;>
    simp [Doc.itemsToJson?, hd, hitems]

lemma Doc.isSome_membersToJson?_cons {key : String} {d : Doc}
    {members : List (Option String × Doc)} :
    (Doc.membersToJson? ((some key, d) :: members)).isSome ↔
      d.toJson?.isSome ∧ (Doc.membersToJson? members).isSome := by
  cases hd : d.toJson? <;> cases hmembers : Doc.membersToJson? members <;>
    simp [Doc.membersToJson?, hd, hmembers]

mutual

/-- What was written and can be read is not nested too deeply. -/
theorem Spells.plain : ∀ {s : List Char} {j : Json}, Spells s j → ∀ {depth : Nat},
    (j.within depth).toJson?.isSome → j.Plain depth
  | _, _, .null, _, _ | _, _, .yes, _, _ | _, _, .no, _, _ | _, _, .str _, _, _ => by simp [Plain]
  | _, _, .nat hle, _, _ => by
    rw [nat, Plain]
    omega
  | _, _, .negative hpos hle, _, _ => by
    rw [int, Plain]
    omega
  | _, _, .emptyArr _, depth, hread => by
    rw [Plain, PlainItems]
    exact ⟨(Doc.isSome_toJson?_container hread).1, trivial⟩
  | _, _, .arr h, depth, hread => by
    obtain ⟨hdepth, hitems⟩ := Doc.isSome_toJson?_container hread
    rw [Doc.toJson?, Option.isSome_map] at hitems
    rw [Plain]
    exact ⟨hdepth, h.plain hitems⟩
  | _, _, .emptyObj _, depth, hread => by
    rw [Plain, PlainMembers]
    exact ⟨(Doc.isSome_toJson?_container hread).1, trivial⟩
  | _, _, .obj h, depth, hread => by
    obtain ⟨hdepth, hmembers⟩ := Doc.isSome_toJson?_container hread
    rw [Doc.toJson?, Option.isSome_map] at hmembers
    rw [Plain]
    exact ⟨hdepth, h.plain hmembers⟩
  | _, _, .before _ h, _, hread | _, _, .after _ h, _, hread => h.plain hread

theorem SpellsItems.plain : ∀ {s : List Char} {items : List Json}, SpellsItems s items →
    ∀ {depth : Nat}, (Doc.itemsToJson? (itemsWithin depth items)).isSome → PlainItems depth items
  | _, _, .one h, depth, hread => by
    rw [PlainItems, PlainItems]
    exact ⟨h.plain (Doc.isSome_itemsToJson?_cons.1 hread).1, trivial⟩
  | _, _, .more h ht, depth, hread => by
    obtain ⟨hj, hitems⟩ := Doc.isSome_itemsToJson?_cons.1 hread
    rw [PlainItems]
    exact ⟨h.plain hj, ht.plain hitems⟩

theorem SpellsMembers.plain : ∀ {s : List Char} {members : List (String × Json)},
    SpellsMembers s members → ∀ {depth : Nat},
      (Doc.membersToJson? (membersWithin depth members)).isSome → PlainMembers depth members
  | _, _, .one _ h, depth, hread => by
    rw [PlainMembers, PlainMembers]
    exact ⟨h.plain (Doc.isSome_membersToJson?_cons.1 hread).1, trivial⟩
  | _, _, .more _ h ht, depth, hread => by
    obtain ⟨hj, hmembers⟩ := Doc.isSome_membersToJson?_cons.1 hread
    rw [PlainMembers]
    exact ⟨h.plain hj, ht.plain hmembers⟩

end

end JobSupervision.Json
