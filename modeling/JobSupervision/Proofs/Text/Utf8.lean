/-
# Reading back UTF-8

The bytes of a text are read back as its characters, whatever stands behind them
(`units_encode`).  The machine starts with the lead byte of a character, which says how many bytes
are owed and between which bounds the next one lies, and each further byte adds six bits; the
bounds of the second byte are met because a character is never a surrogate and never written
with more bytes than it needs.

A byte below 0x80 stands for a character of its own wherever it comes (`units_append_cons`), and
nothing else stands for that character: a sequence that is left open owes only greater bytes and
has read too much for it (`Pending.Wide`).
-/
import JobSupervision.Text.Utf8
import Mathlib.Tactic.Common

namespace JobSupervision.Text.Utf8

variable {p : Pending} {b : UInt8} {rest : List UInt8}

/-! ### One byte -/

lemma unitsFrom_cons (state : Option Pending) (b : UInt8) (rest : List UInt8) :
    unitsFrom state (b :: rest) = (step state b).1 ++ unitsFrom (step state b).2 rest := by
  cases state <;> rfl

lemma unitsFrom_last (howed : p.owed = 1) (hlow : p.low ≤ b) (hhigh : b ≤ p.high) :
    unitsFrom (some p) (b :: rest) =
      some (Char.ofNat (p.value * 64 + (b.toNat - 0x80))) :: unitsFrom none rest := by
  rw [unitsFrom_cons]
  simp [step, hlow, hhigh, howed]

lemma unitsFrom_more (howed : 1 < p.owed) (hlow : p.low ≤ b) (hhigh : b ≤ p.high) :
    unitsFrom (some p) (b :: rest) =
      unitsFrom (some ⟨p.owed - 1, 0x80, 0xBF, p.value * 64 + (b.toNat - 0x80)⟩) rest := by
  rw [unitsFrom_cons]
  simp [step, hlow, hhigh, Nat.not_le.2 howed]

lemma unitsFrom_starts (h : lead b = .starts p) :
    unitsFrom none (b :: rest) = unitsFrom (some p) rest := by
  rw [unitsFrom_cons]
  simp [step, start, h]

/-- A byte with the low six bits of a number. -/
def tail (n : Nat) : UInt8 := .ofNat (n % 64 + 0x80)

lemma toNat_tail (n : Nat) : (tail n).toNat = n % 64 + 0x80 := by
  have hlt := Nat.mod_lt n (show 64 > 0 by decide)
  rw [tail, UInt8.toNat_ofNat']
  omega

lemma tail_bounds (n : Nat) : 0x80 ≤ tail n ∧ tail n ≤ 0xBF := by
  have hlt := Nat.mod_lt n (show 64 > 0 by decide)
  simp only [UInt8.le_iff_toNat_le, toNat_tail]
  exact ⟨Nat.le_add_left _ _, Nat.add_le_add_right (Nat.le_of_lt_succ hlt) _⟩

lemma unitsFrom_tail (v : Nat) (low high : UInt8) (hlow : low ≤ tail v) (hhigh : tail v ≤ high) :
    unitsFrom (some ⟨1, low, high, v / 64⟩) (tail v :: rest) =
      some (Char.ofNat v) :: unitsFrom none rest := by
  rw [unitsFrom_last rfl hlow hhigh, toNat_tail]
  have hv : v / 64 * 64 + (v % 64 + 0x80 - 0x80) = v := by omega
  rw [hv]

lemma unitsFrom_tail_tail (v : Nat) (low high : UInt8) (hlow : low ≤ tail (v / 64))
    (hhigh : tail (v / 64) ≤ high) :
    unitsFrom (some ⟨2, low, high, v / 4096⟩) (tail (v / 64) :: tail v :: rest) =
      some (Char.ofNat v) :: unitsFrom none rest := by
  have hv : v / 4096 * 64 + (v / 64 % 64 + 0x80 - 0x80) = v / 64 := by omega
  obtain ⟨hlow', hhigh'⟩ := tail_bounds v
  rw [unitsFrom_more (show 1 < 2 by decide) hlow hhigh, toNat_tail, hv]
  exact unitsFrom_tail v _ _ hlow' hhigh'

lemma unitsFrom_tail_tail_tail (v : Nat) (low high : UInt8) (hlow : low ≤ tail (v / 4096))
    (hhigh : tail (v / 4096) ≤ high) :
    unitsFrom (some ⟨3, low, high, v / 262144⟩)
        (tail (v / 4096) :: tail (v / 64) :: tail v :: rest) =
      some (Char.ofNat v) :: unitsFrom none rest := by
  have hv : v / 262144 * 64 + (v / 4096 % 64 + 0x80 - 0x80) = v / 4096 := by omega
  obtain ⟨hlow', hhigh'⟩ := tail_bounds (v / 64)
  rw [unitsFrom_more (show 1 < 3 by decide) hlow hhigh, toNat_tail, hv]
  exact unitsFrom_tail_tail v _ _ hlow' hhigh'

/-! ### One character -/

lemma lead_one {v : Nat} (hmax : v ≤ 0x7f) : lead (.ofNat v) = .single (Char.ofNat v) := by
  have hn : (UInt8.ofNat v).toNat = v := by
    rw [UInt8.toNat_ofNat']
    omega
  simp only [lead, hn]
  rw [if_pos (by omega)]

lemma lead_two {v : Nat} (hmin : 0x7f < v) (hmax : v ≤ 0x7ff) :
    lead (.ofNat (v / 64 % 0x20 + 0xc0)) = .starts ⟨1, 0x80, 0xBF, v / 64⟩ := by
  have hn : (UInt8.ofNat (v / 64 % 0x20 + 0xc0)).toNat = v / 64 + 0xc0 := by
    rw [UInt8.toNat_ofNat']
    omega
  simp only [lead, hn, Bool.and_eq_true, decide_eq_true_eq]
  rw [if_neg (by omega), if_pos (by omega), Nat.add_sub_cancel]

/-- The lead byte of three bounds the second byte, and the second byte of a character that is no
surrogate keeps to that. -/
lemma lead_three {v : Nat} (hmin : 0x7ff < v) (hmax : v ≤ 0xffff)
    (hscalar : v < 0xd800 ∨ 0xdfff < v) :
    ∃ low high, lead (.ofNat (v / 4096 % 0x10 + 0xe0)) = .starts ⟨2, low, high, v / 4096⟩ ∧
      low ≤ tail (v / 64) ∧ tail (v / 64) ≤ high := by
  have hn : (UInt8.ofNat (v / 4096 % 0x10 + 0xe0)).toNat = v / 4096 + 0xe0 := by
    rw [UInt8.toNat_ofNat']
    omega
  simp only [lead, hn, Bool.and_eq_true, decide_eq_true_eq, UInt8.le_iff_toNat_le, toNat_tail]
  rw [if_neg (by omega), if_neg (by omega)]
  by_cases hfirst : v / 4096 = 0
  · refine ⟨0xA0, 0xBF, ?_, ?_, ?_⟩
    · rw [hfirst, if_pos rfl]
    · show 0xA0 ≤ v / 64 % 64 + 0x80
      omega
    · show v / 64 % 64 + 0x80 ≤ 0xBF
      omega
  rw [if_neg (by omega)]
  by_cases hlast : v / 4096 = 13
  · refine ⟨0x80, 0x9F, ?_, ?_, ?_⟩
    · rw [if_pos (by omega), Nat.add_sub_cancel]
    · show 0x80 ≤ v / 64 % 64 + 0x80
      omega
    · show v / 64 % 64 + 0x80 ≤ 0x9F
      omega
  · refine ⟨0x80, 0xBF, ?_, ?_, ?_⟩
    · rw [if_neg (by omega), if_pos (by omega), Nat.add_sub_cancel]
    · show 0x80 ≤ v / 64 % 64 + 0x80
      omega
    · show v / 64 % 64 + 0x80 ≤ 0xBF
      omega

lemma lead_four {v : Nat} (hmin : 0xffff < v) (hmax : v < 0x110000) :
    ∃ low high, lead (.ofNat (v / 262144 % 0x08 + 0xf0)) = .starts ⟨3, low, high, v / 262144⟩ ∧
      low ≤ tail (v / 4096) ∧ tail (v / 4096) ≤ high := by
  have hn : (UInt8.ofNat (v / 262144 % 0x08 + 0xf0)).toNat = v / 262144 + 0xf0 := by
    rw [UInt8.toNat_ofNat']
    omega
  simp only [lead, hn, Bool.and_eq_true, decide_eq_true_eq, UInt8.le_iff_toNat_le, toNat_tail]
  rw [if_neg (by omega), if_neg (by omega), if_neg (by omega), if_neg (by omega),
    if_neg (by omega)]
  by_cases hfirst : v / 262144 = 0
  · refine ⟨0x90, 0xBF, ?_, ?_, ?_⟩
    · rw [hfirst, if_pos rfl]
    · show 0x90 ≤ v / 4096 % 64 + 0x80
      omega
    · show v / 4096 % 64 + 0x80 ≤ 0xBF
      omega
  rw [if_neg (by omega)]
  by_cases hlast : v / 262144 = 4
  · refine ⟨0x80, 0x8F, ?_, ?_, ?_⟩
    · rw [if_neg (by omega), if_pos (by omega), hlast]
    · show 0x80 ≤ v / 4096 % 64 + 0x80
      omega
    · show v / 4096 % 64 + 0x80 ≤ 0x8F
      omega
  · refine ⟨0x80, 0xBF, ?_, ?_, ?_⟩
    · rw [if_pos (by omega), Nat.add_sub_cancel]
    · show 0x80 ≤ v / 4096 % 64 + 0x80
      omega
    · show v / 4096 % 64 + 0x80 ≤ 0xBF
      omega

/-- The bytes of a character are read as that character. -/
lemma unitsFrom_utf8EncodeChar (c : Char) (rest : List UInt8) :
    unitsFrom none (String.utf8EncodeChar c ++ rest) = some c :: unitsFrom none rest := by
  have hc : Char.ofNat c.val.toNat = c := Char.ofNat_toNat c
  have hscalar : c.val.toNat < 0xd800 ∨ 0xdfff < c.val.toNat ∧ c.val.toNat < 0x110000 := c.valid
  unfold String.utf8EncodeChar
  generalize c.val.toNat = v at hc hscalar
  dsimp only
  split
  · next hmax =>
    rw [List.cons_append, List.nil_append, unitsFrom_cons]
    simp [step, start, lead_one hmax, hc]
  split
  · next hmin hmax =>
    obtain ⟨hlow, hhigh⟩ := tail_bounds v
    rw [List.cons_append, List.cons_append, List.nil_append,
      unitsFrom_starts (lead_two (Nat.lt_of_not_le hmin) hmax)]
    exact (unitsFrom_tail v _ _ hlow hhigh).trans (by rw [hc])
  split
  · next hmin hmax =>
    obtain ⟨low, high, hlead, hlow, hhigh⟩ :=
      lead_three (Nat.lt_of_not_le hmin) hmax (hscalar.imp_right And.left)
    rw [List.cons_append, List.cons_append, List.cons_append, List.nil_append,
      unitsFrom_starts hlead]
    exact (unitsFrom_tail_tail v _ _ hlow hhigh).trans (by rw [hc])
  · next hmin =>
    obtain ⟨low, high, hlead, hlow, hhigh⟩ := lead_four (Nat.lt_of_not_le hmin) (by omega)
    rw [List.cons_append, List.cons_append, List.cons_append, List.cons_append, List.nil_append,
      unitsFrom_starts hlead]
    exact (unitsFrom_tail_tail_tail v _ _ hlow hhigh).trans (by rw [hc])

/-! ### Texts -/

/-- The bytes of a text are read as its characters. -/
theorem units_encode (text : List Char) : units (encode text) = text.map some := by
  rw [units_eq_unitsFrom]
  induction text with
  | nil => rfl
  | cons c text ih =>
    rw [encode, List.flatMap_cons, unitsFrom_utf8EncodeChar, List.map_cons]
    exact congrArg _ ih

/-! ### Characters of one byte -/

/-- What is true of every sequence that was left open: the next byte is no character of its own,
and the value will be too great for one. -/
structure Pending.Wide (p : Pending) : Prop where
  /-- The next byte is 0x80 or greater. -/
  low : 0x80 ≤ p.low.toNat
  /-- The bits that were read, or the next ones, make the value great enough. -/
  value : 2 ≤ p.value ∨ 1 < p.owed ∧ (1 ≤ p.value ∨ 0x82 ≤ p.low.toNat)

lemma wide_of_lead (h : lead b = .starts p) : p.Wide := by
  simp only [lead, Bool.and_eq_true, decide_eq_true_eq] at h
  split_ifs at h <;> cases h <;> constructor <;> simp <;> omega

lemma wide_step {state : Option Pending} (h : ∀ p ∈ state, p.Wide) :
    ∀ q ∈ (step state b).2, q.Wide := by
  have hstart : ∀ q ∈ (start b).2, q.Wide := by
    intro q hq
    rw [start] at hq
    cases hlead : lead b <;> rw [hlead] at hq <;> cases hq
    exact wide_of_lead hlead
  cases state with
  | none => exact hstart
  | some p =>
    obtain ⟨hlow, hvalue⟩ := h p rfl
    rw [step]
    split_ifs with hbounds howed
    · nofun
    · rintro q ⟨⟩
      simp only [Bool.and_eq_true, decide_eq_true_eq, UInt8.le_iff_toNat_le] at hbounds
      exact ⟨Nat.le_refl _, .inl (by show 2 ≤ p.value * 64 + (b.toNat - 0x80); omega)⟩
    · exact hstart

/-- A byte below 0x80 cuts off what was left open and stands for its character. -/
lemma unitsFrom_append_cons {state : Option Pending} (h : ∀ p ∈ state, p.Wide)
    (body rest : List UInt8) (hb : b.toNat < 0x80) :
    unitsFrom state (body ++ b :: rest) =
      unitsFrom state body ++ some (Char.ofNat b.toNat) :: unitsFrom none rest := by
  have hstart : start b = ([some (Char.ofNat b.toNat)], none) := by
    simp [start, lead, hb]
  induction body generalizing state with
  | nil =>
    rw [List.nil_append, unitsFrom_cons]
    cases state with
    | none => simp [step, hstart, unitsFrom]
    | some p =>
      have hlow := (h p rfl).low
      have hbounds : ¬ p.low ≤ b := by
        rw [UInt8.le_iff_toNat_le]
        omega
      simp [step, hstart, hbounds, unitsFrom]
  | cons a body ih =>
    rw [List.cons_append, unitsFrom_cons, unitsFrom_cons, ih (wide_step h), List.append_assoc]

theorem units_append_cons (body rest : List UInt8) (hb : b.toNat < 0x80) :
    units (body ++ b :: rest) = units body ++ some (Char.ofNat b.toNat) :: units rest := by
  simp only [units_eq_unitsFrom]
  exact unitsFrom_append_cons (by simp) body rest hb

lemma toNat_of_ofNat_eq {n : Nat} {c : Char} (hc : 0 < c.toNat) (h : Char.ofNat n = c) :
    n = c.toNat := by
  by_cases hn : n.isValidChar
  · rw [← h, Char.ofNat, dif_pos hn]
    rfl
  · rw [← h, Char.ofNat, dif_neg hn] at hc
    cases hc

lemma eq_of_mem_start {c : Char} (hpos : 0 < c.toNat) (h : some c ∈ (start b).1) :
    b = .ofNat c.toNat := by
  rw [start] at h
  cases hlead : lead b with
  | single d =>
    rw [hlead] at h
    obtain rfl : c = d := by simpa using h
    simp only [lead] at hlead
    split_ifs at hlead
    rw [← toNat_of_ofNat_eq hpos (Lead.single.inj hlead), UInt8.ofNat_toNat]
  | starts p => simp [hlead] at h
  | none => simp [hlead] at h

lemma mem_of_mem_unitsFrom {c : Char} (hpos : 0 < c.toNat) (hc : c.toNat < 0x80)
    {state : Option Pending} (h : ∀ p ∈ state, p.Wide) {bytes : List UInt8}
    (hmem : some c ∈ unitsFrom state bytes) : UInt8.ofNat c.toNat ∈ bytes := by
  induction bytes generalizing state with
  | nil => cases state <;> simp [unitsFrom] at hmem
  | cons b bytes ih =>
    rw [unitsFrom_cons, List.mem_append] at hmem
    refine List.mem_cons.2 (hmem.imp (fun hin => ?_) (ih (wide_step h)))
    cases state with
    | none => exact (eq_of_mem_start hpos hin).symm
    | some p =>
      obtain ⟨hlow, hvalue⟩ := h p rfl
      rw [step] at hin
      split_ifs at hin with hbounds howed
      · -- the value of a sequence that is over is 0x80 or greater
        have hread : p.value * 64 + (b.toNat - 0x80) = c.toNat :=
          toNat_of_ofNat_eq hpos (by simpa [eq_comm] using hin)
        omega
      · cases hin
      · exact (eq_of_mem_start hpos (by simpa using hin)).symm

lemma mem_of_mem_units {c : Char} (hpos : 0 < c.toNat) (hc : c.toNat < 0x80)
    {bytes : List UInt8} (h : some c ∈ units bytes) : UInt8.ofNat c.toNat ∈ bytes :=
  mem_of_mem_unitsFrom hpos hc (by simp) (units_eq_unitsFrom bytes ▸ h)

/-! ### Something is shown for every byte -/

lemma isSome_of_step_eq_nil {state : Option Pending} (h : (step state b).1 = []) :
    (step state b).2.isSome := by
  have hstart (h : (start b).1 = []) : (start b).2.isSome := by
    rw [start] at h ⊢
    cases hlead : lead b <;> simp_all
  cases state with
  | none => exact hstart h
  | some p =>
    rw [step] at h ⊢
    split_ifs at h ⊢
    rfl

lemma unitsFrom_ne_nil {state : Option Pending} {bytes : List UInt8}
    (h : state.isSome ∨ bytes ≠ []) : unitsFrom state bytes ≠ [] := by
  induction bytes generalizing state with
  | nil =>
    obtain ⟨p, rfl⟩ := Option.isSome_iff_exists.1 (h.resolve_right (by simp))
    simp [unitsFrom]
  | cons b bytes ih =>
    intro hnil
    rw [unitsFrom_cons, List.append_eq_nil_iff] at hnil
    exact ih (.inl (isSome_of_step_eq_nil hnil.1)) hnil.2

lemma decodeLossy_eq_nil_iff {bytes : List UInt8} : decodeLossy bytes = [] ↔ bytes = [] := by
  refine ⟨fun h => ?_, fun h => h ▸ rfl⟩
  rw [decodeLossy, units_eq_unitsFrom, List.map_eq_nil_iff] at h
  exact Classical.not_not.1 fun hne => unitsFrom_ne_nil (.inr hne) h

/-! ### Characters of one byte in a text -/

lemma decodeLossy_append_cons (body rest : List UInt8) (hb : b.toNat < 0x80) :
    decodeLossy (body ++ b :: rest) =
      decodeLossy body ++ Char.ofNat b.toNat :: decodeLossy rest := by
  simp [decodeLossy, units_append_cons body rest hb]

lemma mem_of_mem_decodeLossy {c : Char} (hpos : 0 < c.toNat) (hc : c.toNat < 0x80)
    {bytes : List UInt8} (h : c ∈ decodeLossy bytes) : UInt8.ofNat c.toNat ∈ bytes := by
  obtain ⟨unit, hunit, rfl⟩ := List.mem_map.1 h
  cases unit with
  | none => exact absurd hc (by decide)
  | some d => exact mem_of_mem_units hpos hc hunit

lemma mem_of_mem_encode {text : List Char} (hb : b.toNat < 0x80) (h : b ∈ encode text) :
    Char.ofNat b.toNat ∈ text := by
  obtain ⟨before, after, hsplit⟩ := List.append_of_mem h
  have hunits := units_encode text
  rw [hsplit, units_append_cons before after hb] at hunits
  have hmem : some (Char.ofNat b.toNat) ∈ text.map some :=
    hunits ▸ List.mem_append_right _ List.mem_cons_self
  simpa using hmem

lemma decodeLossy_encode (text : List Char) : decodeLossy (encode text) = text := by
  simp [decodeLossy, units_encode, Function.comp_def]

end JobSupervision.Text.Utf8
