/-
# Delays between recovery attempts

The delay before an attempt should be the first delay of the policy, doubled from attempt to attempt
and no longer than the greatest delay of the policy (`RetryPolicy.doubledMs`).  It is calculated in
words: the exponent stops at 63, and the product at the greatest word.  A product that does not fit
into a word exceeds every greatest delay, so the second stop does no harm; and neither does the
first one for a first delay of two milliseconds or more.  A first delay of one millisecond, however,
never gets beyond `2 ^ 63` (`RetryPolicy.backoffMs_eq_doubledMs_iff`).
-/
import JobSupervision.Container.Retry
import Mathlib.Algebra.Group.Nat.Defs

namespace JobSupervision.RetryPolicy

variable {p : RetryPolicy} {attempt : UInt16}

/-- The delay before an attempt, in milliseconds, as it would be without bounds on numbers. -/
def doubledMs (p : RetryPolicy) (attempt : UInt16) : Nat :=
  min (p.baseDelayMs.toNat * 2 ^ (attempt.toNat - 1)) p.maxBackoffMs.toNat

/-- Whether the doubling stops too early for an attempt: the delay has come to `2 ^ 63` and could
still grow. -/
structure StopsEarly (p : RetryPolicy) (attempt : UInt16) : Prop where
  /-- The first delay is one millisecond. -/
  base : p.baseDelayMs = 1
  /-- The delay was to be doubled more than 63 times. -/
  late : 65 ≤ attempt.toNat
  /-- Longer delays are allowed. -/
  cap : 2 ^ 63 < p.maxBackoffMs.toNat

/-- The greatest word is no bound besides the greatest delay of the policy. -/
lemma backoffMs_of_ne_zero (h : attempt ≠ 0) :
    p.backoffMs attempt =
      min (p.baseDelayMs.toNat * 2 ^ min (attempt.toNat - 1) 63) p.maxBackoffMs.toNat := by
  have hcap : p.maxBackoffMs.toNat ≤ greatestDelay := Nat.le_of_lt_succ p.maxBackoffMs.toNat_lt
  rw [backoffMs, if_neg h]
  show min (min (p.baseDelayMs.toNat * 2 ^ min (attempt.toNat - 1) 63) greatestDelay) _ = _
  omega

lemma backoffMs_of_le (h : attempt ≠ 0) (hle : attempt.toNat ≤ 64) :
    p.backoffMs attempt = p.doubledMs attempt := by
  rw [backoffMs_of_ne_zero h, doubledMs, Nat.min_eq_left (show attempt.toNat - 1 ≤ 63 by omega)]

section Late

variable (hlate : 65 ≤ attempt.toNat)

include hlate

lemma backoffMs_of_late :
    p.backoffMs attempt = min (p.baseDelayMs.toNat * 2 ^ 63) p.maxBackoffMs.toNat := by
  have hne : attempt ≠ 0 := by
    rintro rfl
    exact absurd hlate (by decide)
  rw [backoffMs_of_ne_zero hne, Nat.min_eq_right (show 63 ≤ attempt.toNat - 1 by omega)]

lemma doubledMs_of_late (hbase : p.baseDelayMs ≠ 0) :
    p.doubledMs attempt = p.maxBackoffMs.toNat := by
  have hpos : 0 < p.baseDelayMs.toNat :=
    Nat.pos_of_ne_zero fun hzero => hbase (UInt64.toNat_inj.1 hzero)
  have hcap : p.maxBackoffMs.toNat < 2 ^ 64 := p.maxBackoffMs.toNat_lt
  have hpow : 2 ^ 64 ≤ 2 ^ (attempt.toNat - 1) := Nat.pow_le_pow_right (by decide) (by omega)
  have hscaled : 2 ^ (attempt.toNat - 1) ≤ p.baseDelayMs.toNat * 2 ^ (attempt.toNat - 1) :=
    Nat.le_mul_of_pos_left _ hpos
  rw [doubledMs]
  omega

end Late

/-- The delay before an attempt is the doubled one, unless the doubling stops too early. -/
theorem backoffMs_eq_doubledMs_iff (h : 1 ≤ attempt.toNat) :
    p.backoffMs attempt = p.doubledMs attempt ↔ ¬ p.StopsEarly attempt := by
  have hne : attempt ≠ 0 := by
    rintro rfl
    exact absurd h (by decide)
  have hcap : p.maxBackoffMs.toNat < 2 ^ 64 := p.maxBackoffMs.toNat_lt
  constructor
  · rintro heq ⟨hbase, hlate, hlong⟩
    have hone : p.baseDelayMs.toNat = 1 := by rw [hbase]; rfl
    rw [backoffMs_of_late hlate, doubledMs_of_late hlate (by rw [hbase]; decide), hone] at heq
    omega
  · intro hgoes
    rcases Nat.lt_or_ge attempt.toNat 65 with hearly | hlate
    · exact backoffMs_of_le hne (by omega)
    · -- from a delay of two milliseconds on 63 doublings are enough to exceed every word
      rcases Nat.lt_or_ge p.baseDelayMs.toNat 2 with hsmall | hbig
      · by_cases hzero : p.baseDelayMs.toNat = 0
        · -- nothing is doubled
          rw [backoffMs_of_late hlate, doubledMs, hzero, Nat.zero_mul, Nat.zero_mul]
        · have hbase : p.baseDelayMs = 1 := UInt64.toNat_inj.1 (show _ = 1 by omega)
          have hshort : p.maxBackoffMs.toNat ≤ 2 ^ 63 :=
            Nat.le_of_not_lt fun hlong => hgoes ⟨hbase, hlate, hlong⟩
          rw [backoffMs_of_late hlate, doubledMs_of_late hlate (by rw [hbase]; decide)]
          omega
      · have hbase : p.baseDelayMs ≠ 0 := by
          intro hzero
          rw [hzero] at hbig
          exact absurd hbig (by decide)
        rw [backoffMs_of_late hlate, doubledMs_of_late hlate hbase]
        omega

/-- Sixty milliseconds doubled a hundred times have come to the greatest delay. -/
theorem backoffMs_eq_doubledMs_hundredth :
    1 ≤ (100 : UInt16).toNat ∧
      (⟨200, 60, 0xffffffffffffffff⟩ : RetryPolicy).backoffMs 100 =
        (⟨200, 60, 0xffffffffffffffff⟩ : RetryPolicy).doubledMs 100 :=
  ⟨by decide, (backoffMs_eq_doubledMs_iff (by decide)).2 fun h => absurd h.base (by decide)⟩

/-- One millisecond doubled 64 times is a delay of `2 ^ 64` milliseconds, and the policy allows all
but one of them; the delay is half as long. -/
theorem not_backoffMs_eq_doubledMs_millisecond :
    ¬ (⟨100, 1, 0xffffffffffffffff⟩ : RetryPolicy).backoffMs 65 =
        (⟨100, 1, 0xffffffffffffffff⟩ : RetryPolicy).doubledMs 65 := by
  decide

end JobSupervision.RetryPolicy
