/-
# Retry policies

How often and how fast a container tries to recover.  The delay before an attempt doubles
from attempt to attempt up to a greatest delay.
-/
import JobSupervision.Duration
import JobSupervision.Json.Decoder
import JobSupervision.Text.Inspect

namespace JobSupervision

/-- The bound on recovery attempts and the delays between them. -/
structure RetryPolicy where
  /-- How many attempts are made. -/
  maxAttempts : UInt16 := 5
  /-- The delay before the first attempt, in milliseconds. -/
  baseDelayMs : UInt64 := 1000
  /-- The greatest delay, in milliseconds. -/
  maxBackoffMs : UInt64 := 60000
deriving DecidableEq, Repr

/-- What happens after an inconclusive answer. -/
inductive RecoveryDecision where
  /-- Another attempt is made after a delay. -/
  | retry (attempt : UInt16) (delayMs : Nat)
  /-- The container is given up. -/
  | escalate
deriving DecidableEq, Repr

namespace RetryPolicy

/-- The default policy. -/
def standard : RetryPolicy := {}

/-- A policy without delays. -/
def immediate (maxAttempts : UInt16) : RetryPolicy := ⟨maxAttempts, 0, 0⟩

/-- The greatest number of milliseconds that a delay can have. -/
def greatestDelay : Nat := 0xffffffffffffffff

/-- The greatest number of an attempt. -/
def greatestAttempt : UInt16 := 0xffff

/-- The number after the number of an attempt; the greatest number stays. -/
def nextAttempt (attempt : UInt16) : UInt16 :=
  if attempt = greatestAttempt then attempt else attempt + 1

/-- The delay before an attempt, in milliseconds.  The doubling stops at `2⁶³`, and a delay
that does not fit into 64 bits is as long as any. -/
def backoffMs (p : RetryPolicy) (attempt : UInt16) : Nat :=
  if attempt = 0 then 0
  else
    let scaled := p.baseDelayMs.toNat * Nat.pow 2 (min (attempt.toNat - 1) 63)
    min (min scaled greatestDelay) p.maxBackoffMs.toNat

/-- Whether no further attempt is made after so many. -/
def exhausted (p : RetryPolicy) (attempts : UInt16) : Bool := p.maxAttempts ≤ attempts

/-- What happens after so many attempts. -/
def decide (p : RetryPolicy) (attempts : UInt16) : RecoveryDecision :=
  if p.exhausted attempts then .escalate
  else .retry (nextAttempt attempts) (p.backoffMs (nextAttempt attempts))

/-- A policy is encoded by its fields. -/
def encode (p : RetryPolicy) : Json :=
  .obj [("max_attempts", .nat p.maxAttempts.toNat), ("base_delay_ms", .nat p.baseDelayMs.toNat),
    ("max_backoff_ms", .nat p.maxBackoffMs.toNat)]

/-- The policy that a document holds. -/
def decode? (d : Json.Doc) : Option RetryPolicy := do
  let fields ← d.fields? ["max_attempts", "base_delay_ms", "max_backoff_ms"]
  let maxAttempts ← fields.defaulted "max_attempts" standard.maxAttempts Json.Doc.uint16?
  let baseDelayMs ← fields.defaulted "base_delay_ms" standard.baseDelayMs Json.Doc.uint64?
  let maxBackoffMs ← fields.defaulted "max_backoff_ms" standard.maxBackoffMs Json.Doc.uint64?
  return ⟨maxAttempts, baseDelayMs, maxBackoffMs⟩

/-- The inspection text. -/
def inspect (p : RetryPolicy) : String :=
  Text.inspectRecord "RetryPolicy"
    [("max_attempts", toString p.maxAttempts.toNat),
      ("base_delay_ms", toString p.baseDelayMs.toNat),
      ("max_backoff_ms", toString p.maxBackoffMs.toNat)]

/-- No delay is longer than the greatest one of the policy. -/
theorem backoffMs_le (p : RetryPolicy) (attempt : UInt16) :
    p.backoffMs attempt ≤ p.maxBackoffMs.toNat := by
  unfold backoffMs
  split
  · exact Nat.zero_le _
  · exact Nat.min_le_right _ _

/-- The number of the next attempt is one more as long as there is one. -/
theorem toNat_nextAttempt (attempt : UInt16) :
    (nextAttempt attempt).toNat = min (attempt.toNat + 1) 65535 := by
  have h := attempt.toNat_lt
  unfold nextAttempt
  split
  · next e => simp [e, greatestAttempt]
  · next e =>
    have : attempt.toNat ≠ 65535 := fun hn => e (UInt16.toNat_inj.1 hn)
    rw [UInt16.toNat_add]
    simp
    omega

end RetryPolicy

end JobSupervision
