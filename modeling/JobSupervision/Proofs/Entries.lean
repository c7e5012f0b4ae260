/-
# Lists of entries

Jobs and runs are kept in lists of entries, of which the first one for a key counts.
-/
import Mathlib.Data.List.Nodup
import Mathlib.Tactic.Common

namespace JobSupervision

variable {κ α β : Type} [DecidableEq κ] {l : List (κ × α)} {k k' : κ} {x : α}

lemma mem_of_lookup (h : l.lookup k = some x) : (k, x) ∈ l := by
  obtain ⟨l₁, l₂, rfl, -⟩ := List.lookup_eq_some_iff.1 h
  simp

lemma lookup_of_mem (hkeys : (l.map (·.1)).Nodup) (h : (k, x) ∈ l) : l.lookup k = some x := by
  obtain ⟨l₁, l₂, rfl⟩ := List.append_of_mem h
  refine List.lookup_eq_some_iff.2 ⟨l₁, l₂, rfl, fun p hp => ?_⟩
  rw [List.map_append, List.nodup_append] at hkeys
  exact bne_iff_ne.2 fun he => hkeys.2.2 p.1 (List.mem_map_of_mem hp) k (by simp) he.symm

lemma lookup_cons_eq_ite (l : List (κ × α)) (k k' : κ) (x : α) :
    ((k', x) :: l).lookup k = if k = k' then some x else l.lookup k := by
  rw [List.lookup_cons]
  by_cases h : k = k'
  · simp [h]
  · rw [beq_eq_false_iff_ne.2 h, if_neg h]

lemma mem_filter_ne (h : k' ≠ k) (x : α) :
    (k, x) ∈ l.filter (fun e => e.1 ≠ k') ↔ (k, x) ∈ l := by
  rw [List.mem_filter, and_iff_left]
  simpa using h.symm

lemma lookup_filter_ne (l : List (κ × α)) (h : k' ≠ k) :
    (l.filter fun e => e.1 ≠ k').lookup k = l.lookup k := by
  induction l with
  | nil => rfl
  | cons e l ih =>
    by_cases he : e.1 = k'
    · have hne : (k == e.1) = false := beq_eq_false_iff_ne.2 (he ▸ h.symm)
      rw [List.filter_cons_of_neg (by simpa using he), ih, List.lookup_cons, hne]
    · rw [List.filter_cons_of_pos (by simpa using he), List.lookup_cons, List.lookup_cons, ih]

/-- An entry that replaces the ones with its key is found, and hides no other one. -/
lemma lookup_cons_filter_ne (l : List (κ × α)) (k k' : κ) (x : α) :
    ((k', x) :: l.filter fun e => e.1 ≠ k').lookup k =
      if k = k' then some x else l.lookup k := by
  rw [lookup_cons_eq_ite]
  by_cases h : k = k'
  · rw [if_pos h, if_pos h]
  · rw [if_neg h, if_neg h, lookup_filter_ne l (Ne.symm h)]

lemma lookup_map_value (f : α → β) (l : List (κ × α)) (k : κ) :
    (l.map fun e => (e.1, f e.2)).lookup k = (l.lookup k).map f := by
  induction l with
  | nil => rfl
  | cons e l ih =>
    rw [List.map_cons, List.lookup_cons, List.lookup_cons, ih]
    cases k == e.1 <;> rfl

end JobSupervision
