/-
# Ids of runs

The id of a run on a local cluster ends with the number of the run, behind the last separator.  The
id of the job may hold separators too, and digits behind them; still the number can be read off
(`LocalCluster.number_eq_of_runId_eq`), so that runs with different numbers have different ids.
-/
import JobSupervision.Cluster.Local
import JobSupervision.Proofs.FileSystem

namespace JobSupervision

namespace ScriptedCluster

lemma ofDigitChars_threeDigits (n : Nat) :
    Nat.ofDigitChars 10 (threeDigits n).toList 0 = n := by
  have hzeros (k : Nat) (rest : List Char) :
      Nat.ofDigitChars 10 (List.replicate k '0' ++ rest) 0 = Nat.ofDigitChars 10 rest 0 := by
    induction k with
    | zero => rfl
    | succ k ih => rw [List.replicate_succ, List.cons_append, ← ih]; rfl
  rw [threeDigits, String.toList_append, String.toList_ofList, hzeros]
  simp [Nat.ofDigitChars_ten_toDigits]

lemma notMem_threeDigits (n : Nat) : '_' ∉ (threeDigits n).toList := by
  intro h
  rw [threeDigits, String.toList_append, String.toList_ofList, List.mem_append] at h
  rcases h with hzero | hdigit
  · exact absurd (List.eq_of_mem_replicate hzero) (by decide)
  · simp at hdigit

end ScriptedCluster

namespace LocalCluster

variable {jobId jobId' : JobId} {number number' : UInt64}

lemma splitAt_runId (jobId : JobId) (number : UInt64) :
    ∃ front, Path.splitAt '_' (runId jobId number).text.toList =
      front ++ [(ScriptedCluster.threeDigits number.toNat).toList] := by
  have hchars : (runId jobId number).text.toList = ("local_".toList ++ jobId.text.toList) ++
      '_' :: (ScriptedCluster.threeDigits number.toNat).toList := by
    simp [runId]
  rw [hchars, Path.splitAt_append_cons,
    Path.splitAt_of_notMem (ScriptedCluster.notMem_threeDigits _)]
  exact ⟨_, rfl⟩

/-- The number of a run can be read off its id. -/
theorem number_eq_of_runId_eq (h : runId jobId number = runId jobId' number') :
    number = number' := by
  obtain ⟨front, hfront⟩ := splitAt_runId jobId number
  obtain ⟨front', hfront'⟩ := splitAt_runId jobId' number'
  rw [h, hfront'] at hfront
  -- the ids of the jobs may part at other places, but the last part of both is a number
  have hdigits : (ScriptedCluster.threeDigits number'.toNat).toList =
      (ScriptedCluster.threeDigits number.toNat).toList := by
    have hlast := congrArg List.getLast? hfront
    rw [List.getLast?_concat, List.getLast?_concat] at hlast
    exact Option.some.inj hlast
  have hnumber := ScriptedCluster.ofDigitChars_threeDigits number.toNat
  rw [← hdigits, ScriptedCluster.ofDigitChars_threeDigits] at hnumber
  exact UInt64.toNat_inj.1 hnumber.symm

end LocalCluster

end JobSupervision
