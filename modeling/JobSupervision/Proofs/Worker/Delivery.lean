/-
# What a worker leaves in its directory

A worker whose files are in one directory reads the payload there as it was written
(`WorkPayload.readFrom_bytes`) and leaves a record that is read as it was written
(`ResultRecord.writeAtomic_of_fits`, `ResultRecord.ofBytes?_bytes`).  The one thing that can keep
it from that is a path that is too long for the file beside the record.
-/
import JobSupervision.Worker.Run
import JobSupervision.Proofs.FileSystem
import JobSupervision.Proofs.Worker.Codecs

namespace JobSupervision

open FileSystem (Fits)

variable {fs : FileSystem} {p : Path} {l : Location} {name : String}

/-! ### Payloads -/

theorem WorkPayload.readFrom_bytes {order : WorkPayload} {path : Path}
    (hread : fs.read path = .ok order.bytes) (hversion : order.version = currentVersion)
    (hsorted : order.params.Sorted) (hplain : order.encode.Plain Json.maxDepth) :
    readFrom fs path = .ok order := by
  have hparse : Json.Doc.parseBytes? order.bytes = some order.encode.toDoc :=
    Json.Doc.parseBytes?_render hplain
  simp [readFrom, hread, hparse, decode?_encode hsorted, hversion]

/-! ### Records -/

namespace ResultRecord

/-- Whether a record can be read as it was written. -/
def Readable : ResultRecord → Prop
  | .success value => value.Sorted ∧ value.Plain (Json.maxDepth - 1)
  | .failure _ => True

lemma plain_encode {r : ResultRecord} (h : r.Readable) : r.encode.Plain Json.maxDepth := by
  cases r with
  | success value =>
    have hvalue : value.Plain 126 := h.2
    simp [encode, Json.Plain, Json.PlainMembers, Json.maxDepth, hvalue]
  | failure cause =>
    have hcause : cause.encode.Plain 126 := cause.plain_encode 124
    simp [encode, Json.Plain, Json.PlainMembers, Json.maxDepth, hcause]

/-- A record is read as it was written. -/
theorem ofBytes?_bytes {r : ResultRecord} (h : r.Readable) : ofBytes? r.bytes = some r := by
  rw [ofBytes?, bytes, Json.Doc.parseBytes?_render (plain_encode h), Option.bind_some]
  cases r with
  | success value => exact decode?_success h.1
  | failure cause => exact decode?_failure cause

lemma staging_join (hp : p.Continues) (hname : Path.IsName name)
    (hstaging : Path.IsName (name ++ ".tmp")) :
    staging (p.join ⟨name⟩) = p.join ⟨name ++ ".tmp"⟩ := by
  rw [staging, Path.append, Path.text_join hname.whole.1 hp, String.append_assoc,
    ← Path.text_join hstaging.whole.1 hp]

/-- A record is written into a directory if the path of the file beside it is not too long. -/
theorem writeAtomic_of_fits (h : fs.Leads p l) (hname : Path.IsName name)
    (hstaging : Path.IsName (name ++ ".tmp")) (hnew : fs.node? (l ++ [name.toList]) = none)
    (hnew' : fs.node? (l ++ [(name ++ ".tmp").toList]) = none)
    (hfits : Fits (staging (p.join ⟨name⟩))) (r : ResultRecord) :
    ∃ after, r.writeAtomic fs (p.join ⟨name⟩) = (.ok (), after) ∧ after.Leads p l ∧
      after.node? (l ++ [name.toList]) = some (.file r.bytes false) := by
  have hfinal : Fits (p.join ⟨name⟩) := hfits.of_append
  rw [staging_join h.continues hname hstaging] at hfits
  let staged := fs.put (l ++ [(name ++ ".tmp").toList]) (.file r.bytes false)
  have hwrite : fs.write (p.join ⟨name ++ ".tmp"⟩) r.bytes = .ok staged := by
    rw [h.write_new hstaging hnew', if_pos hfits]
  have hkeeps : fs.Keeps staged := FileSystem.keeps_put (by rw [hnew']; nofun)
  have hnode : staged.node? (l ++ [(name ++ ".tmp").toList]) = some (.file r.bytes false) :=
    FileSystem.node?_put _ _ _ (by simp)
  have hfree : staged.node? (l ++ [name.toList]) = none := by
    have hne : l ++ [name.toList] ≠ l ++ [(name ++ ".tmp").toList] := by simp
    rw [FileSystem.node?_put_of_ne hne, hnew]
  obtain ⟨after, hrename, hkeeps', hrecord⟩ :=
    (h.of_keeps hkeeps).rename_new hstaging hname hfits hfinal hnode hfree
  refine ⟨after, ?_, h.of_keeps (hkeeps.trans hkeeps'), hrecord⟩
  rw [writeAtomic, staging_join h.continues hname hstaging, hwrite]
  simp only [hrename]

lemma writeAtomic_of_not_fits (h : fs.Leads p l) (hname : Path.IsName name)
    (hstaging : Path.IsName (name ++ ".tmp"))
    (hnew : fs.node? (l ++ [(name ++ ".tmp").toList]) = none)
    (hfits : ¬ Fits (staging (p.join ⟨name⟩))) (r : ResultRecord) :
    ∃ fault, r.writeAtomic fs (p.join ⟨name⟩) = (.error fault, fs) := by
  rw [staging_join h.continues hname hstaging] at hfits
  have hwrite : fs.write (staging (p.join ⟨name⟩)) r.bytes = .error .nameTooLong := by
    rw [staging_join h.continues hname hstaging, h.write_new hstaging hnew, if_neg hfits]
  exact ⟨_, writeAtomic_of_write_error hwrite⟩

end ResultRecord

end JobSupervision
