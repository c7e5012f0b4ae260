/-
# Digests tell flows apart

The digest of a flow is taken of its compact text.  Two texts of flows lead to the same bytes
exactly if they mean the same (`BuildManifest.digest_faithful`): reading forgets how a value was
written, and the compact text of what was read is told by the meaning.  An artifact that was written
and read back has the flow that its digest was taken of (`JobArtifact.eq_of_readBack?`).
-/
import JobSupervision.Proofs.Json.Meaning
import JobSupervision.Proofs.Json.Recognition
import JobSupervision.Proofs.Wire
import JobSupervision.Proofs.Worker.Dependencies

namespace JobSupervision

open Json

/-! ### Artifacts -/

namespace JobArtifact

variable {a a' : JobArtifact}

/-- The artifact after it was written and read back. -/
def readBack? (a : JobArtifact) : Option JobArtifact :=
  (Doc.parseBytes? (Text.Utf8.encode a.encode.render)).bind decode?

lemma plain_encode_iff {depth : Nat} : a.encode.Plain (depth + 2) ↔ a.flow.Plain (depth + 1) := by
  simp [encode, Plain, PlainMembers, JobId.encode, Path.plainItems_encode]

lemma readBack?_of_plain (hsorted : a.flow.Sorted) (hplain : a.flow.Plain 126) :
    a.readBack? = some a := by
  rw [readBack?, Doc.parseBytes?_render (plain_encode_iff.2 hplain)]
  exact decode?_encode hsorted

/-- The flow of an artifact in a document can be read. -/
lemma isSome_flow {jobId flowDigest dependencies flow : Doc}
    (h : decode? (.obj [(some "job_id", jobId), (some "flow_digest", flowDigest),
      (some "dependencies", dependencies), (some "flow", flow)]) = some a) :
    flow.toJson?.isSome := by
  have hfields : Doc.fields? ["job_id", "flow_digest", "dependencies", "flow"]
      (.obj [(some "job_id", jobId), (some "flow_digest", flowDigest),
        (some "dependencies", dependencies), (some "flow", flow)]) =
      some ⟨false, [("job_id", jobId), ("flow_digest", flowDigest),
        ("dependencies", dependencies), ("flow", flow)]⟩ := by
    simp [Doc.fields?, Doc.knownMembers]
  rw [decode?, hfields] at h
  cases hflow : flow.toJson? with
  | none => simp [Doc.Fields.required, Doc.Fields.find?, hflow] at h
  | some j => rfl

/-- Whatever is read back of an artifact is the artifact. -/
theorem eq_of_readBack? (hsorted : a.flow.Sorted) (hplain : a.flow.Plain maxDepth)
    (h : a.readBack? = some a') : a' = a := by
  have hread : decode? (a.encode.within maxDepth) = some a' := by
    rwa [readBack?, Doc.parseBytes?_encode,
      Doc.parse?_spells (spells_render (plain_encode_iff.2 hplain)), Option.bind_some] at h
  -- the flow is read, so it is nested no deeper than there was room for inside the artifact
  have hwithin : a.encode.within maxDepth =
      .obj [(some "job_id", a.jobId.encode.within 126),
        (some "flow_digest", (Json.str a.flowDigest).within 126),
        (some "dependencies", (Json.arr (a.dependencies.map Path.encode)).within 126),
        (some "flow", a.flow.within 126)] := by
    simp [encode, within, membersWithin, container, maxDepth]
  rw [hwithin] at hread
  have hflow : a.flow.Plain 126 := (spells_render hplain).plain (isSome_flow hread)
  cases (readBack?_of_plain hsorted hflow).symm.trans h
  rfl

end JobArtifact

/-! ### Digests -/

namespace BuildManifest

lemma flowBytes_eq_iff {f g : Json} : flowBytes f = flowBytes g ↔ f.render = g.render := by
  refine ⟨fun h => ?_, fun h => congrArg Text.Utf8.encode h⟩
  have hunits := congrArg Text.Utf8.decodeLossy h
  rwa [flowBytes, flowBytes, Text.Utf8.decodeLossy_encode, Text.Utf8.decodeLossy_encode] at hunits

/-- The digest tells flows apart.  The digest of an artifact is the hash of the bytes of its flow,
which is that of the manifest.  The texts of a value are all texts that are read as the value, as
far as it is plain, and those of them that can be read are those that are not nested too deeply.  Of
two such texts the same bytes are hashed exactly if the texts mean the same, and then the digests of
the artifacts are the same.  And the digest of an artifact can be found again from what was read
back of it, which is there if the flow leaves room for the artifact around it. -/
theorem digest_faithful :
    (∀ {m : BuildManifest} {ctx : WorkerContext} {fs : FileSystem} {a : JobArtifact},
      (m.build ctx fs).2 = .ok a → (m.execute ctx fs).ending = .value a.encode ∧
        a.flow = m.flow ∧ a.flowDigest = Digest.Sha256.hexDigest (flowBytes a.flow)) ∧
    (∀ {s : List Char} {j : Json}, j.Plain maxDepth →
      (Doc.parse? s = some j.toDoc ↔ Spells s j)) ∧
    (∀ {s : List Char} {j : Json}, Spells s j → ((value? s).isSome ↔ j.Plain maxDepth)) ∧
    (∀ {s t : List Char} {j k f g : Json}, Spells s j → Spells t k → value? s = some f →
      value? t = some g → (flowBytes f = flowBytes g ↔ j.meaning = k.meaning)) ∧
    (∀ {s t : List Char} {j k f g : Json} {m m' : BuildManifest} {ctx ctx' : WorkerContext}
      {fs fs' : FileSystem} {a a' : JobArtifact}, Spells s j → Spells t k → value? s = some f →
      value? t = some g → j.meaning = k.meaning → m.flow = f → m'.flow = g →
      (m.build ctx fs).2 = .ok a → (m'.build ctx' fs').2 = .ok a' →
        a.flowDigest = a'.flowDigest) ∧
    ∀ {s : List Char} {j f : Json} {m : BuildManifest} {ctx : WorkerContext} {fs : FileSystem}
      {a : JobArtifact}, Spells s j → value? s = some f → m.flow = f →
      (m.build ctx fs).2 = .ok a →
        (∀ a', a.readBack? = some a' → flowDigest a'.flow = a.flowDigest ∧ a' = a) ∧
        (j.Plain 126 → a.readBack?.isSome) := by
  have hbytes {s t : List Char} {j k f g : Json} (hs : Spells s j) (ht : Spells t k)
      (hf : value? s = some f) (hg : value? t = some g) :
      flowBytes f = flowBytes g ↔ j.meaning = k.meaning :=
    flowBytes_eq_iff.trans (render_eq_iff hs ht hf hg)
  refine ⟨?_, Doc.parse?_eq_toDoc_iff, fun h => ?_, hbytes, ?_, ?_⟩
  · intro m ctx fs a ha
    obtain ⟨-, rfl⟩ := build_eq_ok ha
    exact ⟨ending_execute_of_build ha, rfl, rfl⟩
  · rw [Option.isSome_iff_exists]
    constructor
    · rintro ⟨f, hf⟩
      exact (h.value?_eq_some_iff.1 hf).1
    · intro hplain
      exact ⟨_, h.value?_eq_some_iff.2 ⟨hplain, rfl⟩⟩
  · intro s t j k f g m m' ctx ctx' fs fs' a a' hs ht hf hg hmeaning hm hm' ha ha'
    obtain ⟨-, rfl⟩ := build_eq_ok ha
    obtain ⟨-, rfl⟩ := build_eq_ok ha'
    subst hm hm'
    exact congrArg Digest.Sha256.hexDigest ((hbytes hs ht hf hg).2 hmeaning)
  · intro s j f m ctx fs a hs hf hm ha
    obtain ⟨-, rfl⟩ := build_eq_ok ha
    subst hm
    obtain ⟨hplain, hflow⟩ := hs.value?_eq_some_iff.1 hf
    have hsorted : m.flow.Sorted := hflow ▸ sorted_sorted j
    refine ⟨fun a' ha' => ?_, fun hroom => ?_⟩
    · have hsame := JobArtifact.eq_of_readBack? hsorted (hflow ▸ hplain.sorted) ha'
      exact ⟨by rw [hsame], hsame⟩
    · rw [JobArtifact.readBack?_of_plain hsorted (hflow ▸ hroom.sorted)]
      rfl

/-- The text of a flow as it is printed, and another one with blanks, with the members in another
order, with an escape and with a member that is overridden. -/
theorem digest_faithful_respelled :
    let j : Json := .obj [("b", .nat 1), ("a", .str "A")]
    let k : Json := .obj [("a", .str "x"), ("a", .str "A"), ("b", .nat 1)]
    let s : List Char := "\x7b\"b\":1,\"a\":\"A\"\x7d".toList
    let t : List Char := "\x7b\"a\":\"x\", \"a\":\"\\u0041\",\"b\":1\n\x7d".toList
    let built (f : Json) := (build ⟨⟨"job"⟩, f, []⟩ ⟨[], none, none, []⟩ ⟨[], []⟩).2
    ∃ f g a a', Spells s j ∧ Spells t k ∧ Doc.parse? t = some k.toDoc ∧ value? s = some f ∧
      value? t = some g ∧ flowBytes f = flowBytes g ∧ built f = .ok a ∧ built g = .ok a' ∧
      a.flowDigest = a'.flowDigest ∧ a.flowDigest = Digest.Sha256.hexDigest (flowBytes f) ∧
      a.readBack?.isSome := by
  intro j k s t built
  have hj : j.Plain 126 := by simp [j, Plain, PlainMembers, nat]
  have hk : k.Plain maxDepth := by simp [k, Plain, PlainMembers, nat, maxDepth]
  have hs : Spells s j := by
    have hrender : s = j.render := by decide +kernel
    rw [hrender]
    exact spells_render hj
  have ht : Spells t k := by
    have ha : Spells (renderString "a") (.str "a") := spells_renderString "a"
    have hA : Spells ('"' :: ('\\' :: 'u' :: ['0', '0', '4', '1'] ++ [] ++ ['"'])) (.str "A") := by
      refine .str (.cons (.unit ⟨'0', '0', '4', '1', 0, 0, 4, 1, rfl, ?_, ?_, ?_, ?_, rfl⟩) .nil)
      all_goals exact ⟨by decide, .inl rfl⟩
    have hone : Spells (Nat.toDigits 10 1) (.nat 1) := .nat (by decide)
    have hmembers := SpellsMembers.more ha (spells_renderString "x")
      (.more (.before (c := ' ') rfl ha) hA
        (.one (spells_renderString "b") (.after (c := '\n') rfl hone)))
    convert Spells.obj hmembers using 1
    decide +kernel
  have hsame : j.sorted = k.sorted := by
    simp only [j, k, nat, sorted, sortedMembers, sortMembers, insertMember, List.foldl_cons,
      List.foldl_nil, String.reduceLT, String.reduceEq, ite_true, ite_false]
  have hmeaning : j.meaning = k.meaning := by rw [← meaning_sorted j, hsame, meaning_sorted]
  have hj' : j.Plain maxDepth := by simp [j, Plain, PlainMembers, nat, maxDepth]
  have hf : value? s = some j.sorted := hs.value?_eq_some_iff.2 ⟨hj', rfl⟩
  have hg : value? t = some k.sorted := ht.value?_eq_some_iff.2 ⟨hk, rfl⟩
  have ha : built j.sorted = .ok _ := build_of_found (by simp [j, sorted, isObject]) rfl
  have ha' : built k.sorted = .ok _ := build_of_found (by simp [k, sorted, isObject]) rfl
  obtain ⟨hhash, hread, -, hbytes, hdigest, hback⟩ := digest_faithful
  obtain ⟨-, hflow, hhashed⟩ := hhash ha
  exact ⟨_, _, _, _, hs, ht, (hread hk).2 ht, hf, hg, (hbytes hs ht hf hg).2 hmeaning, ha, ha',
    hdigest hs ht hf hg hmeaning rfl rfl ha ha', hhashed.trans (by rw [hflow]),
    (hback hs hf rfl ha).2 hj⟩

end BuildManifest

end JobSupervision
