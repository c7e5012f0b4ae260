/-
# Reading back what was printed

The compact text of a value is one of its texts (`spells_render`), so it is read back if its numbers
are integers that fit into 64 bits and its containers are not nested too deeply.
-/
import JobSupervision.Json.Printer
import JobSupervision.Proofs.Json.Reading
import JobSupervision.Proofs.Text.Utf8

namespace JobSupervision.Json

/-! ### Characters and numbers -/

lemma spellsChar_escapeChar (c : Char) : SpellsChar (escapeChar c) c := by
  by_cases hletter : c ∈ ['"', '\\', '\x08', '\t', '\n', '\x0c', '\r']
  · simp only [List.mem_cons, List.not_mem_nil, or_false] at hletter
    rcases hletter with rfl | rfl | rfl | rfl | rfl | rfl | rfl <;>
      exact .letter (by simp [escapeLetters])
  simp only [List.mem_cons, List.not_mem_nil, or_false, not_or] at hletter
  obtain ⟨hquote, hback, hb, ht, hn, hf, hr⟩ := hletter
  by_cases hcontrol : c.toNat < 0x20
  · have hescape : escapeChar c =
        ['\\', 'u', '0', '0', hexDigit (c.toNat / 16), hexDigit (c.toNat % 16)] := by
      simp [escapeChar, *]
    rw [hescape]
    refine .unit ⟨_, _, _, _, 0, 0, c.toNat / 16, c.toNat % 16, rfl, ⟨by decide, .inl rfl⟩,
      ⟨by decide, .inl rfl⟩, ⟨by omega, .inl rfl⟩, ⟨by omega, .inl rfl⟩, by omega⟩
  · have hescape : escapeChar c = [c] := by simp [escapeChar, *]
    rw [hescape]
    exact .plain (Nat.le_of_not_lt hcontrol) hquote hback

lemma spells_renderString (s : String) : Spells (renderString s) (.str s) := by
  have hchars : ∀ cs : List Char, SpellsChars (cs.flatMap escapeChar) cs := by
    intro cs
    induction cs with
    | nil => exact .nil
    | cons c cs ih => exact .cons (spellsChar_escapeChar c) ih
  exact .str (hchars s.toList)

lemma spells_renderInt {n : Int} (hlow : -0x8000000000000000 ≤ n)
    (hhigh : n ≤ 0xffffffffffffffff) : Spells (renderInt n) (.num (.int n)) := by
  unfold renderInt
  split
  · have hback : n = -(n.natAbs : Int) := by omega
    generalize n.natAbs = m at hback
    subst hback
    exact .negative (by omega) (by omega)
  · have hback : n = (n.natAbs : Int) := by omega
    generalize n.natAbs = m at hback
    subst hback
    exact .nat (by omega)

/-! ### Values -/

mutual

/-- The compact text of a value is one of its texts. -/
theorem spells_render : ∀ {depth : Nat} {j : Json}, j.Plain depth → Spells j.render j
  | _, .null, _ => by rw [render]; exact .null
  | _, .bool true, _ => by rw [render]; exact .yes
  | _, .bool false, _ => by rw [render]; exact .no
  | _, .num (.int n), h => by
    rw [Plain] at h
    rw [render, Number.render]
    exact spells_renderInt h.1 h.2
  | _, .num (.float x), h => by
    rw [Plain] at h
    exact h.elim
  | _, .str s, _ => by rw [render]; exact spells_renderString s
  | _, .arr [], _ => by
    rw [render, renderItems]
    exact .emptyArr (by simp)
  | _, .arr (j :: items), h => by
    rw [Plain] at h
    rw [render]
    exact .arr (spellsItems_renderItems h.2 (List.cons_ne_nil j items))
  | _, .obj [], _ => by
    rw [render, renderMembers]
    exact .emptyObj (by simp)
  | _, .obj (m :: members), h => by
    rw [Plain] at h
    rw [render]
    exact .obj (spellsMembers_renderMembers h.2 (List.cons_ne_nil m members))

theorem spellsItems_renderItems : ∀ {depth : Nat} {items : List Json}, PlainItems depth items →
    items ≠ [] → SpellsItems (renderItems items) items
  | _, [], _, hne => absurd rfl hne
  | _, [j], h, _ => by
    rw [PlainItems] at h
    rw [renderItems]
    exact .one (spells_render h.1)
  | _, j :: k :: items, h, _ => by
    rw [PlainItems] at h
    rw [renderItems]
    exact .more (spells_render h.1) (spellsItems_renderItems h.2 (List.cons_ne_nil k items))

theorem spellsMembers_renderMembers : ∀ {depth : Nat} {members : List (String × Json)},
    PlainMembers depth members → members ≠ [] → SpellsMembers (renderMembers members) members
  | _, [], _, hne => absurd rfl hne
  | _, [(key, j)], h, _ => by
    rw [PlainMembers] at h
    rw [renderMembers]
    exact .one (spells_renderString key) (spells_render h.1)
  | _, (key, j) :: m :: members, h, _ => by
    rw [PlainMembers] at h
    rw [renderMembers]
    exact .more (spells_renderString key) (spells_render h.1)
      (spellsMembers_renderMembers h.2 (List.cons_ne_nil m members))

end

/-! ### Texts and bytes -/

lemma Doc.parse?_render {j : Json} (h : j.Plain maxDepth) :
    Doc.parse? j.render = some j.toDoc := by
  rw [Doc.parse?_spells (spells_render h), within_of_plain h]

lemma markUndecodable_map_some (escaping : Bool) (text : List Char) :
    markUndecodable escaping (text.map some) = text := by
  induction text generalizing escaping with
  | nil => rfl
  | cons c text ih => rw [List.map_cons, markUndecodable, ih]

lemma Doc.parseBytes?_encode (s : List Char) :
    Doc.parseBytes? (Text.Utf8.encode s) = Doc.parse? s := by
  rw [Doc.parseBytes?, Text.Utf8.units_encode, markUndecodable_map_some]

lemma Doc.parseBytes?_render {j : Json} (h : j.Plain maxDepth) :
    Doc.parseBytes? (Text.Utf8.encode j.render) = some j.toDoc := by
  rw [Doc.parseBytes?_encode, Doc.parse?_render h]

end JobSupervision.Json
