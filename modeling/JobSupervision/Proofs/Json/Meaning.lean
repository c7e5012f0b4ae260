/-
# What values mean

The meaning of a value (`Json.Meaning`) leaves open in which order the members of an object stand:
an object means a partial function from keys to meanings, to which the last member with a key
contributes.  Sorting a value keeps its meaning (`meaning_sorted`), and of sorted values there is
one with each meaning (`eq_of_meaning_eq`).  A text that can be read is read as that one
(`Spells.value?_eq_some_iff`), which is told by its compact text (`eq_of_render_eq`).
-/
import JobSupervision.Proofs.Entries
import JobSupervision.Proofs.Json.Sorting

namespace JobSupervision.Json

/-- What a value means. -/
inductive Meaning where
  /-- The value `null`. -/
  | null
  /-- A truth value. -/
  | bool (value : Bool)
  /-- A number. -/
  | num (value : Number)
  /-- A text. -/
  | str (text : String)
  /-- A list of values. -/
  | arr (items : List Meaning)
  /-- A value for each of some keys. -/
  | obj (value? : String → Option Meaning)

mutual

/-- The meaning of a value.  Of several members with one key the last one counts. -/
def meaning : Json → Meaning
  | .null => .null
  | .bool b => .bool b
  | .num n => .num n
  | .str s => .str s
  | .arr items => .arr (itemMeanings items)
  | .obj members => .obj fun key => (memberMeanings members).reverse.lookup key

/-- The meanings of some items. -/
def itemMeanings : List Json → List Meaning
  | [] => []
  | j :: rest => meaning j :: itemMeanings rest

/-- The keys of some members with the meanings of their values. -/
def memberMeanings : List (String × Json) → List (String × Meaning)
  | [] => []
  | (k, j) :: rest => (k, meaning j) :: memberMeanings rest

end

/-! ### Lookups -/

section Lookups

variable {α β : Type} {key : String} {members members' : List (String × α)}

lemma lookup_insertMember (k : String) (v : α) :
    (insertMember k v members).lookup key =
      if key = k then some v else members.lookup key := by
  induction members with
  | nil => exact lookup_cons_eq_ite ..
  | cons m members ih =>
    obtain ⟨k', v'⟩ := m
    rw [insertMember]
    split
    · rw [lookup_cons_eq_ite]
    split
    · next heq =>
      subst heq
      rw [lookup_cons_eq_ite, lookup_cons_eq_ite]
      split_ifs <;> rfl
    · next hne =>
      rw [lookup_cons_eq_ite, lookup_cons_eq_ite, ih]
      split_ifs with hk' hk
      · exact absurd (hk.symm.trans hk') hne
      all_goals rfl

/-- Sorting keeps the last member with each key. -/
lemma lookup_sortMembers (members : List (String × α)) (key : String) :
    (sortMembers members).lookup key = members.reverse.lookup key := by
  -- members are put in from the first to the last, so the last one is put in at the end
  induction members using List.reverseRecOn with
  | nil => rfl
  | append_singleton members m ih =>
    obtain ⟨k, v⟩ := m
    have hlast : sortMembers (members ++ [(k, v)]) = insertMember k v (sortMembers members) := by
      rw [sortMembers, List.foldl_append]
      rfl
    rw [hlast, lookup_insertMember, ih, List.reverse_append, List.reverse_singleton,
      List.singleton_append, lookup_cons_eq_ite]

lemma Ascending.lookup_reverse (h : Ascending members) (key : String) :
    members.reverse.lookup key = members.lookup key := by
  rw [← lookup_sortMembers, sortMembers_of_ascending h]

lemma lookup_eq_none_of_forall_lt (h : ∀ m ∈ members, key < m.1) :
    members.lookup key = none :=
  List.lookup_eq_none_iff.2 fun m hm => bne_iff_ne.2 (String.ne_of_lt (h m hm))

lemma Ascending.lookup_eq_none {k : String} {v : α} (h : Ascending ((k, v) :: members))
    (hlt : key < k) : ((k, v) :: members).lookup key = none := by
  refine lookup_eq_none_of_forall_lt fun m hm => ?_
  rcases List.mem_cons.1 hm with rfl | hm
  · exact hlt
  · exact String.lt_trans hlt ((List.pairwise_cons.1 h).1 m hm)

lemma Ascending.eq_of_lookup_eq (h : Ascending members) (h' : Ascending members')
    (hlookup : ∀ key, members.lookup key = members'.lookup key) : members = members' := by
  have hfound (k : String) (v : α) (l : List (String × α)) : ((k, v) :: l).lookup k = some v := by
    rw [lookup_cons_eq_ite, if_pos rfl]
  induction members generalizing members' with
  | nil =>
    cases members' with
    | nil => rfl
    | cons m' members' =>
      have hnone := hlookup m'.1
      rw [hfound, List.lookup_nil] at hnone
      cases hnone
  | cons m members ih =>
    obtain ⟨k, v⟩ := m
    cases members' with
    | nil =>
      have hnone := hlookup k
      rw [hfound, List.lookup_nil] at hnone
      cases hnone
    | cons m' members' =>
      obtain ⟨k', v'⟩ := m'
      -- the lesser one of two different keys is found on its own side only
      obtain hlt | rfl | hlt := lt_trichotomy k k'
      · have hnone := hlookup k
        rw [hfound, h'.lookup_eq_none hlt] at hnone
        cases hnone
      · have hv := hlookup k
        rw [hfound, hfound] at hv
        cases hv
        obtain ⟨hmore, hmembers⟩ := List.pairwise_cons.1 h
        obtain ⟨hmore', hmembers'⟩ := List.pairwise_cons.1 h'
        refine congrArg _ (ih hmembers hmembers' fun key => ?_)
        by_cases hkey : key = k
        · subst hkey
          rw [lookup_eq_none_of_forall_lt hmore, lookup_eq_none_of_forall_lt hmore']
        · have hrest := hlookup key
          rwa [lookup_cons_eq_ite, lookup_cons_eq_ite, if_neg hkey, if_neg hkey] at hrest
      · have hnone := hlookup k'
        rw [hfound, h.lookup_eq_none hlt] at hnone
        cases hnone

end Lookups

/-! ### Sorted values -/

lemma memberMeanings_eq_map (members : List (String × Json)) :
    memberMeanings members = members.map fun m => (m.1, m.2.meaning) := by
  induction members with
  | nil => rw [memberMeanings, List.map_nil]
  | cons m members ih =>
    obtain ⟨k, j⟩ := m
    rw [memberMeanings, ih, List.map_cons]

lemma lookup_memberMeanings_sortMembers (members : List (String × Json)) (key : String) :
    (memberMeanings (sortMembers members)).reverse.lookup key =
      (memberMeanings members).reverse.lookup key := by
  rw [memberMeanings_eq_map, memberMeanings_eq_map, ← List.map_reverse, ← List.map_reverse,
    lookup_map_value, lookup_map_value, (ascending_sortMembers members).lookup_reverse,
    lookup_sortMembers]

mutual

/-- A value means the same when it is sorted. -/
theorem meaning_sorted : ∀ j : Json, j.sorted.meaning = j.meaning
  | .null | .bool _ | .num _ | .str _ => by simp [sorted, meaning]
  | .arr items => by rw [sorted, meaning, meaning, itemMeanings_sortedItems items]
  | .obj members => by
    rw [sorted, meaning, meaning]
    simp only [lookup_memberMeanings_sortMembers, memberMeanings_sortedMembers members]

theorem itemMeanings_sortedItems : ∀ items : List Json,
    itemMeanings (sortedItems items) = itemMeanings items
  | [] => by rw [sortedItems]
  | j :: items => by
    rw [sortedItems, itemMeanings, itemMeanings, meaning_sorted j, itemMeanings_sortedItems items]

theorem memberMeanings_sortedMembers : ∀ members : List (String × Json),
    memberMeanings (sortedMembers members) = memberMeanings members
  | [] => by rw [sortedMembers]
  | (k, j) :: members => by
    rw [sortedMembers, memberMeanings, memberMeanings, meaning_sorted j,
      memberMeanings_sortedMembers members]

end

lemma Ascending.memberMeanings {members : List (String × Json)} (h : Ascending members) :
    Ascending (memberMeanings members) := by
  rw [memberMeanings_eq_map]
  exact List.pairwise_map.2 h

mutual

/-- There is one sorted value with each meaning. -/
theorem eq_of_meaning_eq : ∀ {j k : Json}, j.Sorted → k.Sorted → j.meaning = k.meaning → j = k
  | .arr items, .arr items', h, h', heq => by
    rw [Sorted] at h h'
    rw [meaning, meaning, Meaning.arr.injEq] at heq
    rw [eq_of_itemMeanings_eq h h' heq]
  | .obj members, .obj members', h, h', heq => by
    rw [Sorted] at h h'
    rw [meaning, meaning, Meaning.obj.injEq] at heq
    have hmeanings : memberMeanings members = memberMeanings members' := by
      have hascending := Ascending.memberMeanings h.2
      have hascending' := Ascending.memberMeanings h'.2
      refine hascending.eq_of_lookup_eq hascending' fun key => ?_
      rw [← hascending.lookup_reverse, ← hascending'.lookup_reverse]
      exact congrFun heq key
    rw [eq_of_memberMeanings_eq h.1 h'.1 hmeanings]
  | .null, k, _, _, heq => by cases k <;> simp_all [meaning]
  | .bool b, k, _, _, heq => by cases k <;> simp_all [meaning]
  | .num n, k, _, _, heq => by cases k <;> simp_all [meaning]
  | .str s, k, _, _, heq => by cases k <;> simp_all [meaning]

theorem eq_of_itemMeanings_eq : ∀ {items items' : List Json}, SortedItems items →
    SortedItems items' → itemMeanings items = itemMeanings items' → items = items'
  | [], [], _, _, _ => rfl
  | j :: items, k :: items', h, h', heq => by
    rw [SortedItems] at h h'
    rw [itemMeanings, itemMeanings, List.cons.injEq] at heq
    rw [eq_of_meaning_eq h.1 h'.1 heq.1, eq_of_itemMeanings_eq h.2 h'.2 heq.2]

theorem eq_of_memberMeanings_eq : ∀ {members members' : List (String × Json)},
    SortedMembers members → SortedMembers members' →
      memberMeanings members = memberMeanings members' → members = members'
  | [], [], _, _, _ => rfl
  | (key, j) :: members, (key', k) :: members', h, h', heq => by
    rw [SortedMembers] at h h'
    rw [memberMeanings, memberMeanings, List.cons.injEq, Prod.mk.injEq] at heq
    rw [heq.1.1, eq_of_meaning_eq h.1 h'.1 heq.1.2, eq_of_memberMeanings_eq h.2 h'.2 heq.2]

end

/-! ### Texts -/

/-- The value of a text, if it can be read. -/
def value? (s : List Char) : Option Json :=
  (Doc.parseBytes? (Text.Utf8.encode s)).bind Doc.toJson?

/-- A text is read as its value sorted, if that is not nested too deeply. -/
theorem Spells.value?_eq_some_iff {s : List Char} {j f : Json} (h : Spells s j) :
    value? s = some f ↔ j.Plain maxDepth ∧ f = j.sorted := by
  rw [value?, Doc.parseBytes?_encode, Doc.parse?_spells h, Option.bind_some]
  constructor
  · intro hread
    have hplain : j.Plain maxDepth := h.plain (Option.isSome_of_eq_some hread)
    rw [within_of_plain hplain, toJson?_toDoc] at hread
    cases hread
    exact ⟨hplain, rfl⟩
  · rintro ⟨hplain, rfl⟩
    rw [within_of_plain hplain, toJson?_toDoc]

/-- A sorted value is told by its compact text. -/
theorem eq_of_render_eq {f g : Json} (hf : f.Sorted) (hg : g.Sorted) (hplain : f.Plain maxDepth)
    (hplain' : g.Plain maxDepth) (h : f.render = g.render) : f = g := by
  have hdoc : f.toDoc = g.toDoc :=
    Option.some.inj ((Doc.parse?_render hplain).symm.trans (h ▸ Doc.parse?_render hplain'))
  have hvalue := toJson?_toDoc_of_sorted hf
  rw [hdoc, toJson?_toDoc_of_sorted hg] at hvalue
  exact (Option.some.inj hvalue).symm

/-- Two texts that can be read mean the same exactly if the compact texts of what is read are the
same. -/
lemma render_eq_iff {s t : List Char} {j k f g : Json} (hs : Spells s j) (ht : Spells t k)
    (hf : value? s = some f) (hg : value? t = some g) :
    f.render = g.render ↔ j.meaning = k.meaning := by
  obtain ⟨hj, rfl⟩ := hs.value?_eq_some_iff.1 hf
  obtain ⟨hk, rfl⟩ := ht.value?_eq_some_iff.1 hg
  constructor
  · intro hrender
    have hsame := eq_of_render_eq (sorted_sorted j) (sorted_sorted k) hj.sorted hk.sorted hrender
    rw [← meaning_sorted j, hsame, meaning_sorted]
  · intro hmeaning
    rw [← meaning_sorted j, ← meaning_sorted k] at hmeaning
    rw [eq_of_meaning_eq (sorted_sorted j) (sorted_sorted k) hmeaning]

end JobSupervision.Json
