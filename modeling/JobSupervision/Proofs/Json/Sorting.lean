/-
# Sorted values

Sorting the members of an object puts their keys into strictly ascending order and leaves members
alone that are in order already.  A value is therefore sorted by sorting it, and a sorted value
stays as it is; the document of a value stands for the value sorted (`toJson?_toDoc`).
-/
import Mathlib.Data.List.Induction
import Mathlib.Data.String.Basic
import JobSupervision.Json.Decoder
import JobSupervision.Proofs.Json.Printing

namespace JobSupervision.Json

/-! ### Members -/

section Members

variable {α : Type}

/-- Whether keys stand in strictly ascending order. -/
def Ascending (members : List (String × α)) : Prop := members.Pairwise fun a b => a.1 < b.1

lemma mem_of_mem_insertMember {key : String} {value : α} {members : List (String × α)}
    {m : String × α} (h : m ∈ insertMember key value members) : m = (key, value) ∨ m ∈ members := by
  induction members with
  | nil => exact .inl (by simpa [insertMember] using h)
  | cons n rest ih =>
    obtain ⟨k, v⟩ := n
    rw [insertMember] at h
    split at h
    · exact (List.mem_cons.1 h)
    split at h
    · rcases List.mem_cons.1 h with h | h
      · exact .inl h
      · exact .inr (List.mem_cons_of_mem _ h)
    · rcases List.mem_cons.1 h with h | h
      · exact .inr (h ▸ List.mem_cons_self)
      · exact (ih h).imp_right (List.mem_cons_of_mem _)

lemma Ascending.insertMember {members : List (String × α)} (h : Ascending members) (key : String)
    (value : α) : Ascending (insertMember key value members) := by
  induction members with
  | nil => exact List.pairwise_singleton _ _
  | cons n rest ih =>
    obtain ⟨k, v⟩ := n
    obtain ⟨hk, hrest⟩ := List.pairwise_cons.1 h
    rw [Json.insertMember]
    split
    · next hlt =>
      refine List.pairwise_cons.2 ⟨fun m hm => ?_, h⟩
      rcases List.mem_cons.1 hm with rfl | hm
      · exact hlt
      · exact String.lt_trans hlt (hk m hm)
    · next hnot =>
      split
      · next heq =>
        subst heq
        exact List.pairwise_cons.2 ⟨hk, hrest⟩
      · next hne =>
        have hlt : k < key := lt_of_le_of_ne (String.not_lt.1 hnot) (Ne.symm hne)
        refine List.pairwise_cons.2 ⟨fun m hm => ?_, ih hrest⟩
        rcases mem_of_mem_insertMember hm with rfl | hm
        · exact hlt
        · exact hk m hm

lemma insertMember_of_forall_lt {members : List (String × α)} {key : String}
    (h : ∀ m ∈ members, m.1 < key) (value : α) :
    insertMember key value members = members ++ [(key, value)] := by
  induction members with
  | nil => rfl
  | cons n rest ih =>
    obtain ⟨k, v⟩ := n
    have hlt : k < key := h (k, v) List.mem_cons_self
    rw [insertMember, if_neg (String.lt_asymm hlt), if_neg (String.ne_of_lt hlt).symm,
      ih fun m hm => h m (List.mem_cons_of_mem _ hm)]
    rfl

lemma mem_of_mem_sortMembers {members : List (String × α)} {m : String × α}
    (h : m ∈ sortMembers members) : m ∈ members := by
  induction members using List.reverseRecOn with
  | nil => cases h
  | append_singleton members n ih =>
    rw [sortMembers, List.foldl_append] at h
    rcases mem_of_mem_insertMember h with rfl | h
    · simp
    · exact List.mem_append_left _ (ih h)

lemma ascending_sortMembers (members : List (String × α)) : Ascending (sortMembers members) := by
  induction members using List.reverseRecOn with
  | nil => exact .nil
  | append_singleton members n ih =>
    rw [sortMembers, List.foldl_append]
    exact ih.insertMember _ _

lemma sortMembers_of_ascending {members : List (String × α)} (h : Ascending members) :
    sortMembers members = members := by
  induction members using List.reverseRecOn with
  | nil => rfl
  | append_singleton members n ih =>
    obtain ⟨hmembers, -, hlt⟩ := List.pairwise_append.1 h
    have hsame := ih hmembers
    rw [sortMembers] at hsame
    rw [sortMembers, List.foldl_append, hsame]
    exact insertMember_of_forall_lt (fun m hm => hlt m hm n (List.mem_singleton_self n)) n.2

end Members

/-! ### Values -/

lemma sortedMembers_iff {members : List (String × Json)} :
    SortedMembers members ↔ ∀ m ∈ members, m.2.Sorted := by
  induction members with
  | nil => simp [SortedMembers]
  | cons m rest ih =>
    obtain ⟨k, j⟩ := m
    simp [SortedMembers, ih]

lemma plainMembers_iff {depth : Nat} {members : List (String × Json)} :
    PlainMembers depth members ↔ ∀ m ∈ members, m.2.Plain depth := by
  induction members with
  | nil => simp [PlainMembers]
  | cons m rest ih =>
    obtain ⟨k, j⟩ := m
    simp [PlainMembers, ih]

mutual

/-- Sorting sorts. -/
theorem sorted_sorted : ∀ j : Json, j.sorted.Sorted
  | .null | .bool _ | .num _ | .str _ => by simp [sorted, Sorted]
  | .arr items => by
    rw [sorted, Sorted]
    exact sortedItems_sortedItems items
  | .obj members => by
    rw [sorted, Sorted]
    refine ⟨sortedMembers_iff.2 fun m hm => ?_, ascending_sortMembers _⟩
    exact sortedMembers_iff.1 (sortedMembers_sortedMembers members) m (mem_of_mem_sortMembers hm)

theorem sortedItems_sortedItems : ∀ items : List Json, SortedItems (sortedItems items)
  | [] => by simp [sortedItems, SortedItems]
  | j :: rest => by
    rw [sortedItems, SortedItems]
    exact ⟨sorted_sorted j, sortedItems_sortedItems rest⟩

theorem sortedMembers_sortedMembers : ∀ members : List (String × Json),
    SortedMembers (sortedMembers members)
  | [] => by simp [sortedMembers, SortedMembers]
  | (k, j) :: rest => by
    rw [sortedMembers, SortedMembers]
    exact ⟨sorted_sorted j, sortedMembers_sortedMembers rest⟩

end

mutual

/-- A sorted value stays as it is. -/
theorem sorted_eq_self : ∀ {j : Json}, j.Sorted → j.sorted = j
  | .null, _ | .bool _, _ | .num _, _ | .str _, _ => by simp [sorted]
  | .arr items, h => by
    rw [Sorted] at h
    rw [sorted, sortedItems_eq_self h]
  | .obj members, h => by
    rw [Sorted] at h
    rw [sorted, sortedMembers_eq_self h.1, sortMembers_of_ascending h.2]

theorem sortedItems_eq_self : ∀ {items : List Json}, SortedItems items → sortedItems items = items
  | [], _ => by rw [sortedItems]
  | j :: rest, h => by
    rw [SortedItems] at h
    rw [sortedItems, sorted_eq_self h.1, sortedItems_eq_self h.2]

theorem sortedMembers_eq_self : ∀ {members : List (String × Json)}, SortedMembers members →
    sortedMembers members = members
  | [], _ => by rw [sortedMembers]
  | (k, j) :: rest, h => by
    rw [SortedMembers] at h
    rw [sortedMembers, sorted_eq_self h.1, sortedMembers_eq_self h.2]

end

mutual

/-- Sorting leaves the numbers alone and nests nothing deeper. -/
theorem Plain.sorted : ∀ {depth : Nat} {j : Json}, j.Plain depth → j.sorted.Plain depth
  | _, .null, _ | _, .bool _, _ | _, .str _, _ => by simp [Json.sorted, Plain]
  | _, .num n, h => by rwa [Json.sorted]
  | _, .arr items, h => by
    rw [Plain] at h
    rw [Json.sorted, Plain]
    exact ⟨h.1, PlainItems.sorted h.2⟩
  | _, .obj members, h => by
    rw [Plain] at h
    rw [Json.sorted, Plain]
    refine ⟨h.1, plainMembers_iff.2 fun m hm => ?_⟩
    exact plainMembers_iff.1 (PlainMembers.sorted h.2) m (mem_of_mem_sortMembers hm)

theorem PlainItems.sorted : ∀ {depth : Nat} {items : List Json}, PlainItems depth items →
    PlainItems depth (sortedItems items)
  | _, [], _ => by simp [sortedItems, PlainItems]
  | _, j :: rest, h => by
    rw [PlainItems] at h
    rw [sortedItems, PlainItems]
    exact ⟨Plain.sorted h.1, PlainItems.sorted h.2⟩

theorem PlainMembers.sorted : ∀ {depth : Nat} {members : List (String × Json)},
    PlainMembers depth members → PlainMembers depth (sortedMembers members)
  | _, [], _ => by simp [sortedMembers, PlainMembers]
  | _, (k, j) :: rest, h => by
    rw [PlainMembers] at h
    rw [sortedMembers, PlainMembers]
    exact ⟨Plain.sorted h.1, PlainMembers.sorted h.2⟩

end

mutual

/-- The document of a value stands for the value sorted. -/
theorem toJson?_toDoc : ∀ j : Json, j.toDoc.toJson? = some j.sorted
  | .null | .bool _ | .num _ | .str _ => by simp [toDoc, Doc.toJson?, sorted]
  | .arr items => by
    rw [toDoc, Doc.toJson?, itemsToJson?_itemsToDoc items, Option.map_some, sorted]
  | .obj members => by
    rw [toDoc, Doc.toJson?, membersToJson?_membersToDoc members, Option.map_some, sorted]

theorem itemsToJson?_itemsToDoc : ∀ items : List Json,
    Doc.itemsToJson? (itemsToDoc items) = some (sortedItems items)
  | [] => by rw [itemsToDoc, Doc.itemsToJson?, sortedItems]
  | j :: rest => by
    rw [itemsToDoc, Doc.itemsToJson?, toJson?_toDoc j, itemsToJson?_itemsToDoc rest, sortedItems]

theorem membersToJson?_membersToDoc : ∀ members : List (String × Json),
    Doc.membersToJson? (membersToDoc members) = some (sortedMembers members)
  | [] => by rw [membersToDoc, Doc.membersToJson?, sortedMembers]
  | (k, j) :: rest => by
    simp only [membersToDoc, Doc.membersToJson?, toJson?_toDoc j, membersToJson?_membersToDoc rest,
      sortedMembers]

end

lemma toJson?_toDoc_of_sorted {j : Json} (h : j.Sorted) : j.toDoc.toJson? = some j := by
  rw [toJson?_toDoc, sorted_eq_self h]

lemma isReadable_toDoc (j : Json) : j.toDoc.isReadable = true := by
  rw [Doc.isReadable, toJson?_toDoc, Option.isSome_some]

end JobSupervision.Json
