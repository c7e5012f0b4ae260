/-
# Records in documents

What a record is written as is found again in its document: the fields of an object by their names
(`Doc.fields?_toDoc`), the alternative of a tagged record wherever its tag stands
(`Doc.tagged?_toDoc`), and the items of a list one by one.
-/
import JobSupervision.Proofs.Json.Sorting

namespace JobSupervision.Json

/-! ### Lists -/

section Lists

variable {α : Type} {encode : α → Json}

lemma itemsToDoc_map (xs : List α) :
    itemsToDoc (xs.map encode) = xs.map fun x => (encode x).toDoc := by
  induction xs with
  | nil => rfl
  | cons x xs ih => rw [List.map_cons, itemsToDoc, ih, List.map_cons]

lemma Doc.list?_toDoc {decode? : Doc → Option α} (h : ∀ a, decode? (encode a).toDoc = some a)
    (xs : List α) : Doc.list? decode? (Json.arr (xs.map encode)).toDoc = some xs := by
  rw [toDoc, itemsToDoc_map, Doc.list?, List.mapM_map]
  induction xs with
  | nil => rfl
  | cons x xs ih =>
    rw [List.mapM_cons, Function.comp_apply, h, ih]
    rfl

lemma sortedItems_map (h : ∀ a, (encode a).sorted = encode a) (xs : List α) :
    sortedItems (xs.map encode) = xs.map encode := by
  induction xs with
  | nil => rfl
  | cons x xs ih => rw [List.map_cons, sortedItems, h, ih]

lemma plainItems_map {depth : Nat} (h : ∀ a, (encode a).Plain depth) (xs : List α) :
    PlainItems depth (xs.map encode) := by
  induction xs with
  | nil => simp [PlainItems]
  | cons x xs ih =>
    rw [List.map_cons, PlainItems]
    exact ⟨h x, ih⟩

end Lists

/-! ### Texts and numbers -/

@[simp] lemma Doc.string?_toDoc (s : String) : Doc.string? (Json.str s).toDoc = some s := rfl

/-- An integer between the bounds of its type is read back. -/
lemma Doc.map_int?_toDoc {α : Type} {ofInt : Int → α} {low high n : Int} {a : α} (hlow : low ≤ n)
    (hhigh : n ≤ high) (ha : ofInt n = a) :
    (Doc.int? low high (Json.int n).toDoc).map ofInt = some a := by
  have hread : Doc.int? low high (Json.int n).toDoc = some n := if_pos ⟨hlow, hhigh⟩
  rw [hread, Option.map_some, ha]

/-- So is a natural number that fits into the bits of its type. -/
lemma Doc.map_nat?_toDoc {α : Type} {ofNat : Nat → α} {bits n : Nat} {a : α} (h : n < 2 ^ bits)
    (ha : ofNat n = a) : (Doc.nat? bits (Json.nat n).toDoc).map ofNat = some a := by
  have hhigh : (n : Int) ≤ (Nat.pow 2 bits - 1 : Nat) := Int.ofNat_le.2 (Nat.le_sub_one_of_lt h)
  rw [Doc.nat?, Option.map_map]
  exact Doc.map_int?_toDoc (Int.natCast_nonneg n) hhigh ha

@[simp] lemma Doc.uint16?_toDoc (n : UInt16) : Doc.uint16? (Json.nat n.toNat).toDoc = some n :=
  Doc.map_nat?_toDoc n.toNat_lt UInt16.ofNat_toNat

@[simp] lemma Doc.uint32?_toDoc (n : UInt32) : Doc.uint32? (Json.nat n.toNat).toDoc = some n :=
  Doc.map_nat?_toDoc n.toNat_lt UInt32.ofNat_toNat

@[simp] lemma Doc.uint64?_toDoc (n : UInt64) : Doc.uint64? (Json.nat n.toNat).toDoc = some n :=
  Doc.map_nat?_toDoc n.toNat_lt UInt64.ofNat_toNat

@[simp] lemma Doc.int32?_toDoc (n : Int32) : Doc.int32? (Json.int n.toInt).toDoc = some n :=
  Doc.map_int?_toDoc n.le_toInt n.toInt_le (Int32.ofInt_toInt n)

@[simp] lemma Doc.int64?_toDoc (n : Int64) : Doc.int64? (Json.int n.toInt).toDoc = some n :=
  Doc.map_int?_toDoc n.le_toInt n.toInt_le (Int64.ofInt_toInt n)

@[simp] lemma Doc.list?_string?_toDoc (texts : List String) :
    Doc.list? Doc.string? (strings texts).toDoc = some texts :=
  Doc.list?_toDoc Doc.string?_toDoc texts

lemma sorted_strings (texts : List String) : (strings texts).sorted = strings texts := by
  rw [strings, sorted, sortedItems_map fun s => by rw [sorted]]

lemma plain_strings (depth : Nat) (texts : List String) : (strings texts).Plain (depth + 1) := by
  rw [strings, Plain]
  exact ⟨Nat.succ_pos depth, plainItems_map (fun s => by simp [Plain]) texts⟩

lemma plain_nat {n : Nat} (h : n ≤ 0xffffffffffffffff) (depth : Nat) :
    (nat n).Plain depth := by
  rw [nat, Plain]
  omega

lemma plain_int {n : Int} (hlow : -0x8000000000000000 ≤ n) (hhigh : n ≤ 0xffffffffffffffff)
    (depth : Nat) : (int n).Plain depth := by
  rw [int, Plain]
  exact ⟨hlow, hhigh⟩

/-! ### Fields -/

variable {members : List (String × Json)}

lemma Doc.knownMembers_membersToDoc {names : List String} (hnames : ∀ m ∈ members, m.1 ∈ names)
    (hkeys : (members.map Prod.fst).Nodup) :
    Doc.knownMembers names (membersToDoc members) =
      some (members.map fun m => (m.1, m.2.toDoc)) := by
  induction members with
  | nil => rfl
  | cons m rest ih =>
    obtain ⟨hnew, hrest⟩ := List.nodup_cons.1 hkeys
    have hknown := ih (fun m' hm' => hnames m' (List.mem_cons_of_mem _ hm')) hrest
    have hname : m.1 ∈ names := hnames m List.mem_cons_self
    have honce : (rest.map fun m => (m.1, m.2.toDoc)).any (·.1 = m.1) = false := by
      rw [List.any_eq_false]
      intro x hx heq
      obtain ⟨m', hm', rfl⟩ := List.mem_map.1 hx
      exact hnew (List.mem_map.2 ⟨m', hm', of_decide_eq_true heq⟩)
    rw [membersToDoc, Doc.knownMembers, hknown]
    simp only [if_pos hname, honce, Bool.false_eq_true, if_false, List.map_cons]

/-- An object that has none but fields of a record holds them. -/
theorem Doc.fields?_toDoc {names : List String} (hnames : ∀ m ∈ members, m.1 ∈ names)
    (hkeys : (members.map Prod.fst).Nodup) :
    Doc.fields? names (Json.obj members).toDoc =
      some ⟨false, members.map fun m => (m.1, m.2.toDoc)⟩ := by
  rw [toDoc, Doc.fields?, Doc.knownMembers_membersToDoc hnames hkeys, Option.map_some]

/-! ### Tags -/

variable {tag name : String}

lemma Doc.splitTag_membersToDoc (h : ∀ m ∈ members, m.1 ≠ tag) :
    Doc.splitTag tag (membersToDoc members) = some (none, membersToDoc members) := by
  induction members with
  | nil => rfl
  | cons m rest ih =>
    have hrest := ih fun m' hm' => h m' (List.mem_cons_of_mem _ hm')
    have hkey : m.1 ≠ tag := h m List.mem_cons_self
    simp [membersToDoc, Doc.splitTag, hrest, hkey]

/-- The tag is found wherever it stands, and the others stay in order. -/
theorem Doc.tagged?_toDoc (before after : List (String × Json))
    (hbefore : ∀ m ∈ before, m.1 ≠ tag) (hafter : ∀ m ∈ after, m.1 ≠ tag) :
    Doc.tagged? tag (Json.obj (before ++ (tag, .str name) :: after)).toDoc =
      some (name, (Json.obj (before ++ after)).toDoc) := by
  have hsplit : Doc.splitTag tag (membersToDoc (before ++ (tag, .str name) :: after)) =
      some (some (.str name), membersToDoc (before ++ after)) := by
    induction before with
    | nil => simp [membersToDoc, Doc.splitTag, Doc.splitTag_membersToDoc hafter, toDoc]
    | cons m rest ih =>
      have hrest := ih fun m' hm' => hbefore m' (List.mem_cons_of_mem _ hm')
      have hkey : m.1 ≠ tag := hbefore m List.mem_cons_self
      simp [membersToDoc, Doc.splitTag, hrest, hkey]
  have hread := isReadable_toDoc (.obj (before ++ (tag, .str name) :: after))
  rw [toDoc] at hread ⊢
  simp only [Doc.tagged?, hread, if_true, hsplit, toDoc]

end JobSupervision.Json
