/-!
# Maps in ascending order

A finite map from natural numbers, kept as a list of its entries in ascending order of the keys. Two
maps with the same entries are equal, and the order of `entries` is the order in which a sheet is
written.

* `SortedMap` : the map; `get?`, `insert`, `contains`, `size`.
* `SortedMap.ofEntries` : the map of a list of entries in any order; the last entry of a key counts.
* `get?_insert` : an insertion seen through `get?`.
-/

namespace Worksheet

/-- A finite map from natural numbers. -/
structure SortedMap (α : Type) where
  /-- The entries, ascending by key. -/
  entries : List (Nat × α)
  ascending : entries.Pairwise (fun a b => a.1 < b.1)

namespace SortedMap

variable {α : Type}

@[ext] theorem ext {m n : SortedMap α} (h : m.entries = n.entries) : m = n := by
  cases m; cases n; simp_all

instance [DecidableEq α] : DecidableEq (SortedMap α) := fun m n =>
  decidable_of_iff (m.entries = n.entries) ⟨SortedMap.ext, congrArg entries⟩

def empty : SortedMap α :=
  ⟨[], .nil⟩

instance : Inhabited (SortedMap α) :=
  ⟨empty⟩

def get? (m : SortedMap α) (key : Nat) : Option α :=
  m.entries.lookup key

def contains (m : SortedMap α) (key : Nat) : Bool :=
  (m.get? key).isSome

def size (m : SortedMap α) : Nat :=
  m.entries.length

def isEmpty (m : SortedMap α) : Bool :=
  m.entries.isEmpty

/-! ## Insertion -/

/-- The entries with the value at a key put in its place, or replaced. -/
def insertEntry (key : Nat) (value : α) : List (Nat × α) → List (Nat × α)
  | [] => [(key, value)]
  | (k, v) :: rest =>
    if key < k then (key, value) :: (k, v) :: rest
    else if key = k then (key, value) :: rest
    else (k, v) :: insertEntry key value rest

theorem mem_insertEntry {key : Nat} {value : α} {l : List (Nat × α)} {e : Nat × α}
    (h : e ∈ insertEntry key value l) : e = (key, value) ∨ e ∈ l := by
  induction l with
  | nil => simpa [insertEntry] using h
  | cons head rest ih =>
    obtain ⟨k, v⟩ := head
    simp only [insertEntry] at h
    split at h
    · simpa using h
    · split at h
      · rcases List.mem_cons.1 h with rfl | h
        · exact .inl rfl
        · exact .inr (List.mem_cons_of_mem _ h)
      · rcases List.mem_cons.1 h with rfl | h
        · exact .inr (by simp)
        · rcases ih h with h | h
          · exact .inl h
          · exact .inr (List.mem_cons_of_mem _ h)

theorem insertEntry_ascending (key : Nat) (value : α) {l : List (Nat × α)}
    (h : l.Pairwise (fun a b => a.1 < b.1)) :
    (insertEntry key value l).Pairwise (fun a b => a.1 < b.1) := by
  induction l with
  | nil => exact List.pairwise_singleton _ _
  | cons head rest ih =>
    obtain ⟨k, v⟩ := head
    rw [List.pairwise_cons] at h
    simp only [insertEntry]
    split
    · rename_i hk
      refine List.pairwise_cons.2 ⟨fun e he => ?_, List.pairwise_cons.2 h⟩
      rcases List.mem_cons.1 he with rfl | he
      · exact hk
      · exact Nat.lt_trans hk (h.1 e he)
    · split
      · rename_i hk
        subst hk
        exact List.pairwise_cons.2 ⟨h.1, h.2⟩
      · refine List.pairwise_cons.2 ⟨fun e he => ?_, ih h.2⟩
        rcases mem_insertEntry he with rfl | he
        · simp only; omega
        · exact h.1 e he

def insert (m : SortedMap α) (key : Nat) (value : α) : SortedMap α :=
  ⟨insertEntry key value m.entries, insertEntry_ascending key value m.ascending⟩

/-- The map of these entries; of several with one key the last counts. -/
def ofEntries (entries : List (Nat × α)) : SortedMap α :=
  entries.foldl (fun m e => m.insert e.1 e.2) empty

def filter (m : SortedMap α) (keep : α → Bool) : SortedMap α :=
  ⟨m.entries.filter fun e => keep e.2, m.ascending.filter _⟩

/-! ## Views -/

@[simp] theorem get?_empty (key : Nat) : (empty : SortedMap α).get? key = none := rfl

theorem lookup_insertEntry (key k : Nat) (value : α) {l : List (Nat × α)}
    (h : l.Pairwise (fun a b => a.1 < b.1)) :
    (insertEntry key value l).lookup k = if k = key then some value else l.lookup k := by
  induction l with
  | nil => simp only [insertEntry, List.lookup_cons, List.lookup_nil]; grind
  | cons head rest ih =>
    obtain ⟨k', v⟩ := head
    rw [List.pairwise_cons] at h
    simp only [insertEntry]
    split
    · simp only [List.lookup_cons]; grind
    · split
      · simp only [List.lookup_cons]; grind
      · simp only [List.lookup_cons, ih h.2]; grind

theorem get?_insert (m : SortedMap α) (key k : Nat) (value : α) :
    (m.insert key value).get? k = if k = key then some value else m.get? k :=
  lookup_insertEntry key k value m.ascending

end SortedMap

end Worksheet
