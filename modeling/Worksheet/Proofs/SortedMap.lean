import Worksheet.SortedMap

/-!
# Laws of maps in ascending order

* `mem_entries_iff` : the entries of a map are what `get?` reads;
* `get?_filter` : the entries that are kept;
* `insertEntry_of_forall_lt`, `ofEntries_entries` : the map of the entries of a map is that map;
* `mem_of_mem_ofEntries` : a map has no other entries than those that it was made of.
-/

namespace Worksheet.SortedMap

variable {α : Type}

theorem lookup_eq_some_iff {l : List (Nat × α)} (h : l.Pairwise (fun a b => a.1 < b.1)) (key : Nat) (v : α) :
    l.lookup key = some v ↔ (key, v) ∈ l := by
  induction l with
  | nil => simp
  | cons e l ih =>
    obtain ⟨k, w⟩ := e
    rw [List.pairwise_cons] at h
    rw [List.lookup_cons, List.mem_cons, Prod.mk.injEq]
    by_cases hkey : key = k
    · subst hkey
      have habsent : (key, v) ∉ l := fun hmem => absurd (h.1 (key, v) hmem) (Nat.lt_irrefl key)
      simp [habsent, eq_comm]
    · have hbeq : (key == k) = false := by simpa using hkey
      simp [hbeq, hkey, ih h.2]

theorem mem_entries_iff (m : SortedMap α) (key : Nat) (v : α) : (key, v) ∈ m.entries ↔ m.get? key = some v :=
  (lookup_eq_some_iff m.ascending key v).symm

theorem get?_filter (m : SortedMap α) (keep : α → Bool) (key : Nat) :
    (m.filter keep).get? key = (m.get? key).filter keep := by
  apply Option.ext
  intro v
  rw [← mem_entries_iff, Option.filter_eq_some_iff, ← mem_entries_iff]
  exact List.mem_filter

theorem isEmpty_eq_false_iff (m : SortedMap α) : m.isEmpty = false ↔ ∃ key v, m.get? key = some v := by
  rw [isEmpty, List.isEmpty_eq_false_iff_exists_mem]
  constructor
  · rintro ⟨⟨key, v⟩, h⟩
    exact ⟨key, v, (m.mem_entries_iff key v).mp h⟩
  · rintro ⟨key, v, h⟩
    exact ⟨(key, v), (m.mem_entries_iff key v).mpr h⟩

/-! ## Maps of entries -/

theorem insertEntry_of_forall_lt {key : Nat} {l : List (Nat × α)} (h : ∀ e ∈ l, e.1 < key) (v : α) :
    insertEntry key v l = l ++ [(key, v)] := by
  induction l with
  | nil => rfl
  | cons e l ih =>
    have he : e.1 < key := h e List.mem_cons_self
    rw [insertEntry, if_neg (by omega), if_neg (by omega), ih fun e he => h e (List.mem_cons_of_mem _ he),
      List.cons_append]

theorem entries_foldl_insert (l : List (Nat × α)) (m : SortedMap α)
    (h : (m.entries ++ l).Pairwise (fun a b => a.1 < b.1)) :
    (l.foldl (fun m e => m.insert e.1 e.2) m).entries = m.entries ++ l := by
  induction l generalizing m with
  | nil => rw [List.foldl_nil, List.append_nil]
  | cons e l ih =>
    have hinsert : (m.insert e.1 e.2).entries = m.entries ++ [e] :=
      insertEntry_of_forall_lt (fun a ha => (List.pairwise_append.mp h).2.2 a ha e List.mem_cons_self) e.2
    rw [List.foldl_cons, ih, hinsert, List.append_assoc, List.singleton_append]
    rw [hinsert, List.append_assoc, List.singleton_append]
    exact h

theorem ofEntries_entries (m : SortedMap α) : ofEntries m.entries = m := by
  apply SortedMap.ext
  rw [ofEntries, entries_foldl_insert m.entries empty m.ascending]
  rfl

theorem mem_of_mem_foldl_insert {l : List (Nat × α)} {m : SortedMap α} {e : Nat × α}
    (h : e ∈ (l.foldl (fun m e => m.insert e.1 e.2) m).entries) : e ∈ m.entries ∨ e ∈ l := by
  induction l generalizing m with
  | nil => exact .inl h
  | cons f l ih =>
    rcases ih h with hm | hl
    · rcases mem_insertEntry hm with rfl | hm
      · exact .inr List.mem_cons_self
      · exact .inl hm
    · exact .inr (List.mem_cons_of_mem f hl)

theorem mem_of_mem_ofEntries {l : List (Nat × α)} {e : Nat × α} (h : e ∈ (ofEntries l).entries) : e ∈ l :=
  (mem_of_mem_foldl_insert h).resolve_left List.not_mem_nil

end Worksheet.SortedMap
