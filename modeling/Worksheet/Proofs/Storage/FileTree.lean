import Worksheet.Storage.FileTree

/-!
# Files before and after a change

* `lookup_put`, `lookup_filter_ne` : the entries of a changed directory;
* `find?_makeDirectories` : directories are made without changing what is in them;
* `find?_of_inDirectory`, `exists_of_inDirectory` : a change in a directory changes its entries and nothing in them;
* `find?_write`, `find?_rename` : what is in a directory after a file was written or renamed there.
-/

namespace Worksheet.FileTree

/-! ## Entries -/

theorem lookup_put (name n : String) (t : FileTree) (es : List (String × FileTree)) :
    (put name t es).lookup n = if n = name then some t else es.lookup n := by
  induction es with
  | nil =>
    by_cases h : n = name
    · simp [put, h]
    · have hne : (n == name) = false := by simpa using h
      simp [put, List.lookup_cons, h, hne]
  | cons e es ih =>
    obtain ⟨m, u⟩ := e
    rw [put]
    by_cases hm : m = name
    · subst hm
      rw [if_pos rfl, List.lookup_cons, List.lookup_cons]
      by_cases h : n = m
      · simp [h]
      · have hne : (n == m) = false := by simpa using h
        simp [h, hne]
    · rw [if_neg hm, List.lookup_cons, List.lookup_cons, ih]
      by_cases h : n = m
      · subst h
        simp [hm]
      · have hne : (n == m) = false := by simpa using h
        simp [hne]

theorem lookup_filter_ne (name n : String) (es : List (String × FileTree)) :
    (es.filter (·.1 != name)).lookup n = if n = name then none else es.lookup n := by
  induction es with
  | nil => simp
  | cons e es ih =>
    obtain ⟨m, u⟩ := e
    by_cases hm : m = name
    · rw [List.filter_cons_of_neg (by simp [hm]), ih, List.lookup_cons]
      by_cases h : n = name
      · rw [if_pos h, if_pos h]
      · have hne : (n == m) = false := by simpa [hm] using h
        rw [hne]
    · rw [List.filter_cons_of_pos (by simp [hm]), List.lookup_cons, List.lookup_cons, ih]
      by_cases h : n = m
      · simp [h, hm]
      · have hne : (n == m) = false := by simpa using h
        rw [hne]

/-! ## Paths -/

theorem find?_name (name : String) (es : List (String × FileTree)) :
    find? [name] (.directory es) = es.lookup name := by
  rw [find?]
  cases es.lookup name <;> rfl

theorem find?_append (path below : Path) (t : FileTree) :
    t.find? (path ++ below) = (t.find? path).bind (find? below) := by
  induction path generalizing t with
  | nil => rfl
  | cons name path ih =>
    cases t with
    | file content => rfl
    | directory es =>
      rw [List.cons_append, find?, find?]
      cases es.lookup name with
      | none => rfl
      | some u => exact ih u

theorem find?_empty {path : Path} (h : path ≠ []) : find? path empty = none := by
  cases path with
  | nil => exact absurd rfl h
  | cons name path => rfl

/-! ## Changes -/

theorem find?_makeDirectories {path below : Path} (hbelow : below ≠ []) {t t' : FileTree}
    (h : makeDirectories path t = some t') : find? (path ++ below) t' = find? (path ++ below) t := by
  induction path generalizing t t' with
  | nil =>
    cases t with
    | file content => cases h
    | directory es => rw [Option.some.inj h]
  | cons p path ih =>
    cases t with
    | file content => cases h
    | directory es =>
      rw [makeDirectories] at h
      split at h
      · obtain ⟨u, hu, rfl⟩ := Option.map_eq_some_iff.mp h
        rw [List.cons_append, find?, find?, lookup_put, if_pos rfl, Option.bind_some, ih hu]
        cases es.lookup p with
        | none => exact find?_empty (List.append_ne_nil_of_right_ne_nil path hbelow)
        | some v => rfl
      · cases h

theorem find?_of_inDirectory {change : List (String × FileTree) → Option (List (String × FileTree))} {path : Path}
    {t t' : FileTree} (h : inDirectory change path t = some t') :
    ∃ es es', t.find? path = some (.directory es) ∧ change es = some es' ∧ t'.find? path = some (.directory es') := by
  induction path generalizing t t' with
  | nil =>
    cases t with
    | file content => cases h
    | directory es =>
      obtain ⟨es', hes', rfl⟩ := Option.map_eq_some_iff.mp h
      exact ⟨es, es', rfl, hes', rfl⟩
  | cons p path ih =>
    cases t with
    | file content => cases h
    | directory entries =>
      rw [inDirectory] at h
      cases hp : entries.lookup p with
      | none =>
        rw [hp] at h
        cases h
      | some u =>
        rw [hp] at h
        obtain ⟨u', hu', rfl⟩ := Option.map_eq_some_iff.mp h
        obtain ⟨es, es', hold, hchange, hnew⟩ := ih hu'
        refine ⟨es, es', ?_, hchange, ?_⟩
        · rw [find?, hp, Option.bind_some, hold]
        · rw [find?, lookup_put, if_pos rfl, Option.bind_some, hnew]

theorem exists_of_inDirectory {change : List (String × FileTree) → Option (List (String × FileTree))} {path : Path}
    {t t' : FileTree} (h : inDirectory change path t = some t') :
    ∃ es es', change es = some es' ∧ (∀ name, find? (path ++ [name]) t = es.lookup name) ∧
      ∀ name, find? (path ++ [name]) t' = es'.lookup name := by
  obtain ⟨es, es', hold, hchange, hnew⟩ := find?_of_inDirectory h
  refine ⟨es, es', hchange, fun name => ?_, fun name => ?_⟩
  · rw [find?_append, hold, Option.bind_some, find?_name]
  · rw [find?_append, hnew, Option.bind_some, find?_name]

/-- A file that is written has the content, and the rest of its directory stays. -/
theorem find?_write {name : String} {content : ByteArray} {path : Path} {t t' : FileTree}
    (h : write name content path t = some t') (n : String) :
    find? (path ++ [n]) t' = if n = name then some (.file content) else find? (path ++ [n]) t := by
  obtain ⟨es, es', hchange, hold, hnew⟩ := exists_of_inDirectory h
  have hput : es' = put name (.file content) es := by
    split at hchange
    · cases hchange
    · split at hchange
      · exact (Option.some.inj hchange).symm
      · cases hchange
  rw [hnew, hold, hput, lookup_put]

/-- What is renamed stands under the new name and no longer under the old one, and the rest of its directory
stays. -/
theorem find?_rename {name newName : String} {path : Path} {t t' : FileTree}
    (h : rename name newName path t = some t') (n : String) :
    find? (path ++ [n]) t' = if n = newName then find? (path ++ [name]) t
      else if n = name then none else find? (path ++ [n]) t := by
  obtain ⟨es, es', hchange, hold, hnew⟩ := exists_of_inDirectory h
  have hput : ∃ u, es.lookup name = some u ∧ es' = put newName u (es.filter (·.1 != name)) := by
    cases hname : es.lookup name with
    | none =>
      simp only [hname] at hchange
      cases hchange
    | some u =>
      simp only [hname] at hchange
      split at hchange
      · cases hchange
      · cases hchange
      · cases hchange
      · next v _ hv _ =>
        obtain rfl := Option.some.inj hv
        exact ⟨_, rfl, (Option.some.inj hchange).symm⟩
  obtain ⟨u, hname, rfl⟩ := hput
  rw [hnew, hold, hold, lookup_put, lookup_filter_ne, hname]

end Worksheet.FileTree
