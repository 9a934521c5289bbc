import Worksheet.Proofs.Storage.FileTree
import Worksheet.Proofs.Storage.Keys

/-!
# Writes under one key

What a write leaves in the files of all keys, where it succeeds, where it is refused, and where it is cut short.

* `FileStore.entry?`, `FileStore.read_congr` : the file of a key, which alone decides what is read;
* `FileStore.Interrupted` : what is left of a write that ends early; `FileStore.Interrupted.entry?_eq` : no key's
  file shows it;
* `FileStore.write_cases` : a write ends early or changes the file of its key and no other;
* `FileStore.keys_isolated` : keys do not get in each other's way.
-/

namespace Worksheet.FileStore

def entry? (s : FileStore) (key : String) : Option FileTree :=
  s.tree.find? (s.directory ++ [fileName key])

/-- What is read depends on the key's file alone. -/
theorem read_congr {s s' : FileStore} (hdirectory : s'.directory = s.directory) {key : String}
    (hentry : s'.entry? key = s.entry? key) : s'.read key = s.read key := by
  unfold entry? at hentry
  rw [hdirectory] at hentry
  unfold read pathOf
  rw [hdirectory]
  by_cases hkey : isKey key = true
  · rw [if_pos hkey]
    simp only [bind, Except.bind, hentry]
  · rw [if_neg hkey]
    rfl

/-! ## Writes that end early -/

/-- What a write under a key can leave when it ends early: some of the directories on the way, or all of them and a
draft, whatever part of the text is in it. -/
inductive Interrupted (s : FileStore) (key : String) : FileStore → Prop
  | untouched : Interrupted s key s
  | directories {path : Path} {made : FileTree} (hpath : path <+: s.directory)
      (hmade : s.tree.makeDirectories path = some made) : Interrupted s key { s with tree := made }
  | draft {made drafted : FileTree} {content : ByteArray} (hmade : s.tree.makeDirectories s.directory = some made)
      (hdrafted : made.write (draftName key) content s.directory = some drafted) :
      Interrupted s key { s with tree := drafted }

section

variable {s : FileStore} {key : String} {made drafted : FileTree}

theorem entry?_made {path : Path} (hpath : path <+: s.directory) (hmade : s.tree.makeDirectories path = some made)
    (k : String) : entry? { s with tree := made } k = s.entry? k := by
  obtain ⟨rest, hrest⟩ := hpath
  have hbelow : rest ++ [fileName k] ≠ [] := by simp
  have hkept := FileTree.find?_makeDirectories hbelow hmade
  rw [← List.append_assoc, hrest] at hkept
  exact hkept

variable (hmade : s.tree.makeDirectories s.directory = some made) {content : ByteArray}
  (hdrafted : made.write (draftName key) content s.directory = some drafted)
include hmade hdrafted

theorem entry?_drafted (k : String) : entry? { s with tree := drafted } k = s.entry? k := by
  have hfile := FileTree.find?_write hdrafted (fileName k)
  rw [if_neg (fileName_ne_draftName k key)] at hfile
  exact hfile.trans (entry?_made (List.prefix_refl _) hmade k)

/-- Once the draft has taken the place of the key's file, that file has the text, and other keys keep theirs. -/
theorem entry?_renamed {renamed : FileTree}
    (hrenamed : drafted.rename (draftName key) (fileName key) s.directory = some renamed) (k : String) :
    entry? { s with tree := renamed } k = if k = key then some (.file content) else s.entry? k := by
  have hfile := FileTree.find?_rename hrenamed (fileName k)
  rw [if_neg (fileName_ne_draftName k key), FileTree.find?_write hdrafted, if_pos rfl] at hfile
  by_cases hk : k = key
  · rw [if_pos (fileName_inj.mpr hk)] at hfile
    rw [if_pos hk]
    exact hfile
  · rw [if_neg fun h => hk (fileName_inj.mp h)] at hfile
    rw [if_neg hk]
    exact hfile.trans (entry?_drafted hmade hdrafted k)

end

namespace Interrupted

variable {s s' : FileStore} {key : String} (h : s.Interrupted key s')
include h

theorem directory_eq : s'.directory = s.directory := by
  cases h <;> rfl

/-- No key's file shows that a write ended early. -/
theorem entry?_eq (k : String) : s'.entry? k = s.entry? k := by
  cases h with
  | untouched => rfl
  | directories hpath hmade => exact entry?_made hpath hmade k
  | draft hmade hdrafted => exact entry?_drafted hmade hdrafted k

theorem read_eq (k : String) : s'.read k = s.read k :=
  read_congr h.directory_eq (h.entry?_eq k)

end Interrupted

/-! ## Writes -/

/-- A write puts the text into the key's file and changes no other file of a key, or it ends early. -/
theorem write_cases (s : FileStore) (key text : String) :
    (∃ t, s.write key text = (.ok (), { s with tree := t }) ∧
      ∀ k, entry? { s with tree := t } k = if k = key then some (.file text.toUTF8) else s.entry? k) ∨
    ∃ f s', s.write key text = (.error f, s') ∧ s.Interrupted key s' := by
  unfold write
  cases hpath : s.pathOf key with
  | error f => exact .inr ⟨f, s, rfl, .untouched⟩
  | ok path =>
    cases hmade : s.tree.makeDirectories s.directory with
    | none => exact .inr ⟨.io, s, rfl, .untouched⟩
    | some made =>
      cases hdrafted : made.write (draftName key) text.toUTF8 s.directory with
      | none =>
        refine .inr ⟨.io, { s with tree := made }, ?_, .directories (List.prefix_refl _) hmade⟩
        simp only [changed, followedBy, hdrafted]
      | some drafted =>
        cases hrenamed : drafted.rename (draftName key) (fileName key) s.directory with
        | none =>
          refine .inr ⟨.io, { s with tree := drafted }, ?_, .draft hmade hdrafted⟩
          simp only [changed, followedBy, hdrafted, hrenamed]
        | some renamed =>
          refine .inl ⟨renamed, ?_, entry?_renamed hmade hdrafted hrenamed⟩
          simp only [changed, followedBy, hdrafted, hrenamed]

/-- A write leaves what is read under other keys. -/
theorem read_write_of_ne (s : FileStore) {key k : String} (hk : k ≠ key) (text : String) :
    (s.write key text).2.read k = s.read k := by
  rcases s.write_cases key text with ⟨t, hwrite, hentries⟩ | ⟨f, s', hwrite, hinterrupted⟩
  · have hdirectory : directory { s with tree := t } = s.directory := rfl
    have hentry : entry? { s with tree := t } k = s.entry? k := by rw [hentries, if_neg hk]
    rw [hwrite]
    exact read_congr hdirectory hentry
  · rw [hwrite]
    exact hinterrupted.read_eq k

theorem entry?_of_write {s s' : FileStore} {key text : String} (h : s.write key text = (.ok (), s')) :
    s'.entry? key = some (.file text.toUTF8) := by
  rcases s.write_cases key text with ⟨t, hwrite, hentries⟩ | ⟨f, s'', hwrite, -⟩
  · obtain rfl := (Prod.mk.inj (hwrite.symm.trans h)).2
    rw [hentries, if_pos rfl]
  · cases hwrite.symm.trans h

theorem read_of_write_error {s s' : FileStore} {key text : String} {f : Failure}
    (h : s.write key text = (.error f, s')) (k : String) : s'.read k = s.read k := by
  rcases s.write_cases key text with ⟨t, hwrite, -⟩ | ⟨f', s'', hwrite, hinterrupted⟩
  · cases hwrite.symm.trans h
  · obtain rfl := (Prod.mk.inj (hwrite.symm.trans h)).2
    exact hinterrupted.read_eq k

/-- The keys are the texts of ASCII letters, digits, `-`, `_` and `.` without a dot in front. Each has a file of its own
directly in the directory, and next to it a draft of its own, which is no key's file. So what is read under other keys
stays whatever comes of a write; the file of its own key has the text if the write is accepted, and is read as before if
the write is refused or ends early. -/
theorem keys_isolated (s : FileStore) :
    (∀ key, (∃ path, s.pathOf key = .ok path) ↔
      key ≠ "" ∧ (∀ c ∈ key.toList, IsKeyChar c) ∧ key.toList.head? ≠ some '.') ∧
    (∀ key path, s.pathOf key = .ok path →
      (∃ name, path = s.directory ++ [name] ∧ IsEntryName name) ∧
        path.withExtension "json.tmp" = s.directory ++ [draftName key]) ∧
    (∀ key k path path', s.pathOf key = .ok path → s.pathOf k = .ok path' →
      (path = path' → key = k) ∧ path ≠ path'.withExtension "json.tmp" ∧
        (path.withExtension "json.tmp" = path'.withExtension "json.tmp" → key = k)) ∧
    (∀ key text answer s', s.write key text = (answer, s') →
      (∀ k, k ≠ key → s'.read k = s.read k) ∧ (answer = .ok () → s'.entry? key = some (.file text.toUTF8)) ∧
        ∀ f, answer = .error f → s'.read key = s.read key) ∧
    ∀ key s', s.Interrupted key s' → ∀ k, s'.read k = s.read k := by
  refine ⟨fun key => ?_, ?_, ?_, ?_, fun key s' h => h.read_eq⟩
  · simp only [pathOf_eq_ok_iff, ← isKey_iff, exists_and_left, exists_eq, and_true]
  · intro key path hpath
    obtain ⟨hkey, rfl⟩ := pathOf_eq_ok_iff.mp hpath
    exact ⟨⟨_, rfl, isEntryName_fileName hkey⟩, withExtension_fileName hkey _⟩
  · intro key k path path' hpath hpath'
    obtain ⟨hkey, rfl⟩ := pathOf_eq_ok_iff.mp hpath
    obtain ⟨hk, rfl⟩ := pathOf_eq_ok_iff.mp hpath'
    rw [withExtension_fileName hkey, withExtension_fileName hk]
    simp [fileName_inj, draftName_inj, fileName_ne_draftName]
  · rintro key text answer s' hwrite
    refine ⟨fun k hk => ?_, ?_, ?_⟩
    · have hread := s.read_write_of_ne hk text
      rwa [hwrite] at hread
    · rintro rfl
      exact entry?_of_write hwrite
    · rintro f rfl
      exact read_of_write_error hwrite key

def blocked : FileStore where
  tree := .directory [("s", .directory [("a.json", .directory []), ("b.json", .file "x".toUTF8)])]
  directory := ["s"]

/-- The draft of `a` is written and cannot take the place of the directory; it is no file of a key, and `b` is read as
before. -/
theorem keys_isolated_blocked :
    ∃ s', blocked.write "a" "y" = (.error .io, s') ∧
      s'.tree.find? ["s", "a.json.tmp"] = some (.file "y".toUTF8) ∧ s'.read "a" = blocked.read "a" ∧
      s'.read "b" = blocked.read "b" := by
  obtain ⟨-, -, -, hwrites, -⟩ := keys_isolated blocked
  have hwrite : blocked.write "a" "y" = (.error .io, (blocked.write "a" "y").2) := by rfl
  obtain ⟨hothers, -, hrefused⟩ := hwrites "a" "y" _ _ hwrite
  exact ⟨_, hwrite, by rfl, hrefused .io rfl, hothers "b" (by decide)⟩

end Worksheet.FileStore
