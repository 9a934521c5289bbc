import Worksheet.Proofs.Storage.History

/-!
# Texts that are too large to read

A directory takes texts of any size, and gives back those within a limit.

* `FileTree.isSome_inDirectory`, `FileTree.isSome_write`, `FileTree.isSome_rename` : which changes in a directory are
  made;
* `FileStore.write_accepted_iff` : when a text is accepted, which does not depend on it;
* `FileStore.read_of_write_iff` : which of the accepted texts are read back.
-/

namespace Worksheet

/-! ## Changes that are made -/

namespace FileTree

theorem isSome_inDirectory {change : List (String × FileTree) → Option (List (String × FileTree))} {path : Path}
    {t : FileTree} :
    (inDirectory change path t).isSome = true ↔
      ∃ es, t.find? path = some (.directory es) ∧ (change es).isSome = true := by
  induction path generalizing t with
  | nil => cases t <;> simp [inDirectory, find?]
  | cons p path ih =>
    cases t with
    | file content => simp [inDirectory, find?]
    | directory entries =>
      rw [inDirectory, find?]
      cases entries.lookup p with
      | none => simp
      | some u => simp [ih]

def HasNoDirectory (es : List (String × FileTree)) (name : String) : Prop :=
  ∀ inner, es.lookup name ≠ some (.directory inner)

theorem isSome_write {name : String} {content : ByteArray} {path : Path} {t : FileTree} :
    (write name content path t).isSome = true ↔
      ∃ es, t.find? path = some (.directory es) ∧ HasNoDirectory es name ∧ isName name = true := by
  refine isSome_inDirectory.trans (exists_congr fun es => and_congr_right fun _ => ?_)
  unfold HasNoDirectory
  rcases es.lookup name with _ | _ | _ <;> simp

theorem lookup_write {name : String} {content : ByteArray} {path : Path} {t t' : FileTree}
    {es : List (String × FileTree)} (hes : t.find? path = some (.directory es))
    (h : write name content path t = some t') :
    ∃ es', t'.find? path = some (.directory es') ∧
      ∀ n, es'.lookup n = if n = name then some (.file content) else es.lookup n := by
  obtain ⟨-, es', -, -, hes'⟩ := find?_of_inDirectory h
  refine ⟨es', hes', fun n => ?_⟩
  have hn := find?_write h n
  rwa [find?_append, find?_append, hes, hes', Option.bind_some, Option.bind_some, find?_name, find?_name] at hn

theorem isSome_rename {name newName : String} {path : Path} {t : FileTree} :
    (rename name newName path t).isSome = true ↔
      ∃ es content, t.find? path = some (.directory es) ∧ es.lookup name = some (.file content) ∧
        HasNoDirectory es newName := by
  refine isSome_inDirectory.trans (exists_congr fun es => ?_)
  unfold HasNoDirectory
  rcases es.lookup name with _ | _ | _ <;> rcases es.lookup newName with _ | _ | _ <;> simp

end FileTree

/-! ## Texts that are accepted -/

namespace FileStore

open FileTree (HasNoDirectory)

/-- A write is accepted if its directory can be made and neither its draft nor its file has the place of a directory
there. The text does not matter. -/
theorem write_accepted_iff (s : FileStore) (key text : String) :
    (∃ s', s.write key text = (.ok (), s')) ↔
      isKey key = true ∧ FileTree.isName (draftName key) = true ∧
        ∃ made es, s.tree.makeDirectories s.directory = some made ∧ made.find? s.directory = some (.directory es) ∧
          HasNoDirectory es (draftName key) ∧ HasNoDirectory es (fileName key) := by
  constructor
  · rintro ⟨s', hwrite⟩
    obtain ⟨hkey, made, drafted, renamed, hmade, hdrafted, hrenamed, -⟩ := write_eq_ok_iff.mp hwrite
    obtain ⟨es, hes, hdraft, hname⟩ := FileTree.isSome_write.mp (Option.isSome_of_eq_some hdrafted)
    obtain ⟨es', hes', hlookup⟩ := FileTree.lookup_write hes hdrafted
    obtain ⟨_, content, hes'', -, hfile⟩ := FileTree.isSome_rename.mp (Option.isSome_of_eq_some hrenamed)
    obtain rfl := FileTree.directory.inj (Option.some.inj (hes'.symm.trans hes''))
    have hkept : es'.lookup (fileName key) = es.lookup (fileName key) := by
      rw [hlookup, if_neg (fileName_ne_draftName key key)]
    exact ⟨hkey, hname, made, es, hmade, hes, hdraft, fun inner => hkept ▸ hfile inner⟩
  · rintro ⟨hkey, hname, made, es, hmade, hes, hdraft, hfile⟩
    have hwritten : (made.write (draftName key) text.toUTF8 s.directory).isSome = true :=
      FileTree.isSome_write.mpr ⟨es, hes, hdraft, hname⟩
    obtain ⟨drafted, hdrafted⟩ := Option.isSome_iff_exists.mp hwritten
    obtain ⟨es', hes', hlookup⟩ := FileTree.lookup_write hes hdrafted
    have hdrafted' : es'.lookup (draftName key) = some (.file text.toUTF8) := by rw [hlookup, if_pos rfl]
    have hkept : es'.lookup (fileName key) = es.lookup (fileName key) := by
      rw [hlookup, if_neg (fileName_ne_draftName key key)]
    have hfile' : HasNoDirectory es' (fileName key) := fun inner => hkept ▸ hfile inner
    obtain ⟨renamed, hrenamed⟩ := Option.isSome_iff_exists.mp
      (FileTree.isSome_rename.mpr ⟨es', _, hes', hdrafted', hfile'⟩)
    exact ⟨_, write_eq_ok_iff.mpr ⟨hkey, made, drafted, renamed, hmade, hdrafted, hrenamed, rfl⟩⟩

/-! ## Texts that are read back -/

theorem textOf_of_large {content : ByteArray} (h : sizeLimit < content.size) : textOf content = .error .io := by
  rw [textOf, if_pos h]

theorem read_of_write_large {s s' : FileStore} {key text : String} (h : s.write key text = (.ok (), s'))
    (hsize : sizeLimit < text.utf8ByteSize) : s'.read key = .error .io := by
  have hkey := (write_eq_ok_iff.mp h).1
  have hlarge : sizeLimit < text.toUTF8.size := hsize
  rw [read_eq_textOf hkey (entry?_of_write h), textOf_of_large hlarge]
  rfl

/-- Whether a text is accepted does not depend on it, and what is then read under its key, from any store in the same
directory, is the text if it is within the limit, and a failure if it is not. -/
theorem read_of_write_iff {s s' : FileStore} {key text : String} (h : s.write key text = (.ok (), s')) :
    (∀ other : FileStore, other.tree = s'.tree → other.directory = s'.directory →
      other.read key = if text.utf8ByteSize ≤ sizeLimit then .ok (some text) else .error .io) ∧
    ∀ text', ∃ s'', s.write key text' = (.ok (), s'') := by
  refine ⟨fun other htree hdirectory => ?_, fun text' => ?_⟩
  · have hentry : other.entry? key = s'.entry? key := by
      unfold entry?
      rw [htree, hdirectory]
    have hother : other.read key = s'.read key := read_congr hdirectory hentry
    rw [hother]
    split
    · next hsize => exact read_of_write h hsize
    · next hsize => exact read_of_write_large h (Nat.lt_of_not_le hsize)
  · exact (s.write_accepted_iff key text').mpr ((s.write_accepted_iff key text).mp ⟨s', h⟩)

def drafted : FileStore where
  tree := .directory [("s", .directory [("a.json", .file "x".toUTF8), ("a.json.tmp", .file "yy".toUTF8)])]
  directory := ["s"]

theorem exists_utf8ByteSize_eq (n : Nat) : ∃ text : String, text.utf8ByteSize = n := by
  induction n with
  | zero => exact ⟨"", rfl⟩
  | succ n ih =>
    obtain ⟨text, htext⟩ := ih
    exact ⟨text.push 'a', by rw [String.utf8ByteSize_push, htext]; rfl⟩

theorem read_of_write_iff_drafted :
    (drafted.write "a" "z").1 = .ok () ∧ (drafted.write "a" "z").2.read "a" = .ok (some "z") ∧
      ∃ text s', drafted.write "a" text = (.ok (), s') ∧ s'.read "a" = .error .io := by
  have hwrite : drafted.write "a" "z" = (.ok (), (drafted.write "a" "z").2) := by rfl
  obtain ⟨hread, haccepted⟩ := read_of_write_iff hwrite
  have hsmall : "z".utf8ByteSize ≤ sizeLimit := by decide
  obtain ⟨text, htext⟩ := exists_utf8ByteSize_eq (sizeLimit + 1)
  have hlarge : ¬text.utf8ByteSize ≤ sizeLimit := by rw [htext]; exact Nat.not_succ_le_self _
  obtain ⟨s', hwrite'⟩ := haccepted text
  exact ⟨by rfl, (hread _ rfl rfl).trans (if_pos hsmall), text, s', hwrite',
    ((read_of_write_iff hwrite').1 s' rfl rfl).trans (if_neg hlarge)⟩

/-- Not every text that is accepted is read back. -/
theorem not_always_read_back :
    ¬∀ (s s' : FileStore) (key text : String), isKey key = true → s.write key text = (.ok (), s') →
      s'.read key = .ok (some text) := by
  intro hall
  obtain ⟨text, hsize⟩ := exists_utf8ByteSize_eq (sizeLimit + 1)
  have haccepts : ∃ s', drafted.write "a" text = (.ok (), s') :=
    (drafted.write_accepted_iff "a" text).mpr ((drafted.write_accepted_iff "a" "z").mp ⟨_, rfl⟩)
  obtain ⟨s', hwrite⟩ := haccepts
  have hrefused := read_of_write_large hwrite (by rw [hsize]; exact Nat.lt_succ_self _)
  cases hrefused.symm.trans (hall drafted s' "a" text (by decide) hwrite)

end FileStore

end Worksheet
