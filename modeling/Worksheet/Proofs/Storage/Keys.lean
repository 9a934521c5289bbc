import Worksheet.Storage.FileStore

/-!
# Keys and their files

Each key has a file and, while it is written, a draft. The name of the draft is that of the file with another
extension.

* `replaceExtension`, `Path.withExtension` : another extension in the place of the last one;
* `IsEntryName` : names that stay in their directory;
* `FileStore.isKey_iff`, `FileStore.pathOf_eq_ok_iff` : which texts are keys, and where their files are;
* `FileStore.isEntryName_fileName` : the file of a key is an entry of the directory;
* `FileStore.fileName_inj`, `FileStore.draftName_inj`, `FileStore.fileName_ne_draftName` : no two keys share a file
  or a draft, and no file is a draft;
* `FileStore.withExtension_fileName` : how the draft is named.
-/

namespace Worksheet

/-! ## File names -/

/-- A file name with another extension in the place of its own, which is what follows its last dot. A dot that comes
first starts no extension. -/
def replaceExtension (name extension : String) : String :=
  let stem := ((name.toList.reverse.dropWhile (· != '.')).drop 1).reverse
  String.ofList (if stem = [] then name.toList else stem) ++ "." ++ extension

def Path.withExtension (path : Path) (extension : String) : Path :=
  match path.getLast? with
  | none => []
  | some name => path.dropLast ++ [replaceExtension name extension]

theorem Path.withExtension_append (path : Path) (name extension : String) :
    Path.withExtension (path ++ [name]) extension = path ++ [replaceExtension name extension] := by
  simp [Path.withExtension]

/-- Whether a name stands for an entry of its directory: it has no slash and does not lead elsewhere. -/
def IsEntryName (name : String) : Prop :=
  '/' ∉ name.toList ∧ name ≠ "" ∧ name ≠ "." ∧ name ≠ ".."

namespace FileStore

/-! ## Keys -/

def IsKeyChar (c : Char) : Prop :=
  ('A' ≤ c ∧ c ≤ 'Z') ∨ ('a' ≤ c ∧ c ≤ 'z') ∨ ('0' ≤ c ∧ c ≤ '9') ∨ c = '-' ∨ c = '_' ∨ c = '.'

theorem isKey_iff (key : String) :
    isKey key = true ↔ key ≠ "" ∧ (∀ c ∈ key.toList, IsKeyChar c) ∧ key.toList.head? ≠ some '.' := by
  have hchar : ∀ c : Char, (c.isAlphanum || c = '-' || c = '_' || c = '.') = true ↔ IsKeyChar c := by
    intro c
    have hupper : c.isUpper = true ↔ 'A' ≤ c ∧ c ≤ 'Z' := decide_eq_true_iff
    have hlower : c.isLower = true ↔ 'a' ≤ c ∧ c ≤ 'z' := by
      show (decide ('a'.val ≤ c.val) && decide (c.val ≤ 'z'.val)) = true ↔ _
      simp [Char.le_def]
    have hdigit : c.isDigit = true ↔ '0' ≤ c ∧ c ≤ '9' := by
      show (decide ('0'.val ≤ c.val) && decide (c.val ≤ '9'.val)) = true ↔ _
      simp [Char.le_def]
    show (((c.isUpper || c.isLower) || c.isDigit) || decide (c = '-') || decide (c = '_') || decide (c = '.')) = true ↔ _
    simp [IsKeyChar, hupper, hlower, hdigit, or_assoc]
  have hempty : key ≠ "" ↔ key.toList ≠ [] := by simp
  unfold isKey
  rw [hempty]
  cases key.toList with
  | nil => simp
  | cons c cs =>
    simp only [hchar, Bool.and_eq_true, bne_iff_ne, List.all_eq_true]
    simp [and_comm]

theorem pathOf_eq_ok_iff {s : FileStore} {key : String} {path : Path} :
    s.pathOf key = .ok path ↔ isKey key = true ∧ path = s.directory ++ [fileName key] := by
  unfold pathOf
  by_cases hkey : isKey key = true
  · simp [hkey, eq_comm]
  · simp [hkey]

/-! ## Files and drafts -/

/-- The last characters of a name, which tell a file from a draft and both from the directory itself. -/
theorem getLast?_fileName (key : String) : (fileName key).toList.getLast? = some 'n' := by
  simp [fileName]

theorem getLast?_draftName (key : String) : (draftName key).toList.getLast? = some 'p' := by
  simp [draftName]

theorem fileName_inj {key k : String} : fileName key = fileName k ↔ key = k := by
  simp [fileName]

theorem draftName_inj {key k : String} : draftName key = draftName k ↔ key = k := by
  simp [draftName, fileName_inj]

theorem fileName_ne_draftName (key k : String) : fileName key ≠ draftName k := by
  intro h
  have hlast := getLast?_draftName k
  rw [← h, getLast?_fileName] at hlast
  exact absurd hlast (by decide)

theorem isEntryName_fileName {key : String} (hkey : isKey key = true) : IsEntryName (fileName key) := by
  obtain ⟨-, hchars, -⟩ := (isKey_iff key).mp hkey
  refine ⟨?_, ?_, ?_, ?_⟩
  · intro hslash
    rw [fileName, String.toList_append, List.mem_append] at hslash
    rcases hslash with hslash | hslash
    · exact absurd (hchars '/' hslash) (by unfold IsKeyChar; decide)
    · exact absurd hslash (by decide)
  all_goals
    intro h
    have hlast := getLast?_fileName key
    rw [h] at hlast
    exact absurd hlast (by decide)

theorem replaceExtension_fileName {key : String} (hkey : key ≠ "") (extension : String) :
    replaceExtension (fileName key) extension = key ++ "." ++ extension := by
  have hstem : ((fileName key).toList.reverse.dropWhile (· != '.')).drop 1 = key.toList.reverse := by
    simp [fileName]
  have hne : key.toList ≠ [] := by simpa using hkey
  simp [replaceExtension, hstem, hne]

theorem withExtension_fileName {key : String} (hkey : isKey key = true) (directory : Path) :
    Path.withExtension (directory ++ [fileName key]) "json.tmp" = directory ++ [draftName key] := by
  obtain ⟨hne, -⟩ := (isKey_iff key).mp hkey
  rw [Path.withExtension_append, replaceExtension_fileName hne, draftName, fileName, String.append_assoc,
    String.append_assoc]
  rfl

end FileStore

end Worksheet
