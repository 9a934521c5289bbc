import Worksheet.CommandLine.Run
import Worksheet.Proofs.Document.Continuation
import Worksheet.Proofs.Settings.Words
import Worksheet.Proofs.Storage.History

/-!
# Runs that print the table

* `sheetStore`, `savedFile`, `isReadable` : the store and the file of a sheet, and whether it can be read;
* `openSheet_saved`, `openSheet_unsaved` : how the sheet is opened;
* `inWords_of_loadConfig` : the settings of a run have a limit that is made of words;
* `Arguments.PrintsTable` : runs that add no rows or columns and print the whole table;
* `idle_of_setAll`, `store_of_setAll` : what changes leave, in memory and in the store;
* `runSheet_unopened`, `runSheet_failed`, `runSheet_ok` : such a run ends as opening does, or as the changes do.
-/

namespace Worksheet.CommandLine

/-! ## Sheets in files -/

def sheetStore (tree : FileTree) (home : String) (c : Config) : FileStore :=
  ⟨tree, Path.ofText (c.storeDir.getD (userStore home))⟩

def savedFile (tree : FileTree) (home : String) (c : Config) : Option FileTree :=
  FileStore.entry? (sheetStore tree home c) c.tableKey

/-- Whether a file is not too large to be read. -/
def isReadable : Option FileTree → Bool
  | some (.file content) => content.size ≤ FileStore.sizeLimit
  | _ => true

theorem openSheet_saved (tree : FileTree) (home : String) {c : Config} (h : c.saveToStore = true) :
    openSheet tree home c = trying ("failed to open sheet " ++ c.tableKey) (Document.load c (sheetStore tree home c)) :=
  if_pos h

theorem openSheet_unsaved (tree : FileTree) (home : String) {c : Config} (h : c.saveToStore = false) :
    openSheet tree home c = .ok (Document.new c) :=
  if_neg (by rw [h]; exact Bool.false_ne_true)

theorem trying_eq_ok_iff {α : Type} {context : String} {x : Except Failure α} {a : α} :
    trying context x = .ok a ↔ x = .ok a := by
  cases x <;> simp [trying]

theorem inWords_of_readSettings {tree : FileTree} {path : String} {c : Config} (h : readSettings tree path = .ok c) :
    c.InWords := by
  unfold readSettings at h
  split at h
  · split at h
    · cases h
    · split at h
      · exact Config.inWords_of_parse h
      · cases h
  · cases h

theorem inWords_of_loadConfig {tree : FileTree} {home : String} {a : Arguments} {c : Config}
    (h : loadConfig tree home a = .ok c) : c.InWords := by
  have hread : ∀ {c₀}, findSettings tree home a.config = .ok c₀ → c₀.InWords := by
    intro c₀ h₀
    unfold findSettings at h₀
    split at h₀
    · exact inWords_of_readSettings h₀
    · split at h₀
      · exact inWords_of_readSettings h₀
      · cases h₀
        exact Config.inWords_default
  unfold loadConfig at h
  split at h
  · cases h
    exact ⟨Config.inWords_default.columns, Config.inWords_default.rows⟩
  · cases hfound : findSettings tree home a.config with
    | error f =>
      rw [hfound] at h
      cases h
    | ok c₀ =>
      rw [hfound] at h
      cases h
      exact ⟨(hread hfound).columns, (hread hfound).rows⟩

theorem idle_of_openSheet {tree : FileTree} {home : String} {c : Config} {d : Document FileStore}
    (h : openSheet tree home c = .ok d) : d.Idle := by
  cases hsaves : c.saveToStore with
  | true =>
    rw [openSheet_saved tree home hsaves, trying_eq_ok_iff] at h
    obtain ⟨s, e, -, -, rfl⟩ := Document.exists_of_load h
    exact Document.save_of_clean rfl
  | false =>
    rw [openSheet_unsaved tree home hsaves] at h
    cases h
    exact Document.save_of_clean rfl

/-! ## Runs that print the table -/

/-- Whether a run adds no rows or columns, and prints the whole table. -/
structure Arguments.PrintsTable (a : Arguments) : Prop where
  addRows : a.addRows = none
  addColumns : a.addColumns = none
  evals : a.evals = []

theorem Arguments.PrintsTable.withSets {a : Arguments} (ha : a.PrintsTable) (sets : List (String × String)) :
    { a with sets := sets }.PrintsTable where
  addRows := ha.addRows
  addColumns := ha.addColumns
  evals := ha.evals

theorem run_of_parse {words : List String} {a : Arguments} (h : Request.parse words = some (.run a)) (tree : FileTree)
    (home : String) : run tree home words = runSheet tree home a := by
  unfold run
  rw [h]

theorem idle_of_setAll {d d' : Document FileStore} (hd : d.Idle) {sets : List (String × String)}
    (h : setAll d sets = (.ok (), d')) : d'.Idle := by
  induction sets generalizing d with
  | nil =>
    cases h
    exact hd
  | cons set sets ih =>
    obtain ⟨name, raw⟩ := set
    rw [setAll] at h
    split at h
    · next b d₁ hset => exact ih (Document.idle_of_setNamed hset) h
    · cases h

theorem store_of_setAll {d : Document FileStore} {sets : List (String × String)} (h : (setAll d sets).2.store = none) :
    d.store = none := by
  induction sets generalizing d with
  | nil => exact h
  | cons set sets ih =>
    obtain ⟨name, raw⟩ := set
    have hnone : (d.setNamed name raw).2.store = none := by
      rw [setAll] at h
      split at h
      · next b d₁ hset =>
        rw [hset]
        exact ih h
      · next f d₁ hset =>
        rw [hset]
        exact h
    exact Document.store_of_setNamed hnone

theorem treeAfter_treeAfter {tree : FileTree} {d d' : Document FileStore} (h : d'.store = none → d.store = none) :
    treeAfter (treeAfter tree d) d' = treeAfter tree d' := by
  unfold treeAfter
  cases hstore : d'.store with
  | some s => rfl
  | none =>
    rw [h hstore]
    rfl

theorem grown_eq {a : Arguments} (ha : a.PrintsTable) (d : Document FileStore) : grown a d = d := by
  unfold grown
  rw [ha.addRows, ha.addColumns]
  rfl

theorem runSheet_unopened {tree : FileTree} {home : String} {a : Arguments} {f : Complaint}
    (h : (loadConfig tree home a >>= openSheet tree home) = .error f) : runSheet tree home a = (failed "" f, tree) := by
  unfold runSheet
  rw [h]

section

variable {tree : FileTree} {home : String} {a : Arguments} {c : Config} {d d' : Document FileStore}
  (ha : a.PrintsTable) (hconfig : loadConfig tree home a = .ok c) (hopen : openSheet tree home c = .ok d)

include hconfig hopen in
theorem opened_eq : (loadConfig tree home a >>= openSheet tree home) = .ok d := by
  rw [hconfig]
  exact hopen

include ha hconfig hopen

theorem runSheet_failed {f : Complaint} (h : setAll d a.sets = (.error f, d')) :
    runSheet tree home a = (failed "" f, treeAfter tree d') := by
  have hedited : edited a d = (.error f, d') := by
    unfold edited
    rw [grown_eq ha, h]
  unfold runSheet
  rw [opened_eq hconfig hopen]
  dsimp only
  rw [hedited]

theorem runSheet_ok (h : setAll d a.sets = (.ok (), d')) :
    (runSheet tree home a).1.code = 0 ∧ (runSheet tree home a).2 = treeAfter tree d' := by
  have hidle : d'.save = (.ok false, d') := idle_of_setAll (idle_of_openSheet hopen) h
  have hedited : edited a d = (.ok (), d') := by
    unfold edited
    rw [grown_eq ha, h]
    dsimp only
    rw [hidle]
  obtain ⟨text, hreport⟩ : ∃ text, report a d' = (text, none) := by
    unfold report
    rw [ha.evals]
    exact ⟨_, rfl⟩
  unfold runSheet
  rw [opened_eq hconfig hopen]
  dsimp only
  rw [hedited]
  dsimp only
  rw [hreport]
  exact ⟨rfl, rfl⟩

end

end Worksheet.CommandLine
