import Mathlib.Data.List.Forall2
import Worksheet.Proofs.CommandLine.TableRuns

/-!
# One run and many

A run that changes several cells does what runs do that change one cell each.

* `runEach` : runs one after the other, up to the first that fails; `runEach_of_ok`, `runEach_append`;
* `Continues` : a document goes on where a separate run begins; `Continues.setNamed_cases` : what a change does;
* `Continues.next`, `Continues.runSheet_ok`, `Continues.runSheet_failed` : one change and the separate run that makes it;
* `Finds`, `SavesReadable` : the separate runs find the same settings, and save sheets that can be read again;
* `Continues.setAll_cases` : all changes; `run_ok_or_failed`, `run_eq_runEach` : whole runs;
* `not_always_eq_runEach` : settings that are read from the sheet's own file.
-/

namespace Worksheet.CommandLine

/-! ## Sequences of runs -/

/-- Runs one after the other, up to the first that does not exit with zero: how they end, and the files that are
there then. -/
def runEach (home : String) : FileTree → List (List String) → List Outcome × FileTree
  | tree, [] => ([], tree)
  | tree, words :: lines =>
    if (run tree home words).1.code = 0 then
      ((run tree home words).1 :: (runEach home (run tree home words).2 lines).1,
        (runEach home (run tree home words).2 lines).2)
    else ([(run tree home words).1], (run tree home words).2)

def Succeed (outcomes : List Outcome) : Prop :=
  ∀ o ∈ outcomes, o.code = 0

instance (outcomes : List Outcome) : Decidable (Succeed outcomes) :=
  inferInstanceAs (Decidable (∀ o ∈ outcomes, o.code = 0))

theorem succeed_nil : Succeed [] :=
  fun _ ho => absurd ho List.not_mem_nil

section

variable {home : String} {tree : FileTree} {words : List String} {lines : List (List String)}

theorem runEach_of_ok (h : (run tree home words).1.code = 0) :
    runEach home tree (words :: lines) =
      ((run tree home words).1 :: (runEach home (run tree home words).2 lines).1,
        (runEach home (run tree home words).2 lines).2) :=
  if_pos h

theorem runEach_of_failed (h : (run tree home words).1.code ≠ 0) :
    runEach home tree (words :: lines) = ([(run tree home words).1], (run tree home words).2) :=
  if_neg h

theorem succeed_runEach_cons (h : (run tree home words).1.code = 0) :
    Succeed (runEach home tree (words :: lines)).1 ↔ Succeed (runEach home (run tree home words).2 lines).1 := by
  rw [runEach_of_ok h]
  constructor
  · exact fun hall => (List.forall_mem_cons.mp hall).2
  · exact fun hall => List.forall_mem_cons.mpr ⟨h, hall⟩

theorem runEach_append {before : List (List String)} (hbefore : Succeed (runEach home tree before).1)
    (h : (run (runEach home tree before).2 home words).1.code ≠ 0) (after : List (List String)) :
    ¬Succeed (runEach home tree (before ++ words :: after)).1 ∧
      (runEach home tree (before ++ words :: after)).2 = (run (runEach home tree before).2 home words).2 := by
  induction before generalizing tree with
  | nil =>
    have hfails : (run tree home words).1.code ≠ 0 := h
    rw [List.nil_append, runEach_of_failed hfails]
    exact ⟨fun hall => hfails (hall _ (List.mem_singleton_self _)), rfl⟩
  | cons first before ih =>
    by_cases hfirst : (run tree home first).1.code = 0
    · rw [succeed_runEach_cons hfirst] at hbefore
      rw [runEach_of_ok hfirst] at h ⊢
      rw [List.cons_append, succeed_runEach_cons hfirst, runEach_of_ok hfirst]
      exact ih hbefore h
    · rw [runEach_of_failed hfirst] at hbefore
      exact absurd (hbefore _ (List.mem_singleton_self _)) hfirst

end

/-! ## One change -/

/-- A document goes on where a separate run begins: it is the one that such a run opens, or both are kept nowhere and
have the same extent. -/
structure Continues (home : String) (c : Config) (tree : FileTree) (d : Document FileStore) : Prop where
  saved : c.saveToStore = true → Document.load c (sheetStore tree home c) = .ok d
  unsaved : c.saveToStore = false → d.Unsaved c.extent

theorem continues_of_openSheet {tree : FileTree} {home : String} {c : Config} {d : Document FileStore}
    (h : openSheet tree home c = .ok d) : Continues home c tree d where
  saved hsaves := by rwa [openSheet_saved tree home hsaves, trying_eq_ok_iff] at h
  unsaved hkept := by
    rw [openSheet_unsaved tree home hkept] at h
    cases h
    exact Document.unsaved_new hkept

namespace Continues

variable {home : String} {c : Config} {tree : FileTree} {d : Document FileStore} (hd : Continues home c tree d)
include hd

theorem store_eq (hsaves : c.saveToStore = true) :
    d.store = some (sheetStore tree home c) ∧ d.tableKey = c.tableKey ∧ d.saveToStore = true := by
  obtain ⟨s, e, -, -, rfl⟩ := Document.exists_of_load (hd.saved hsaves)
  exact ⟨rfl, rfl, hsaves⟩

theorem treeAfter_eq : treeAfter tree d = tree := by
  cases hsaves : c.saveToStore with
  | true =>
    rw [treeAfter, (hd.store_eq hsaves).1]
    rfl
  | false =>
    rw [treeAfter, (hd.unsaved hsaves).detached]
    rfl

/-- A separate run opens a document that a change does the same to. -/
theorem exists_opened (name raw : String) : ∃ d₀, openSheet tree home c = .ok d₀ ∧
    (d₀.setNamed name raw).1 = (d.setNamed name raw).1 ∧
      treeAfter tree (d₀.setNamed name raw).2 = treeAfter tree (d.setNamed name raw).2 := by
  cases hsaves : c.saveToStore with
  | true =>
    refine ⟨d, ?_, rfl, rfl⟩
    rw [openSheet_saved tree home hsaves, trying_eq_ok_iff]
    exact hd.saved hsaves
  | false =>
    have hd := hd.unsaved hsaves
    have hnew := Document.unsaved_new (σ := FileStore) hsaves
    refine ⟨Document.new c, openSheet_unsaved tree home hsaves, hnew.answer_setNamed hd name raw, ?_⟩
    rw [treeAfter, treeAfter, (hnew.setNamed name raw).detached, (hd.setNamed name raw).detached]

/-- A change of a sheet that is kept in a file is rejected, or written there, or refused by the file system, which
leaves the file as it was. -/
theorem setNamed_cases (hsaves : c.saveToStore = true) (name raw : String) :
    (∃ f, d.setNamed name raw = (.error f, d)) ∨
    ∃ b t, d.checkEditable b = .ok () ∧
      ((FileStore.write (sheetStore tree home c) c.tableKey (d.grid.set b raw).snapshot.encode =
          (.ok (), sheetStore t home c) ∧
        savedFile t home c = some (.file (d.grid.set b raw).snapshot.encode.toUTF8) ∧
        d.setNamed name raw = (.ok b, { d with
          grid := (d.grid.set b raw).markClean, store := some (sheetStore t home c) })) ∨
      ∃ f, savedFile t home c = savedFile tree home c ∧
        d.setNamed name raw = (.error f, { d with
          grid := d.grid.set b raw, store := some (sheetStore t home c) })) := by
  obtain ⟨hstore, hkey, hsave⟩ := hd.store_eq hsaves
  cases hname : Document.coordOf name with
  | error f => exact .inl ⟨f, Document.setNamed_error hname d raw⟩
  | ok b =>
    rw [Document.setNamed_ok hname]
    cases hb : d.checkEditable b with
    | error f => exact .inl ⟨f, by rw [Document.set_error hb]; rfl⟩
    | ok u =>
      obtain ⟨t, hfile⟩ := (sheetStore tree home c).write_ok_or_error c.tableKey (d.grid.set b raw).snapshot.encode
      refine .inr ⟨b, t, hb, ?_⟩
      rcases hfile with ⟨hok, hentry⟩ | ⟨f, herror, hentry⟩
      · obtain ⟨s', ⟨hwrite, hset⟩ | ⟨f', hwrite, -⟩⟩ := Document.set_cases hsave hstore hb raw
        · rw [hkey] at hwrite
          obtain rfl := (Prod.mk.inj (hok.symm.trans hwrite)).2
          exact .inl ⟨hok, hentry, by rw [hset]; rfl⟩
        · rw [hkey] at hwrite
          cases (Prod.mk.inj (hok.symm.trans hwrite)).1
      · obtain ⟨s', ⟨hwrite, -⟩ | ⟨f', hwrite, hset⟩⟩ := Document.set_cases hsave hstore hb raw
        · rw [hkey] at hwrite
          cases (Prod.mk.inj (herror.symm.trans hwrite)).1
        · rw [hkey] at hwrite
          obtain rfl := (Prod.mk.inj (herror.symm.trans hwrite)).2
          exact .inr ⟨f', hentry, by rw [hset]; rfl⟩

theorem savedFile_of_error {name raw : String} {f : Failure} {d' : Document FileStore}
    (h : d.setNamed name raw = (.error f, d')) : savedFile (treeAfter tree d') home c = savedFile tree home c := by
  cases hsaves : c.saveToStore with
  | false =>
    have hnone := ((hd.unsaved hsaves).setNamed name raw).detached
    rw [h] at hnone
    rw [treeAfter, hnone]
    rfl
  | true =>
    rcases hd.setNamed_cases hsaves name raw with ⟨f', hset⟩ | ⟨b, t, -, ⟨-, -, hset⟩ | ⟨f', hfile, hset⟩⟩
    · cases hset.symm.trans h
      rw [hd.treeAfter_eq]
    · cases hset.symm.trans h
    · cases hset.symm.trans h
      exact hfile

/-- After a change that succeeds the document goes on where the next separate run begins. -/
theorem next (hwords : c.InWords) {name raw : String} {b : Coord} {d' : Document FileStore}
    (h : d.setNamed name raw = (.ok b, d'))
    (hreadable : c.saveToStore = true → isReadable (savedFile (treeAfter tree d') home c) = true) :
    Continues home c (treeAfter tree d') d' where
  unsaved hkept := by
    have hnext := (hd.unsaved hkept).setNamed name raw
    rwa [h] at hnext
  saved hsaves := by
    rcases hd.setNamed_cases hsaves name raw with ⟨f', hset⟩ | ⟨b', t, hb, ⟨hwrite, hfile, hset⟩ | ⟨f', -, hset⟩⟩
    · cases hset.symm.trans h
    · cases hset.symm.trans h
      have hreadable : isReadable (savedFile t home c) = true := hreadable hsaves
      rw [hfile] at hreadable
      have hread := FileStore.read_of_write hwrite (of_decide_eq_true hreadable)
      exact Document.load_of_set hsaves hwords.columns hwords.rows (hd.saved hsaves) hb hread
    · cases hset.symm.trans h

theorem runSheet_ok {a : Arguments} (ha : a.PrintsTable) (hconfig : loadConfig tree home a = .ok c)
    {name raw : String} {b : Coord} {d' : Document FileStore} (h : d.setNamed name raw = (.ok b, d')) :
    (runSheet tree home { a with sets := [(name, raw)] }).1.code = 0 ∧
      (runSheet tree home { a with sets := [(name, raw)] }).2 = treeAfter tree d' := by
  obtain ⟨d₀, hopen, hanswer, htree⟩ := hd.exists_opened name raw
  rw [h] at hanswer htree
  have hset : setAll d₀ [(name, raw)] = (.ok (), (d₀.setNamed name raw).2) := by
    rw [setAll, show d₀.setNamed name raw = (.ok b, (d₀.setNamed name raw).2) from Prod.ext hanswer rfl]
    rfl
  rw [← htree]
  exact CommandLine.runSheet_ok (ha.withSets [(name, raw)]) hconfig hopen hset

theorem runSheet_failed {a : Arguments} (ha : a.PrintsTable) (hconfig : loadConfig tree home a = .ok c)
    {name raw : String} {f : Failure} {d' : Document FileStore} (h : d.setNamed name raw = (.error f, d')) :
    runSheet tree home { a with sets := [(name, raw)] } =
      (failed "" ⟨some ("cannot set " ++ name), f⟩, treeAfter tree d') := by
  obtain ⟨d₀, hopen, hanswer, htree⟩ := hd.exists_opened name raw
  rw [h] at hanswer htree
  have hset : setAll d₀ [(name, raw)] =
      (.error ⟨some ("cannot set " ++ name), f⟩, (d₀.setNamed name raw).2) := by
    rw [setAll, show d₀.setNamed name raw = (.error f, (d₀.setNamed name raw).2) from Prod.ext hanswer rfl]
  rw [← htree]
  exact CommandLine.runSheet_failed (ha.withSets [(name, raw)]) hconfig hopen hset

end Continues

/-! ## All changes -/

/-- Whether each of the runs that are made finds these settings. -/
def Finds (home : String) (a : Arguments) (found : Except Complaint Config) (tree : FileTree)
    (lines : List (List String)) : Prop :=
  ∀ before words after, lines = before ++ words :: after → Succeed (runEach home tree before).1 →
    loadConfig (runEach home tree before).2 home a = found

def SavesReadable (home : String) (found : Except Complaint Config) (tree : FileTree) (lines : List (List String)) :
    Prop :=
  ∀ before, before <+: lines → before ≠ [] → Succeed (runEach home tree before).1 →
    ∀ c, found = .ok c → c.saveToStore = true → isReadable (savedFile (runEach home tree before).2 home c) = true

section

variable {home : String} {found : Except Complaint Config} {tree : FileTree} {words : List String}
  {lines : List (List String)} (hok : (run tree home words).1.code = 0)
include hok

theorem Finds.tail {a : Arguments} (h : Finds home a found tree (words :: lines)) :
    Finds home a found (run tree home words).2 lines := by
  intro before words' after hlines hbefore
  have hfirst := h (words :: before) words' after (by rw [hlines]; rfl) ((succeed_runEach_cons hok).mpr hbefore)
  rwa [runEach_of_ok hok] at hfirst

theorem SavesReadable.tail (h : SavesReadable home found tree (words :: lines)) :
    SavesReadable home found (run tree home words).2 lines := by
  intro before hprefix _ hbefore
  have hfirst := h (words :: before) (List.cons_prefix_cons.mpr ⟨rfl, hprefix⟩) (List.cons_ne_nil _ _)
    ((succeed_runEach_cons hok).mpr hbefore)
  rwa [runEach_of_ok hok] at hfirst

theorem SavesReadable.head (h : SavesReadable home found tree (words :: lines)) {c : Config} (hc : found = .ok c)
    (hsaves : c.saveToStore = true) : isReadable (savedFile (run tree home words).2 home c) = true := by
  have hfirst := h [words] (List.cons_prefix_cons.mpr ⟨rfl, List.nil_prefix⟩) (List.cons_ne_nil _ _)
    ((succeed_runEach_cons hok).mpr succeed_nil) c hc hsaves
  rwa [runEach_of_ok hok] at hfirst

end

/-- Changes that are made one after the other in a document do what separate runs do, up to the first that fails. -/
theorem Continues.setAll_cases {home : String} {a : Arguments} (ha : a.PrintsTable) {c : Config} (hwords : c.InWords)
    {lines : List (List String)} {sets : List (String × String)}
    (hlines : List.Forall₂ (fun words set => Request.parse words = some (.run { a with sets := [set] })) lines sets)
    {tree : FileTree} {d : Document FileStore} (hd : Continues home c tree d)
    (hfinds : Finds home a (.ok c) tree lines) (hreadable : SavesReadable home (.ok c) tree lines) :
    (∃ d', setAll d sets = (.ok (), d') ∧ Succeed (runEach home tree lines).1 ∧
      (runEach home tree lines).2 = treeAfter tree d') ∨
    ∃ f d', setAll d sets = (.error f, d') ∧ ∃ before words after, lines = before ++ words :: after ∧
      Succeed (runEach home tree before).1 ∧
        run (runEach home tree before).2 home words = (failed "" f, treeAfter tree d') ∧
          savedFile (treeAfter tree d') home c = savedFile (runEach home tree before).2 home c := by
  induction hlines generalizing tree d with
  | nil => exact .inl ⟨d, rfl, succeed_nil, hd.treeAfter_eq.symm⟩
  | @cons words set lines sets hparse hlines ih =>
    obtain ⟨name, raw⟩ := set
    have hconfig : loadConfig tree home a = .ok c := hfinds [] words lines rfl succeed_nil
    have hrun := run_of_parse hparse tree home
    rw [setAll]
    cases hset : d.setNamed name raw with
    | mk answer d₁ =>
      cases answer with
      | error f =>
        -- the change fails, and so does the separate run that makes it
        refine .inr ⟨_, d₁, rfl, [], words, lines, rfl, succeed_nil, ?_, hd.savedFile_of_error hset⟩
        exact hrun.trans (hd.runSheet_failed ha hconfig hset)
      | ok b =>
        obtain ⟨hcode, htree⟩ := hd.runSheet_ok ha hconfig hset
        rw [← hrun] at hcode htree
        have hfile : c.saveToStore = true → isReadable (savedFile (treeAfter tree d₁) home c) = true := by
          intro hsaves
          rw [← htree]
          exact hreadable.head hcode rfl hsaves
        have hnext : Continues home c (run tree home words).2 d₁ := htree ▸ hd.next hwords hset hfile
        have hafter : ∀ d', (setAll d₁ sets).2 = d' → treeAfter (run tree home words).2 d' = treeAfter tree d' := by
          rintro d' rfl
          rw [htree]
          exact treeAfter_treeAfter store_of_setAll
        rcases ih hnext (hfinds.tail hcode) (hreadable.tail hcode) with
          ⟨d', hsets, hall, hfinal⟩ | ⟨f, d', hsets, before, words', after, heq, hbefore, hfails, hfile⟩
        · refine .inl ⟨d', hsets, (succeed_runEach_cons hcode).mpr hall, ?_⟩
          rw [runEach_of_ok hcode, ← hafter d' (by rw [hsets])]
          exact hfinal
        · refine .inr ⟨f, d', hsets, words :: before, words', after, by rw [heq]; rfl,
            (succeed_runEach_cons hcode).mpr hbefore, ?_⟩
          rw [runEach_of_ok hcode, ← hafter d' (by rw [hsets])]
          exact ⟨hfails, hfile⟩

/-! ## Whole runs -/

section

variable {tree : FileTree} {home : String} {a : Arguments} (ha : a.PrintsTable) {line : List String}
  {lines : List (List String)} {sets : List (String × String)}
  (hline : Request.parse line = some (.run { a with sets := sets }))
  (hlines : List.Forall₂ (fun words set => Request.parse words = some (.run { a with sets := [set] })) lines sets)
  (hsets : sets ≠ []) (hfinds : Finds home a (loadConfig tree home a) tree lines)
  (hreadable : SavesReadable home (loadConfig tree home a) tree lines)
include ha hline hlines hsets hfinds hreadable

theorem run_ok_or_failed :
    ((run tree home line).1.code = 0 ∧ Succeed (runEach home tree lines).1 ∧
      (run tree home line).2 = (runEach home tree lines).2) ∨
    ∃ before words after, lines = before ++ words :: after ∧ Succeed (runEach home tree before).1 ∧
      run tree home line = run (runEach home tree before).2 home words ∧ (run tree home line).1.code ≠ 0 ∧
      (run tree home line).1.stdout = "" ∧ ∀ c, loadConfig tree home a = .ok c →
        savedFile (run tree home line).2 home c = savedFile (runEach home tree before).2 home c := by
  rw [run_of_parse hline]
  cases hopen : loadConfig tree home a >>= openSheet tree home with
  | error f =>
    -- no sheet is opened, neither by this run nor by the first of the others
    cases hlines with
    | nil => exact absurd rfl hsets
    | @cons words set lines sets hwords _ =>
      have hfirst := run_of_parse hwords tree home
      rw [runSheet_unopened (a := { a with sets := set :: sets }) hopen]
      refine .inr ⟨[], words, lines, rfl, succeed_nil, ?_, Nat.one_ne_zero, rfl, fun c _ => rfl⟩
      exact (hfirst.trans (runSheet_unopened (a := { a with sets := [set] }) hopen)).symm
  | ok d =>
    obtain ⟨c, hconfig, hd⟩ := Document.exists_of_bind_eq_ok hopen
    rw [hconfig] at hfinds hreadable
    rcases (continues_of_openSheet hd).setAll_cases ha (inWords_of_loadConfig hconfig) hlines hfinds hreadable with
      ⟨d', hset, hall, htree⟩ | ⟨f, d', hset, before, words, after, heq, hbefore, hfails, hfile⟩
    · obtain ⟨hcode, hfinal⟩ := runSheet_ok (ha.withSets sets) hconfig hd hset
      exact .inl ⟨hcode, hall, hfinal.trans htree.symm⟩
    · rw [runSheet_failed (ha.withSets sets) hconfig hd hset]
      refine .inr ⟨before, words, after, heq, hbefore, hfails.symm, Nat.one_ne_zero, rfl, fun c' hc' => ?_⟩
      obtain rfl := Except.ok.inj (hconfig.symm.trans hc')
      exact hfile

/-- A run with many changes leaves the same files as runs with one change each, up to the first that fails. It
succeeds if all of them do. If not, it ends as the first that fails, prints nothing and leaves the sheet in its file as
it was before that one, as long as each of the runs finds the same settings and sheets that can be read. -/
theorem run_eq_runEach :
    (run tree home line).2 = (runEach home tree lines).2 ∧
    ((run tree home line).1.code = 0 ↔ Succeed (runEach home tree lines).1) ∧
    ((run tree home line).1.code ≠ 0 → (run tree home line).1.stdout = "" ∧
      ∃ before words after, lines = before ++ words :: after ∧ Succeed (runEach home tree before).1 ∧
        (run tree home line).1 = (run (runEach home tree before).2 home words).1 ∧
        ∀ c, loadConfig tree home a = .ok c →
          savedFile (run tree home line).2 home c = savedFile (runEach home tree before).2 home c) := by
  rcases run_ok_or_failed ha hline hlines hsets hfinds hreadable with
    ⟨hcode, hall, htree⟩ | ⟨before, words, after, heq, hbefore, hsame, hcode, hstdout, hfile⟩
  · exact ⟨htree, iff_of_true hcode hall, fun hfails => absurd hcode hfails⟩
  · rw [hsame] at hcode
    obtain ⟨hnot, htree⟩ := runEach_append hbefore hcode after
    rw [← heq] at hnot htree
    refine ⟨by rw [htree, hsame], iff_of_false (by rwa [hsame]) hnot, fun _ => ⟨hstdout, ?_⟩⟩
    exact ⟨before, words, after, heq, hbefore, by rw [hsame], hfile⟩

end

/-! ## A change outside the sheet -/

theorem savesReadable_of_take {home : String} {c : Config} {tree : FileTree} {lines : List (List String)}
    (h : ∀ k < lines.length + 1, k ≠ 0 → Succeed (runEach home tree (lines.take k)).1 →
      isReadable (savedFile (runEach home tree (lines.take k)).2 home c) = true) :
    SavesReadable home (.ok c) tree lines := by
  intro before hprefix hne hbefore c' hc' _
  obtain rfl := Except.ok.inj hc'
  have htake := List.prefix_iff_eq_take.mp hprefix
  rw [htake] at hbefore ⊢
  have hlength : before.length ≠ 0 := fun hzero => hne (List.length_eq_zero_iff.mp hzero)
  exact h before.length (Nat.lt_succ_of_le hprefix.length_le) hlength hbefore

def keptFlags : List String :=
  ["--no-config", "--store", "s", "--rows", "2", "--cols", "2"]

def keptArguments : Arguments :=
  { Arguments.none_ with noConfig := true, store := some "s", rows := some 2, columns := some 2 }

def keptConfig : Config :=
  keptArguments.override .default

theorem loadConfig_kept (tree : FileTree) : loadConfig tree "h" keptArguments = .ok keptConfig := by
  have hnone : keptArguments.noConfig = true := rfl
  unfold loadConfig
  rw [if_pos hnone]
  rfl

def outsideSets : List (String × String) :=
  [("A1", "x"), ("A3", "y"), ("B1", "z")]

def outsideLine : List String :=
  keptFlags ++ ["--set", "A1=x", "--set", "A3=y", "--set", "B1=z"]

def outsideLines : List (List String) :=
  [keptFlags ++ ["--set", "A1=x"], keptFlags ++ ["--set", "A3=y"], keptFlags ++ ["--set", "B1=z"]]

theorem run_eq_runEach_outside :
    Finds "h" keptArguments (.ok keptConfig) .empty outsideLines ∧
      SavesReadable "h" (.ok keptConfig) .empty outsideLines ∧
      (run .empty "h" outsideLine).2 = (runEach "h" .empty outsideLines).2 ∧
      (run .empty "h" outsideLine).1.code ≠ 0 ∧ (run .empty "h" outsideLine).1.stdout = "" ∧
      savedFile (run .empty "h" outsideLine).2 "h" keptConfig =
        savedFile (runEach "h" .empty [keptFlags ++ ["--set", "A1=x"]]).2 "h" keptConfig := by
  have hprints : keptArguments.PrintsTable := ⟨rfl, rfl, rfl⟩
  have hline : Request.parse outsideLine = some (.run { keptArguments with sets := outsideSets }) := by
    decide +kernel
  have hlines : List.Forall₂ (fun words set => Request.parse words = some (.run { keptArguments with sets := [set] }))
      outsideLines outsideSets :=
    .cons (by decide +kernel) (.cons (by decide +kernel) (.cons (by decide +kernel) .nil))
  have hfinds : Finds "h" keptArguments (.ok keptConfig) .empty outsideLines := fun _ _ _ _ _ => loadConfig_kept _
  have hreadable : SavesReadable "h" (.ok keptConfig) .empty outsideLines :=
    savesReadable_of_take (by decide +kernel)
  have hfirst : (run .empty "h" (keptFlags ++ ["--set", "A1=x"])).1.code = 0 := by decide +kernel
  have hsecond : (run (run .empty "h" (keptFlags ++ ["--set", "A1=x"])).2 "h"
      (keptFlags ++ ["--set", "A3=y"])).1.code ≠ 0 := by decide +kernel
  have hnot : ∀ rest, ¬Succeed (runEach "h" .empty
      ((keptFlags ++ ["--set", "A1=x"]) :: (keptFlags ++ ["--set", "A3=y"]) :: rest)).1 := by
    intro rest hall
    rw [succeed_runEach_cons hfirst, runEach_of_failed hsecond] at hall
    exact hsecond (hall _ (List.mem_singleton_self _))
  have hfailed : ¬Succeed (runEach "h" .empty outsideLines).1 := by
    unfold outsideLines
    exact hnot [keptFlags ++ ["--set", "B1=z"]]
  obtain ⟨htree, hcode, hfails⟩ := run_eq_runEach hprints hline hlines (List.cons_ne_nil _ _)
    (by rw [loadConfig_kept]; exact hfinds) (by rw [loadConfig_kept]; exact hreadable)
  have hcode : (run .empty "h" outsideLine).1.code ≠ 0 := fun hzero => hfailed (hcode.mp hzero)
  obtain ⟨hstdout, before, words, after, heq, hbefore, hsame, hfile⟩ := hfails hcode
  -- the separate run that fails is the second one
  have hone : before = [keptFlags ++ ["--set", "A1=x"]] := by
    unfold outsideLines at heq
    rcases before with _ | ⟨first, _ | ⟨second, before⟩⟩
    · obtain ⟨hwords, -⟩ := List.cons.inj heq
      have hsame : (run .empty "h" outsideLine).1 = (run .empty "h" words).1 := hsame
      rw [hsame, ← hwords] at hcode
      exact absurd hfirst hcode
    · obtain ⟨hone, -⟩ := List.cons.inj heq
      rw [hone]
    · obtain ⟨hone, hrest⟩ := List.cons.inj heq
      obtain ⟨htwo, -⟩ := List.cons.inj hrest
      rw [← hone, ← htwo] at hbefore
      exact absurd hbefore (hnot before)
  have hsaved := hfile keptConfig (loadConfig_kept _)
  rw [hone] at hsaved
  exact ⟨hfinds, hreadable, htree, hcode, hstdout, hsaved⟩

/-! ## Settings in the file of a sheet -/

/-- Settings without entries, in the file of a sheet without cells. -/
def sharedFile : FileTree :=
  .directory [("s", .directory [("gridData-default.json", .file "\n".toUTF8)])]

def sharedFlags : List String :=
  ["--config", "s/gridData-default.json", "--store", "s", "--rows", "2", "--cols", "2"]

def sharedArguments : Arguments :=
  { Arguments.none_ with
    config := some "s/gridData-default.json", store := some "s", rows := some 2, columns := some 2 }

def sharedLines : List (List String) :=
  [sharedFlags ++ ["--set", "A1=x"], sharedFlags ++ ["--set", "A2=y"]]

theorem savesReadable_shared :
    SavesReadable "h" (loadConfig sharedFile "h" sharedArguments) sharedFile sharedLines := by
  have hsettings : (loadConfig sharedFile "h" sharedArguments).toOption = some keptConfig := by decide +kernel
  cases hfound : loadConfig sharedFile "h" sharedArguments with
  | error f => exact fun _ _ _ _ _ hc => nomatch hc
  | ok c =>
    rw [hfound] at hsettings
    obtain rfl := Option.some.inj hsettings
    exact savesReadable_of_take (by decide +kernel)

/-- A run with two changes may succeed where the second of two runs does not: it does not find the settings any more
that the first one has found. -/
theorem not_always_eq_runEach :
    ¬∀ (tree : FileTree) (home : String) (a : Arguments) (line : List String) (lines : List (List String))
        (sets : List (String × String)), a.PrintsTable → a.noSave = false →
      Request.parse line = some (.run { a with sets := sets }) →
      List.Forall₂ (fun words set => Request.parse words = some (.run { a with sets := [set] })) lines sets →
      sets ≠ [] → SavesReadable home (loadConfig tree home a) tree lines →
      ((run tree home line).1.code = 0 ↔ Succeed (runEach home tree lines).1) := by
  intro hall
  have hline : Request.parse (sharedFlags ++ ["--set", "A1=x", "--set", "A2=y"]) =
      some (.run { sharedArguments with sets := [("A1", "x"), ("A2", "y")] }) := by decide +kernel
  have hlines : List.Forall₂
      (fun words set => Request.parse words = some (.run { sharedArguments with sets := [set] }))
      sharedLines [("A1", "x"), ("A2", "y")] :=
    .cons (by decide +kernel) (.cons (by decide +kernel) .nil)
  have hprints : sharedArguments.PrintsTable := ⟨rfl, rfl, rfl⟩
  have hboth := hall sharedFile "h" sharedArguments _ _ _ hprints rfl hline hlines (List.cons_ne_nil _ _)
    savesReadable_shared
  have hone : (run sharedFile "h" (sharedFlags ++ ["--set", "A1=x", "--set", "A2=y"])).1.code = 0 := by
    decide +kernel
  have htwo : ¬Succeed (runEach "h" sharedFile sharedLines).1 := by decide +kernel
  exact htwo (hboth.mp hone)

end Worksheet.CommandLine
