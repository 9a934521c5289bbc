import Worksheet.Proofs.Formula.Unchanged
import Worksheet.Proofs.Script.Tokens

/-!
# Scripts are left as they are

A script holds no anchor and no reference outside its literals, so that making a script of it changes nothing.
A part of plain text becomes text that begins with a character of the same kind, so that what stood apart
still does: the names that stay are alone or in the same pairs as before, and calls hold no names.

* `expandFrom_script` : a call is scanned through;
* `head_scripts`, `takeRangeEnd?_scripts` : what stands after a part when the parts after it are expanded;
* `expandFrom_scripts`, `isInert_expandPlain` : expanded text holds no references;
* `toScript_toScript` : scripts are their own scripts.
-/

namespace Worksheet.Formula

open Text Decimal CellRef

/-! ## Calls -/

theorem expandFrom_unlettered {cs : List Char} (hcs : ∀ c ∈ cs, c.isAlpha = false) {stop : Char}
    (hstop : isWord stop = false) (afterWord : Bool) (rest : List Char) :
    expandFrom 0 afterWord (cs ++ stop :: rest) = cs ++ stop :: expandFrom 0 false rest := by
  induction cs generalizing afterWord with
  | nil =>
    have hgap : ∀ c ∈ [stop], isWord c = false := by simpa using hstop
    exact expandFrom_gap hgap (List.cons_ne_nil _ _) afterWord rest
  | cons c cs ih =>
    obtain ⟨hc, hcs⟩ := List.forall_mem_cons.mp hcs
    have hnone : matchAt? (c :: (cs ++ stop :: rest)) = none := by
      rw [matchAt?, takeName?_of_not_isAlpha hc]
      rfl
    rw [List.cons_append, expandFrom_of_no_candidate hnone, ih hcs, List.cons_append]

theorem expandFrom_number (n : Nat) {stop : Char} (hstop : isWord stop = false) (rest : List Char) :
    expandFrom 0 false (Nat.toDigits 10 n ++ stop :: rest) =
      Nat.toDigits 10 n ++ stop :: expandFrom 0 false rest :=
  expandFrom_unlettered (fun _ hc => isAlpha_of_isDigit (isDigit_of_mem_toDigits hc)) hstop false rest

theorem expandFrom_blank (rest : List Char) : expandFrom 0 false (' ' :: rest) = ' ' :: expandFrom 0 false rest :=
  @expandFrom_unlettered [] (by simp) ' ' (by decide) false rest

/-- A call stays as it is, and a reference may begin after it. -/
theorem expandFrom_script (r : Reference) (rest : List Char) :
    expandFrom 0 false (r.script ++ rest) = r.script ++ expandFrom 0 false rest := by
  have hcomma : isWord ',' = false := by decide
  have hclose : isWord ')' = false := by decide
  cases r with
  | cell r =>
    have hword : ∀ c ∈ "CELL".toList, c.isAlpha = true := List.all_eq_true.mp rfl
    rw [Reference.script_cell, Reference.script_cell, expandFrom_call hword, expandFrom_number _ hcomma,
      expandFrom_blank, expandFrom_number _ hclose]
  | range a b =>
    have hword : ∀ c ∈ "RANGE".toList, c.isAlpha = true := List.all_eq_true.mp rfl
    rw [Reference.script_range, Reference.script_range, expandFrom_call hword, expandFrom_number _ hcomma,
      expandFrom_blank, expandFrom_number _ hcomma, expandFrom_blank, expandFrom_number _ hcomma,
      expandFrom_blank, expandFrom_number _ hclose]

theorem Reference.head_script (r : Reference) (rest : List Char) :
    ∀ c ∈ (r.script ++ rest).head?, isWord c = true := by
  intro c hc
  have halphanum : (!c.isAlphanum) = false := r.stops_script rest c hc
  exact isWord_of_alphanum (by simpa using halphanum)

/-! ## What a part becomes -/

theorem Part.script_ofRun_cases (run : List Char) :
    (ofRun run).script = run ∨ isNameShaped run = true ∧ ∃ r : Reference, (ofRun run).script = r.script := by
  unfold ofRun
  split
  · rename_i hshaped
    unfold ofName
    split
    · rename_i r _
      exact .inr ⟨hshaped, .cell r, rfl⟩
    · exact .inl rfl
  · exact .inl rfl

theorem Part.script_ofPair_cases (first colon second : List Char) :
    (ofPair first colon second).script = first ++ colon ++ second ∨
      ∃ r : Reference, (ofPair first colon second).script = r.script := by
  unfold ofPair
  split
  · rename_i a b _ _
    exact .inr ⟨.range a b, rfl⟩
  · exact .inl rfl

/-! ## What stands after a part -/

theorem head_append_of_forall {word : Bool} {run : List Char} (hne : run ≠ []) (hrun : ∀ c ∈ run, isWord c = word)
    (rest : List Char) : ∀ c ∈ (run ++ rest).head?, isWord c = word := by
  obtain ⟨c, cs, rfl⟩ := List.exists_cons_of_ne_nil hne
  intro d hd
  obtain rfl : c = d := by simpa using hd
  exact hrun c List.mem_cons_self

theorem head_scripts {word : Bool} {rs : List (List Char)} (h : AreRuns word rs) :
    ∀ c ∈ ((parts rs).flatMap Part.script).head?, isWord c = word := by
  have hrun : ∀ run rest after, AreRuns word (run :: rest) →
      ∀ c ∈ ((Part.ofRun run).script ++ after).head?, isWord c = word := by
    intro run rest after h
    obtain ⟨hne, hword, -⟩ := areRuns_cons_iff.mp h
    obtain hscript | ⟨hshaped, r, hscript⟩ := Part.script_ofRun_cases run
    · rw [hscript]
      exact head_append_of_forall hne hword after
    · obtain rfl := word_of_isNameShaped h hshaped
      rw [hscript]
      exact r.head_script after
  fun_cases parts rs with
  | case1 first colon second rest hpair =>
    simp only [Bool.and_eq_true] at hpair
    obtain rfl := word_of_isNameShaped h hpair.1.1
    obtain ⟨hne, hword, -⟩ := areRuns_cons_iff.mp h
    rw [List.flatMap_cons]
    obtain hscript | ⟨r, hscript⟩ := Part.script_ofPair_cases first colon second
    · rw [hscript, List.append_assoc, List.append_assoc]
      exact head_append_of_forall hne hword _
    · rw [hscript]
      exact r.head_script _
  | case2 run colon second rest _ => exact hrun run _ _ h
  | case3 run rest _ => exact hrun run _ _ h
  | case4 => simp

/-- No second name follows a run when the runs after it are expanded, unless one followed it before. -/
theorem takeRangeEnd?_scripts {rs : List (List Char)} (h : AreRuns false rs)
    (hpair : ∀ colon second rest, rs = colon :: second :: rest → (isColon colon && isNameShaped second) = false) :
    takeRangeEnd? ((parts rs).flatMap Part.script) = none := by
  cases rs with
  | nil => rfl
  | cons gap rest =>
    obtain ⟨hne, hgap, hrest⟩ := areRuns_cons_iff.mp h
    have hhead : ∀ c ∈ ((parts rest).flatMap Part.script).head?, isWord c = true := head_scripts hrest
    rw [parts_cons_of_not_isNameShaped (not_isNameShaped_of_not_isWord hne hgap), List.flatMap_cons, Part.script,
      takeRangeEnd?_gap hgap hhead]
    split
    · rename_i hcolon
      cases rest with
      | nil => rfl
      | cons second rest =>
        have hshaped : isNameShaped second = false := by
          have := hpair gap second rest rfl
          rwa [hcolon, Bool.true_and] at this
        obtain ⟨-, hword, hafter⟩ := areRuns_cons_iff.mp hrest
        rw [parts_cons_of_not_isNameShaped hshaped, List.flatMap_cons, Part.script,
          takeWord?_run hword (head_scripts hafter), if_neg (by simp [hshaped])]
    · rfl

/-! ## Expanded text -/

/-- A run that has been expanded is left as it is if what stands after it is. -/
theorem expandFrom_scriptOfRun {word : Bool} {run after : List Char} (hne : run ≠ [])
    (hrun : ∀ c ∈ run, isWord c = word) (hhead : ∀ c ∈ after.head?, isWord c = !word)
    (hcolon : isNameShaped run = true → takeRangeEnd? after = none)
    (hafter : ∀ afterWord, ((!word) = true → afterWord = false) → expandFrom 0 afterWord after = after)
    {afterWord : Bool} (hbefore : word = true → afterWord = false) :
    expandFrom 0 afterWord ((Part.ofRun run).script ++ after) = (Part.ofRun run).script ++ after := by
  obtain hscript | ⟨hshaped, r, hscript⟩ := Part.script_ofRun_cases run
  · have hscan := expandFrom_run hne hrun hhead hbefore hcolon
    rw [hscript, hafter word (by simp)] at hscan
    rw [hscript, hscan]
  · have hword : word = true := by
      obtain ⟨c, cs, rfl⟩ := List.exists_cons_of_ne_nil hne
      rw [← hrun c List.mem_cons_self]
      exact isWord_of_isNameShaped hshaped c List.mem_cons_self
    rw [hbefore hword, hscript, expandFrom_script, hafter false fun _ => rfl]

/-- The scanner finds no reference in expanded text. -/
theorem expandFrom_scripts {word : Bool} {rs : List (List Char)} (h : AreRuns word rs) {afterWord : Bool}
    (hbefore : word = true → afterWord = false) :
    expandFrom 0 afterWord ((parts rs).flatMap Part.script) = (parts rs).flatMap Part.script := by
  -- The cases are those of `parts`, as in `expandFrom_flatten`; a part is told apart by how the expanded rest begins.
  fun_induction parts rs generalizing word afterWord with
  | case1 first colon second rest hpair ih =>
    simp only [Bool.and_eq_true] at hpair
    obtain ⟨⟨hfirst, hcolon⟩, hsecond⟩ := hpair
    obtain rfl := word_of_isNameShaped h hfirst
    obtain ⟨-, -, hafterFirst⟩ := areRuns_cons_iff.mp h
    obtain ⟨hneColon, hgap, hafterColon⟩ := areRuns_cons_iff.mp hafterFirst
    obtain ⟨-, -, hrest⟩ := areRuns_cons_iff.mp hafterColon
    rw [hbefore rfl, List.flatMap_cons]
    obtain hscript | ⟨r, hscript⟩ := Part.script_ofPair_cases first colon second
    · have hscan := expandFrom_pair hfirst hgap hneColon hcolon hsecond (head_scripts hrest)
      rw [ih hrest (by decide), hscript] at hscan
      rw [hscript, List.append_assoc, List.append_assoc, hscan]
      simp
    · rw [hscript, expandFrom_script, ih hrest (by decide)]
  | case2 run colon second rest hpair ih =>
    obtain ⟨hne, hrun, hrest⟩ := areRuns_cons_iff.mp h
    rw [List.flatMap_cons]
    refine expandFrom_scriptOfRun hne hrun (head_scripts hrest) (fun hshaped => ?_) (fun _ => ih hrest) hbefore
    rw [word_of_isNameShaped h hshaped] at hrest
    rw [hshaped, Bool.true_and, Bool.not_eq_true] at hpair
    refine takeRangeEnd?_scripts hrest fun colon second rest heq => ?_
    cases heq
    exact hpair
  | case3 run rest hshort ih =>
    obtain ⟨hne, hrun, hrest⟩ := areRuns_cons_iff.mp h
    rw [List.flatMap_cons]
    refine expandFrom_scriptOfRun hne hrun (head_scripts hrest) (fun hshaped => ?_) (fun _ => ih hrest) hbefore
    rw [word_of_isNameShaped h hshaped] at hrest
    exact takeRangeEnd?_scripts hrest fun colon second rest heq => (hshort colon second rest heq).elim
  | case4 => rfl

/-- Plain text is without anchors and references once it is expanded. -/
theorem isInert_expandPlain (p : List Char) : IsInert (expandPlain p) := by
  rw [← expandPlain_eq_self_iff]
  have hscan : expandFrom 0 false (expandPlain p) = expandPlain p := by
    rw [expandPlain_eq]
    exact expandFrom_scripts (areRuns_runs _) fun _ => rfl
  rw [expandPlain, filter_anchor (anchor_notMem_expandPlain p), hscan]

/-! ## Scripts -/

theorem isUntouched_toScript (s : String) : IsUntouched (toScript s).toList := by
  intro p hp
  rw [pieces_toScript, List.mem_map] at hp
  obtain ⟨piece, -, hpiece⟩ := hp
  cases piece with
  | plain q =>
    rw [← Piece.plain.inj hpiece]
    exact isInert_expandPlain q
  | literal l => cases hpiece

/-- The plain text of a script holds no anchor and no reference, so that a script is its own script. -/
theorem toScript_toScript (s : String) :
    toScript (toScript s) = toScript s ∧ IsUntouched (toScript s).toList :=
  ⟨(toScript_eq_self_iff _).mpr (isUntouched_toScript s), isUntouched_toScript s⟩

/-- The pair stays, as no cell is named `A0`, and the name after it is not taken into another pair. -/
example : toScript "\"B1\" + A1:A0:$B1" = "\"B1\" + A1:A0:CELL(1, 0)" := by decide

end Worksheet.Formula
