import Mathlib.Data.List.SplitBy
import Mathlib.Data.List.TakeWhile
import Worksheet.Proofs.Formula.Expansion

/-!
# References stand at whole words

The references in plain text are found by looking at its words only: the text falls into maximal runs of
word characters and of others, and a run is read as a name if it is letters followed by digits.

* `runs`, `AreRuns` : the runs of a text, and what makes a list of texts one of runs;
* `isNameShaped`, `isColon` : the runs that a reference is made of;
* `Part`, `parts` : plain text as references and what stands between them;
* `takeName?_some`, `takeWord?_run`, `takeRangeEnd?_gap`, `matchAt?_run` : candidates begin and end with runs;
* `expandFrom_flatten`, `expandPlain_eq`, `toScript_unquoted` : what the scanner finds are the parts;
* `expandRuns_word` : the words that are no names stay.
-/

namespace Worksheet.Formula

open Text Decimal CellRef

/-! ## Word characters and white space -/

theorem wordRanges_apart :
    wordRanges.toList.all (fun r => whiteSpaceRanges.all fun s => r.2 < s.1 || s.2 < r.1) = true := by
  simp only [wordRanges, Array.toList_append]
  decide +kernel

theorem isWord_of_isWhiteSpace {c : Char} (h : isWhiteSpace c = true) : isWord c = false := by
  obtain ⟨s, hs, hc⟩ := List.any_eq_true.mp h
  have hspace : s.1 ≤ c.toNat ∧ c.toNat ≤ s.2 := by simpa using hc
  rw [isWord]
  split
  · rw [Bool.or_eq_false_iff, decide_eq_false_iff_not]
    constructor
    · rw [← Bool.not_eq_true]
      intro halphanum
      rw [isWhiteSpace_of_isAlphanum halphanum] at h
      exact absurd h (by decide)
    · rintro rfl
      exact absurd h (by decide)
  · rw [← Array.any_toList, ← Bool.not_eq_true]
    intro hword
    obtain ⟨r, hr, hcr⟩ := List.any_eq_true.mp hword
    have hrange : r.1 ≤ c.toNat ∧ c.toNat ≤ r.2 := by simpa using hcr
    have hapart := List.all_eq_true.mp (List.all_eq_true.mp wordRanges_apart r hr) s hs
    have hapart : r.2 < s.1 ∨ s.2 < r.1 := by simpa using hapart
    omega

theorem isWhiteSpace_of_isWord {c : Char} (h : isWord c = true) : isWhiteSpace c = false := by
  rw [← Bool.not_eq_true]
  intro hspace
  rw [isWord_of_isWhiteSpace hspace] at h
  exact absurd h (by decide)

theorem isAlpha_of_not_isWord {c : Char} (h : isWord c = false) : c.isAlpha = false := by
  rw [← Bool.not_eq_true]
  intro hc
  rw [isWord_of_alphanum (isAlphanum_of_isAlpha hc)] at h
  exact absurd h (by decide)

theorem stops_isAlpha {rest : List Char} (h : Stops isWord rest) : Stops Char.isAlpha rest :=
  fun c hc => isAlpha_of_not_isWord (h c hc)

/-! ## Runs -/

def sameKind (c d : Char) : Bool :=
  isWord c == isWord d

/-- The longest pieces of a text that are of word characters only or of other characters only, in
order. -/
def runs (cs : List Char) : List (List Char) :=
  cs.splitBy sameKind

theorem flatten_runs (cs : List Char) : (runs cs).flatten = cs :=
  List.flatten_splitBy _ cs

/-- Texts that are of word characters and of other characters in turn; `word` says which kind the first
one is of. -/
inductive AreRuns : Bool → List (List Char) → Prop
  | nil (word : Bool) : AreRuns word []
  | cons {word : Bool} {run : List Char} {rest : List (List Char)} (hne : run ≠ [])
      (hrun : ∀ c ∈ run, isWord c = word) (hrest : AreRuns (!word) rest) : AreRuns word (run :: rest)

theorem isWord_eq_head {c : Char} {cs : List Char}
    (h : (c :: cs).IsChain fun x y => sameKind x y = true) : ∀ d ∈ c :: cs, isWord d = isWord c := by
  induction cs generalizing c with
  | nil =>
    intro d hd
    rw [List.mem_singleton.mp hd]
  | cons e cs ih =>
    rw [List.isChain_cons_cons] at h
    have hce : isWord c = isWord e := by simpa [sameKind] using h.1
    intro d hd
    obtain rfl | hd := List.mem_cons.mp hd
    · rfl
    · rw [ih h.2 d hd, hce]

theorem areRuns_of_isChain {rs : List (List Char)} (hne : [] ∉ rs)
    (hrun : ∀ r ∈ rs, r.IsChain fun x y => sameKind x y = true)
    (hjoint : rs.IsChain fun a b => ∃ ha hb, sameKind (a.getLast ha) (b.head hb) = false)
    {word : Bool} (hword : ∀ c ∈ rs.flatten.head?, isWord c = word) : AreRuns word rs := by
  induction rs generalizing word with
  | nil => exact .nil word
  | cons r rs ih =>
    obtain ⟨hr, hrs⟩ : [] ≠ r ∧ [] ∉ rs := by simpa using hne
    obtain ⟨c, cs, rfl⟩ := List.exists_cons_of_ne_nil (Ne.symm hr)
    have hc : isWord c = word := hword c (by simp)
    have hall := isWord_eq_head (hrun _ List.mem_cons_self)
    refine .cons (List.cons_ne_nil _ _) (fun d hd => (hall d hd).trans hc)
      (ih hrs (fun r hr => hrun r (List.mem_cons_of_mem _ hr)) hjoint.tail ?_)
    intro d hd
    cases rs with
    | nil => simp at hd
    | cons s rs =>
      obtain ⟨⟨hlast, hs, hdiffer⟩, -⟩ := List.isChain_cons_cons.mp hjoint
      have hhead : s.head hs = d := by
        obtain ⟨e, es, rfl⟩ := List.exists_cons_of_ne_nil hs
        simpa using hd
      have hlast := hall _ (List.getLast_mem hlast)
      rw [sameKind, hhead, hlast, hc] at hdiffer
      cases word <;> simpa using hdiffer

theorem areRuns_runs (cs : List Char) : AreRuns (!atWordEnd cs) (runs cs) := by
  refine areRuns_of_isChain (List.nil_notMem_splitBy _ _) (fun _ => List.isChain_of_mem_splitBy)
    (List.isChain_getLast_head_splitBy _ _) ?_
  rw [← runs, flatten_runs]
  cases cs <;> simp [atWordEnd]

theorem areRuns_cons_iff {word : Bool} {run : List Char} {rest : List (List Char)} :
    AreRuns word (run :: rest) ↔ run ≠ [] ∧ (∀ c ∈ run, isWord c = word) ∧ AreRuns (!word) rest := by
  constructor
  · intro h
    cases h with
    | cons hne hrun hrest => exact ⟨hne, hrun, hrest⟩
  · rintro ⟨hne, hrun, hrest⟩
    exact .cons hne hrun hrest

theorem AreRuns.head {word : Bool} {rs : List (List Char)} (h : AreRuns word rs) :
    ∀ c ∈ rs.flatten.head?, isWord c = word := by
  cases h with
  | nil => simp
  | @cons _ run rest hne hrun hrest =>
    obtain ⟨c, cs, rfl⟩ := List.exists_cons_of_ne_nil hne
    intro d hd
    obtain rfl : c = d := by simpa using hd
    exact hrun c List.mem_cons_self

/-! ## Names and colons -/

/-- Whether a run is letters followed by digits, at least one of each and nothing else. -/
def isNameShaped (run : List Char) : Bool :=
  !(run.takeWhile Char.isAlpha).isEmpty && !(run.dropWhile Char.isAlpha).isEmpty &&
    (run.dropWhile Char.isAlpha).all Char.isDigit

def isColon (run : List Char) : Bool :=
  match run.dropWhile isWhiteSpace with
  | ':' :: cs => cs.all isWhiteSpace
  | _ => false

theorem isNameShaped_iff (run : List Char) :
    isNameShaped run = true ↔ ∃ letters digits, run = letters ++ digits ∧ letters ≠ [] ∧ digits ≠ [] ∧
      (∀ c ∈ letters, c.isAlpha = true) ∧ ∀ c ∈ digits, c.isDigit = true := by
  constructor
  · intro h
    simp only [isNameShaped, Bool.and_eq_true, Bool.not_eq_true', List.isEmpty_eq_false_iff] at h
    refine ⟨_, _, List.takeWhile_append_dropWhile.symm, h.1.1, h.1.2, ?_, List.all_eq_true.mp h.2⟩
    exact List.all_eq_true.mp List.all_takeWhile
  · rintro ⟨letters, digits, rfl, hletters, hdigits, halpha, hdigit⟩
    have hstop : Stops Char.isAlpha digits := fun c hc => isAlpha_of_isDigit (hdigit c (List.mem_of_mem_head? hc))
    simp [isNameShaped, takeWhile_run halpha hstop, dropWhile_run halpha hstop, hletters, hdigits]
    exact hdigit

theorem isColon_iff (run : List Char) :
    isColon run = true ↔ ∃ before after, run = before ++ ':' :: after ∧
      (∀ c ∈ before, isWhiteSpace c = true) ∧ ∀ c ∈ after, isWhiteSpace c = true := by
  constructor
  · intro h
    unfold isColon at h
    split at h
    · rename_i cs hcs
      refine ⟨run.takeWhile isWhiteSpace, cs, ?_, List.all_eq_true.mp List.all_takeWhile, List.all_eq_true.mp h⟩
      rw [← hcs, List.takeWhile_append_dropWhile]
    · exact absurd h (by decide)
  · rintro ⟨before, after, rfl, hbefore, hafter⟩
    rw [isColon, dropWhile_run hbefore (Stops.cons (by decide) _)]
    exact List.all_eq_true.mpr hafter

theorem isAlphanum_of_isNameShaped {run : List Char} (h : isNameShaped run = true) :
    ∀ c ∈ run, c.isAlphanum = true := by
  obtain ⟨letters, digits, rfl, -, -, halpha, hdigit⟩ := (isNameShaped_iff run).mp h
  intro c hc
  obtain hc | hc := List.mem_append.mp hc
  · exact isAlphanum_of_isAlpha (halpha c hc)
  · exact isAlphanum_of_isDigit (hdigit c hc)

theorem isWord_of_isNameShaped {run : List Char} (h : isNameShaped run = true) : ∀ c ∈ run, isWord c = true :=
  fun c hc => isWord_of_alphanum (isAlphanum_of_isNameShaped h c hc)

theorem ne_nil_of_isNameShaped {run : List Char} (h : isNameShaped run = true) : run ≠ [] := by
  rintro rfl
  exact absurd h (by decide)

theorem not_isNameShaped_of_not_isWord {run : List Char} (hne : run ≠ []) (hrun : ∀ c ∈ run, isWord c = false) :
    isNameShaped run = false := by
  obtain ⟨c, cs, rfl⟩ := List.exists_cons_of_ne_nil hne
  rw [← Bool.not_eq_true]
  intro hshaped
  have hc := isWord_of_isNameShaped hshaped c List.mem_cons_self
  rw [hrun c List.mem_cons_self] at hc
  cases hc

theorem word_of_isNameShaped {word : Bool} {run : List Char} {rest : List (List Char)}
    (h : AreRuns word (run :: rest)) (hshaped : isNameShaped run = true) : word = true := by
  obtain ⟨hne, hrun, -⟩ := areRuns_cons_iff.mp h
  obtain ⟨c, cs, rfl⟩ := List.exists_cons_of_ne_nil hne
  rw [← hrun c List.mem_cons_self]
  exact isWord_of_isNameShaped hshaped c List.mem_cons_self

theorem ofName?_of_isNameShaped {run : List Char} (h : isNameShaped run = true) :
    ofName? (String.ofList run) = ofChars? run := by
  rw [ofName?, String.toList_ofList, trimChars_of_isAlphanum (isAlphanum_of_isNameShaped h)]

/-! ## Parts -/

/-- A part of plain text: text that stays as it is, or a reference as it is written. -/
inductive Part
  | text (cs : List Char)
  | reference (r : Reference) (written : List Char)
  deriving DecidableEq, Repr

namespace Part

def written : Part → List Char
  | .text cs => cs
  | .reference _ cs => cs

def script : Part → List Char
  | .text cs => cs
  | .reference r _ => r.script

def ofName (name : List Char) : Part :=
  match CellRef.ofName? (String.ofList name) with
  | some r => .reference (.cell r) name
  | none => .text name

def ofPair (first colon second : List Char) : Part :=
  match CellRef.ofName? (String.ofList first), CellRef.ofName? (String.ofList second) with
  | some a, some b => .reference (.range a b) (first ++ colon ++ second)
  | _, _ => .text (first ++ colon ++ second)

/-- The part that a run not paired with another one is. -/
def ofRun (run : List Char) : Part :=
  if isNameShaped run then ofName run else .text run

@[simp] theorem written_ofName (name : List Char) : (ofName name).written = name := by
  unfold ofName
  split <;> rfl

@[simp] theorem written_ofPair (first colon second : List Char) :
    (ofPair first colon second).written = first ++ colon ++ second := by
  unfold ofPair
  split <;> rfl

@[simp] theorem written_ofRun (run : List Char) : (ofRun run).written = run := by
  unfold ofRun
  split
  · exact written_ofName run
  · rfl

end Part

/-- The parts that runs make up, from left to right: a run shaped like a name goes together with a colon
and another such run after it. -/
def parts : List (List Char) → List Part
  | run :: colon :: second :: rest =>
    if isNameShaped run && isColon colon && isNameShaped second then
      .ofPair run colon second :: parts rest
    else .ofRun run :: parts (colon :: second :: rest)
  | run :: rest => .ofRun run :: parts rest
  | [] => []

theorem flatMap_written_parts (rs : List (List Char)) : (parts rs).flatMap Part.written = rs.flatten := by
  fun_induction parts rs with
  | case1 run colon second rest h ih => simp [ih]
  | case2 run colon second rest h ih => simp [ih]
  | case3 run rest h ih => simp [ih]
  | case4 => rfl

/-! ## Candidates begin and end with runs -/

theorem stops_isWord_of_areRuns {rs : List (List Char)} (h : AreRuns false rs) : Stops isWord rs.flatten :=
  h.head

theorem takeName?_eq (cs : List Char) :
    takeName? cs =
      if (cs.takeWhile Char.isAlpha).isEmpty || ((cs.dropWhile Char.isAlpha).takeWhile Char.isDigit).isEmpty then none
      else some (cs.takeWhile Char.isAlpha ++ (cs.dropWhile Char.isAlpha).takeWhile Char.isDigit,
        (cs.dropWhile Char.isAlpha).dropWhile Char.isDigit) := rfl

theorem takeName?_append (cs : List Char) {rest : List Char} (h : Stops isWord rest) :
    takeName? (cs ++ rest) = (takeName? cs).map fun p => (p.1, p.2 ++ rest) := by
  rw [takeName?_eq, takeName?_eq, (stops_isAlpha h).takeWhile_append, (stops_isAlpha h).dropWhile_append,
    (stops_isDigit h).takeWhile_append, (stops_isDigit h).dropWhile_append]
  split <;> rfl

theorem takeName?_of_isNameShaped {run : List Char} (h : isNameShaped run = true) :
    takeName? run = some (run, []) := by
  obtain ⟨letters, digits, rfl, hletters, hdigits, halpha, hdigit⟩ := (isNameShaped_iff run).mp h
  have hstop : Stops Char.isAlpha digits := fun c hc => isAlpha_of_isDigit (hdigit c (List.mem_of_mem_head? hc))
  have htake := takeDigits_run hdigit (Stops.nil _)
  rw [List.append_nil] at htake
  rw [takeName?, takeWhile_run halpha hstop, dropWhile_run halpha hstop, htake]
  simp [hletters, hdigits]

theorem takeName?_some {cs name rest : List Char} (h : takeName? cs = some (name, rest)) :
    isNameShaped name = true ∧ cs = name ++ rest := by
  rw [takeName?_eq] at h
  simp only [Bool.or_eq_true, List.isEmpty_iff] at h
  split at h
  · cases h
  · rename_i hne
    obtain ⟨hletters, hdigits⟩ := not_or.mp hne
    obtain ⟨rfl, rfl⟩ := Prod.mk.inj (Option.some.inj h)
    refine ⟨(isNameShaped_iff _).mpr ⟨_, _, rfl, hletters, hdigits, List.all_eq_true.mp List.all_takeWhile,
      List.all_eq_true.mp List.all_takeWhile⟩, ?_⟩
    rw [List.append_assoc, List.takeWhile_append_dropWhile, List.takeWhile_append_dropWhile]

theorem exists_rest_of_takeName? {run name rest : List Char} (h : isNameShaped run = false)
    (hname : takeName? run = some (name, rest)) : ∃ c cs, rest = c :: cs ∧ c ∈ run := by
  obtain ⟨hshaped, rfl⟩ := takeName?_some hname
  cases rest with
  | nil =>
    rw [List.append_nil, hshaped] at h
    cases h
  | cons c cs => exact ⟨c, cs, rfl, by simp⟩

theorem takeRangeEnd?_some {cs name rest : List Char} (h : takeRangeEnd? cs = some (name, rest)) :
    isNameShaped name = true ∧ ∃ gap, cs = gap ++ name ++ rest := by
  rw [takeRangeEnd?] at h
  split at h
  · rename_i ds hdrop
    simp only [Option.bind_eq_bind, Option.bind_eq_some_iff] at h
    obtain ⟨⟨second, after⟩, hname, hend⟩ := h
    split at hend
    · cases hend
      obtain ⟨hshaped, hds⟩ := takeName?_some hname
      refine ⟨hshaped, cs.takeWhile isWhiteSpace ++ ':' :: ds.takeWhile isWhiteSpace, ?_⟩
      rw [List.append_assoc, List.append_assoc, List.cons_append, ← hds, List.takeWhile_append_dropWhile, ← hdrop,
        List.takeWhile_append_dropWhile]
    · cases hend
  · cases h

theorem matchAt?_some {cs : List Char} {m : Candidate} (h : matchAt? cs = some m) :
    ∃ written, written ≠ [] ∧ cs = written ++ m.rest ∧ isNameShaped m.first = true ∧
      ∀ second ∈ m.second, isNameShaped second = true := by
  rw [matchAt?] at h
  simp only [Option.bind_eq_bind, Option.bind_eq_some_iff] at h
  obtain ⟨⟨first, rest⟩, hfirst, h⟩ := h
  obtain ⟨hshaped, rfl⟩ := takeName?_some hfirst
  have hne := ne_nil_of_isNameShaped hshaped
  cases hsecond : takeRangeEnd? rest with
  | some p =>
    obtain ⟨second, after⟩ := p
    obtain ⟨hshaped', gap, rfl⟩ := takeRangeEnd?_some hsecond
    rw [hsecond] at h
    cases h
    exact ⟨first ++ (gap ++ second), by simp [hne], by simp, hshaped, by simpa using hshaped'⟩
  | none =>
    simp only [hsecond] at h
    split at h
    · cases h
      exact ⟨first, hne, rfl, hshaped, by simp⟩
    · cases h

def takeWord? (cs : List Char) : Option (List Char × List Char) := do
  let (name, rest) ← takeName? cs
  if atWordEnd rest then some (name, rest) else none

theorem takeWord?_run {run rest : List Char} (hrun : ∀ c ∈ run, isWord c = true) (hrest : Stops isWord rest) :
    takeWord? (run ++ rest) = if isNameShaped run then some (run, rest) else none := by
  rw [takeWord?, takeName?_append run hrest]
  by_cases hshaped : isNameShaped run = true
  · rw [takeName?_of_isNameShaped hshaped, if_pos hshaped]
    simp [atWordEnd_of_stops hrest]
  · rw [if_neg hshaped]
    cases hname : takeName? run with
    | none => rfl
    | some p =>
      obtain ⟨name, after⟩ := p
      obtain ⟨c, cs, rfl, hc⟩ := exists_rest_of_takeName? (Bool.not_eq_true _ ▸ hshaped) hname
      simp [atWordEnd, hrun c hc]

theorem takeName?_of_not_isAlpha {c : Char} (h : c.isAlpha = false) (cs : List Char) :
    takeName? (c :: cs) = none := by
  rw [takeName?]
  simp [h]

theorem takeRangeEnd?_gap {gap after : List Char} (hgap : ∀ c ∈ gap, isWord c = false)
    (hafter : ∀ c ∈ after.head?, isWord c = true) :
    takeRangeEnd? (gap ++ after) = if isColon gap then takeWord? after else none := by
  have hspace : Stops isWhiteSpace after := fun c hc => isWhiteSpace_of_isWord (hafter c hc)
  rw [takeRangeEnd?, isColon, hspace.dropWhile_append]
  cases hdrop : gap.dropWhile isWhiteSpace with
  | nil =>
    cases after with
    | nil => rfl
    | cons c cs =>
      have hc : c ≠ ':' := by
        rintro rfl
        exact absurd (hafter ':' rfl) (by decide)
      simp [hc]
  | cons c cs =>
    by_cases hc : c = ':'
    · subst hc
      have hcs : ∀ d ∈ cs, isWord d = false := fun d hd =>
        hgap d ((List.dropWhile_sublist _).subset (hdrop ▸ List.mem_cons_of_mem _ hd))
      simp only [List.cons_append, hspace.dropWhile_append]
      by_cases hall : cs.all isWhiteSpace = true
      · rw [if_pos hall, List.dropWhile_eq_nil_iff.mpr (List.all_eq_true.mp hall), List.nil_append]
        rfl
      · rw [if_neg hall]
        obtain ⟨d, ds, hds⟩ := List.exists_cons_of_ne_nil fun hnil =>
          hall (List.all_eq_true.mpr (List.dropWhile_eq_nil_iff.mp hnil))
        have hd : isWord d = false := hcs d ((List.dropWhile_sublist _).subset (hds ▸ List.mem_cons_self))
        rw [hds, List.cons_append, takeName?_of_not_isAlpha (isAlpha_of_not_isWord hd)]
        rfl
    · simp [hc]

theorem takeRangeEnd?_of_isWord {c : Char} (h : isWord c = true) (cs : List Char) : takeRangeEnd? (c :: cs) = none := by
  have hgap : takeRangeEnd? ([] ++ c :: cs) = none := takeRangeEnd?_gap (by simp) (by simpa using h)
  rwa [List.nil_append] at hgap

theorem matchAt?_run {run rest : List Char} (hrun : ∀ c ∈ run, isWord c = true) (hrest : Stops isWord rest)
    (hcolon : isNameShaped run = true → takeRangeEnd? rest = none) :
    matchAt? (run ++ rest) = if isNameShaped run then some ⟨run, none, rest⟩ else none := by
  rw [matchAt?, takeName?_append run hrest]
  by_cases hshaped : isNameShaped run = true
  · rw [takeName?_of_isNameShaped hshaped, if_pos hshaped]
    simp [hcolon hshaped, atWordEnd_of_stops hrest]
  · rw [if_neg hshaped]
    cases hname : takeName? run with
    | none => rfl
    | some p =>
      obtain ⟨name, after⟩ := p
      obtain ⟨c, cs, rfl, hc⟩ := exists_rest_of_takeName? (Bool.not_eq_true _ ▸ hshaped) hname
      simp [takeRangeEnd?_of_isWord (hrun c hc), atWordEnd, hrun c hc]

/-! ## The scanner finds the parts -/

theorem expandFrom_gap {gap : List Char} (hgap : ∀ c ∈ gap, isWord c = false) (hne : gap ≠ []) (afterWord : Bool)
    (rest : List Char) : expandFrom 0 afterWord (gap ++ rest) = gap ++ expandFrom 0 false rest := by
  induction gap generalizing afterWord with
  | nil => exact absurd rfl hne
  | cons c gap ih =>
    have hc : isWord c = false := hgap c List.mem_cons_self
    have hnone : matchAt? (c :: (gap ++ rest)) = none := by
      rw [matchAt?, takeName?_of_not_isAlpha (isAlpha_of_not_isWord hc)]
      rfl
    rw [List.cons_append, expandFrom_of_no_candidate hnone, hc, List.cons_append]
    by_cases hgapNil : gap = []
    · subst hgapNil
      rfl
    · rw [ih (fun d hd => hgap d (List.mem_cons_of_mem _ hd)) hgapNil]

theorem script_ofName {name : List Char} (h : isNameShaped name = true) (rest : List Char) :
    (Part.ofName name).script = (Candidate.reference? ⟨name, none, rest⟩).elim name Reference.script := by
  rw [Part.ofName, Candidate.reference?, ofName?_of_isNameShaped h]
  cases ofChars? name <;> rfl

theorem script_ofPair {first second : List Char} (h₁ : isNameShaped first = true)
    (h₂ : isNameShaped second = true) (colon rest : List Char) :
    (Part.ofPair first colon second).script =
      (Candidate.reference? ⟨first, some second, rest⟩).elim (first ++ colon ++ second) Reference.script := by
  simp only [Part.ofPair, Candidate.reference?, ofName?_of_isNameShaped h₁, ofName?_of_isNameShaped h₂]
  cases ofChars? first with
  | none => rfl
  | some a => cases ofChars? second <;> rfl

theorem expandFrom_run {word : Bool} {run rest : List Char} (hne : run ≠ []) (hrun : ∀ c ∈ run, isWord c = word)
    (hrest : ∀ c ∈ rest.head?, isWord c = !word) {afterWord : Bool} (hafter : word = true → afterWord = false)
    (hcolon : isNameShaped run = true → takeRangeEnd? rest = none) :
    expandFrom 0 afterWord (run ++ rest) = (Part.ofRun run).script ++ expandFrom 0 word rest := by
  cases word with
  | false =>
    have hshaped := not_isNameShaped_of_not_isWord hne hrun
    rw [expandFrom_gap hrun hne, Part.ofRun, if_neg (by simp [hshaped])]
    rfl
  | true =>
    have hmatch := matchAt?_run hrun hrest hcolon
    rw [hafter rfl]
    by_cases hshaped : isNameShaped run = true
    · rw [if_pos hshaped] at hmatch
      rw [expandFrom_match hne hmatch rfl, Part.ofRun, if_pos hshaped, script_ofName hshaped rest]
    · rw [if_neg hshaped] at hmatch
      rw [Part.ofRun, if_neg hshaped]
      obtain ⟨c, cs, rfl⟩ := List.exists_cons_of_ne_nil hne
      rw [List.cons_append] at hmatch ⊢
      rw [expandFrom_of_no_candidate hmatch, hrun c List.mem_cons_self,
        expandFrom_restOfWord fun d hd => hrun d (List.mem_cons_of_mem _ hd)]
      rfl

theorem expandFrom_pair {first colon second rest : List Char} (h₁ : isNameShaped first = true)
    (hgap : ∀ c ∈ colon, isWord c = false) (hne : colon ≠ []) (hcolon : isColon colon = true)
    (h₂ : isNameShaped second = true) (hrest : Stops isWord rest) :
    expandFrom 0 false (first ++ (colon ++ (second ++ rest))) =
      (Part.ofPair first colon second).script ++ expandFrom 0 true rest := by
  have hhead : ∀ c ∈ (second ++ rest).head?, isWord c = true := by
    obtain ⟨c, cs, rfl⟩ := List.exists_cons_of_ne_nil (ne_nil_of_isNameShaped h₂)
    intro d hd
    obtain rfl : c = d := by simpa using hd
    exact isWord_of_isNameShaped h₂ c List.mem_cons_self
  have hstop : Stops isWord (colon ++ (second ++ rest)) := by
    obtain ⟨c, cs, rfl⟩ := List.exists_cons_of_ne_nil hne
    exact Stops.cons (hgap c List.mem_cons_self) _
  have hend : takeRangeEnd? (colon ++ (second ++ rest)) = some (second, rest) := by
    rw [takeRangeEnd?_gap hgap hhead, if_pos hcolon, takeWord?_run (isWord_of_isNameShaped h₂) hrest, if_pos h₂]
  have hmatch : matchAt? (first ++ (colon ++ (second ++ rest))) = some ⟨first, some second, rest⟩ := by
    rw [matchAt?, takeName?_append first hstop, takeName?_of_isNameShaped h₁]
    simp [hend]
  have hassoc : first ++ (colon ++ (second ++ rest)) = (first ++ colon ++ second) ++ rest := by simp
  rw [hassoc] at hmatch ⊢
  rw [expandFrom_match (by simp [ne_nil_of_isNameShaped h₁]) hmatch rfl, script_ofPair h₁ h₂ colon rest]

/-- No second name follows a run unless the next two runs are a colon and a name. -/
theorem takeRangeEnd?_runs {colon second : List Char} {rest : List (List Char)}
    (h : AreRuns false (colon :: second :: rest)) (hpair : (isColon colon && isNameShaped second) = false) :
    takeRangeEnd? (colon :: second :: rest).flatten = none := by
  obtain ⟨-, hgap, hsecond⟩ := areRuns_cons_iff.mp h
  have hhead := hsecond.head
  obtain ⟨-, hword, hrest⟩ := areRuns_cons_iff.mp hsecond
  rw [List.flatten_cons, takeRangeEnd?_gap hgap hhead, List.flatten_cons,
    takeWord?_run hword (stops_isWord_of_areRuns hrest)]
  cases hcolon : isColon colon with
  | false => rfl
  | true =>
    rw [hcolon, Bool.true_and] at hpair
    simp [hpair]

/-- The scanner expands a text part by part; `afterWord` says whether a word character stands before
it. -/
theorem expandFrom_flatten {word : Bool} {rs : List (List Char)} (h : AreRuns word rs) {afterWord : Bool}
    (hafter : word = true → afterWord = false) :
    expandFrom 0 afterWord rs.flatten = (parts rs).flatMap Part.script := by
  -- The cases are those of `parts`. After a run the next one is of the other kind, so that `hafter` is kept.
  fun_induction parts rs generalizing word afterWord with
  | case1 first colon second rest hpair ih =>
    simp only [Bool.and_eq_true] at hpair
    obtain ⟨⟨hfirst, hcolon⟩, hsecond⟩ := hpair
    obtain ⟨hne, hrun, hafterFirst⟩ := areRuns_cons_iff.mp h
    obtain rfl := word_of_isNameShaped h hfirst
    obtain ⟨hneColon, hgap, hafterColon⟩ := areRuns_cons_iff.mp hafterFirst
    obtain ⟨-, -, hrest⟩ := areRuns_cons_iff.mp hafterColon
    rw [hafter rfl, List.flatten_cons, List.flatten_cons, List.flatten_cons, List.flatMap_cons,
      expandFrom_pair hfirst hgap hneColon hcolon hsecond (stops_isWord_of_areRuns hrest), ih hrest (by decide)]
  | case2 run colon second rest hpair ih =>
    obtain ⟨hne, hrun, hrest⟩ := areRuns_cons_iff.mp h
    have hcolon : isNameShaped run = true → takeRangeEnd? (colon :: second :: rest).flatten = none := by
      intro hshaped
      rw [word_of_isNameShaped h hshaped] at hrest
      rw [hshaped, Bool.true_and, Bool.not_eq_true] at hpair
      exact takeRangeEnd?_runs hrest hpair
    rw [List.flatten_cons, List.flatMap_cons, expandFrom_run hne hrun hrest.head hafter hcolon,
      ih hrest (by simp)]
  | case3 run rest hshort ih =>
    obtain ⟨hne, hrun, hrest⟩ := areRuns_cons_iff.mp h
    have hcolon : isNameShaped run = true → takeRangeEnd? rest.flatten = none := by
      intro hshaped
      rw [word_of_isNameShaped h hshaped] at hrest
      match rest, hrest with
      | [], _ => rfl
      | [gap], hrest =>
        have hend : takeRangeEnd? (gap ++ []) = if isColon gap then takeWord? [] else none :=
          takeRangeEnd?_gap (areRuns_cons_iff.mp hrest).2.1 (by simp)
        rw [List.flatten_singleton, ← List.append_nil gap, hend]
        split <;> rfl
      | gap :: second :: rest, _ => exact absurd rfl (hshort gap second rest)
    rw [List.flatten_cons, List.flatMap_cons, expandFrom_run hne hrun hrest.head hafter hcolon,
      ih hrest (by simp)]
  | case4 => rfl

/-- Plain text with its references replaced by calls, found by its runs. -/
def expandRuns (cs : List Char) : List Char :=
  (parts (runs cs)).flatMap Part.script

theorem expandFrom_eq_expandRuns (cs : List Char) : expandFrom 0 false cs = expandRuns cs := by
  have h : expandFrom 0 false (runs cs).flatten = expandRuns cs := expandFrom_flatten (areRuns_runs cs) fun _ => rfl
  rwa [flatten_runs] at h

/-- Plain text is expanded part by part once its anchors are gone. -/
theorem expandPlain_eq (cs : List Char) : expandPlain cs = expandRuns (cs.filter (· != '$')) :=
  expandFrom_eq_expandRuns _

theorem toScript_unquoted {s : String} (h : '"' ∉ s.toList) :
    toScript s = String.ofList (expandRuns (s.toList.filter (· != '$'))) := by
  rw [toScript, mapPlain, pieces, piecesFrom_outside fun c hc => by rintro rfl; exact h hc]
  simp [expandPlain_eq]

/-! ## Words that are no names -/

theorem isColon_of_isWord {run : List Char} (h : ∀ c ∈ run, isWord c = true) : isColon run = false := by
  rw [← Bool.not_eq_true, isColon_iff]
  rintro ⟨before, after, rfl, -, -⟩
  exact absurd (h ':' (by simp)) (by decide)

theorem parts_cons_of_not_isNameShaped {run : List Char} (h : isNameShaped run = false) (rest : List (List Char)) :
    parts (run :: rest) = .text run :: parts rest := by
  match rest with
  | [] => simp [parts, Part.ofRun, h]
  | [_] => simp [parts, Part.ofRun, h]
  | _ :: _ :: _ => simp [parts, Part.ofRun, h]

theorem parts_append {run : List Char} (hshaped : isNameShaped run = false) (hcolon : isColon run = false)
    (rs rest : List (List Char)) : parts (rs ++ run :: rest) = parts rs ++ .text run :: parts rest := by
  have hrun := parts_cons_of_not_isNameShaped hshaped rest
  fun_induction parts rs with
  | case1 first colon second rs hpair ih => simp [parts, hpair, ih]
  | case2 first colon second rs hpair ih =>
    simp only [List.cons_append] at ih ⊢
    rw [parts, if_neg hpair, ih]
  | case3 first rs hshort ih =>
    match rs, hshort with
    | [], _ =>
      cases rest with
      | nil => simpa [parts] using hrun
      | cons second rest => simpa [parts, hcolon] using hrun
    | [colon], _ =>
      rw [List.cons_append] at ih
      simpa [parts, hshaped] using ih
    | colon :: second :: rs, hshort => exact absurd rfl (hshort colon second rs)
  | case4 => exact hrun

theorem runs_word {word : List Char} (hne : word ≠ []) (hword : ∀ c ∈ word, isWord c = true) :
    runs word = [word] := by
  refine List.splitBy_of_isChain hne (List.Pairwise.isChain (List.pairwise_of_forall_mem_list ?_))
  intro c hc d hd
  rw [sameKind, hword c hc, hword d hd]
  rfl

theorem runs_append {before after : List Char}
    (h : ∀ c ∈ before.getLast?, ∀ d ∈ after.head?, sameKind c d = false) :
    runs (before ++ after) = runs before ++ runs after :=
  List.splitBy_append h

/-- A word that is not shaped like a name is kept; references end before it and begin after it. -/
theorem expandRuns_word {before word after : List Char} (hne : word ≠ []) (hword : ∀ c ∈ word, isWord c = true)
    (hbefore : ∀ c ∈ before.getLast?, isWord c = false) (hafter : Stops isWord after)
    (hshaped : isNameShaped word = false) :
    expandRuns (before ++ word ++ after) = expandRuns before ++ word ++ expandRuns after := by
  have hlast : ∀ c ∈ (before ++ word).getLast?, ∀ d ∈ after.head?, sameKind c d = false := by
    intro c hc d hd
    rw [List.getLast?_append_of_ne_nil _ hne] at hc
    rw [sameKind, hword c (List.mem_of_getLast? hc), hafter d hd]
    rfl
  have hfirst : ∀ c ∈ before.getLast?, ∀ d ∈ word.head?, sameKind c d = false := by
    intro c hc d hd
    rw [sameKind, hbefore c hc, hword d (List.mem_of_mem_head? hd)]
    rfl
  have hparts := parts_append hshaped (isColon_of_isWord hword) (runs before) (runs after)
  rw [expandRuns, runs_append hlast, runs_append hfirst, runs_word hne hword, List.append_assoc,
    List.singleton_append, hparts]
  simp [expandRuns, Part.script]

end Worksheet.Formula
