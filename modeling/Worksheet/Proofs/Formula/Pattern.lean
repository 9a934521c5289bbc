import Worksheet.Proofs.Formula.WholeWords

/-!
# References are the matches of a pattern

The pattern `\b([A-Za-z]+[0-9]+)(?:\s*:\s*([A-Za-z]+[0-9]+))?\b` is matched with backtracking: of the ways
in which it matches at a place the first one counts, and the matches in a text are replaced from left to
right. This finds the same references as the scanner, and so as the rule for whole words.

* `Pattern`, `Pattern.ways` : patterns, and their ways to match in the order in which they are tried;
* `exists_ways_many_seq`, `ways_name_seq` : ways that stop in the middle of a run lead nowhere;
* `head?_ways_reference` : the first way is the candidate;
* `Pattern.Replaces`, `replaces_reference_iff` : the matches replaced one after the other;
* `toScript_wholeWords` : plain text is expanded at whole words only.
-/

namespace Worksheet.Formula

open Text Decimal CellRef

/-! ## Patterns -/

inductive Pattern
  /-- A place with a word character on one side only. -/
  | boundary
  /-- A character of a class. -/
  | one (p : Char → Bool)
  /-- Any number of characters of a class, as many as possible. -/
  | many (p : Char → Bool)
  | seq (a b : Pattern)
  /-- A pattern if possible, otherwise nothing. -/
  | maybe (a : Pattern)
  /-- A pattern whose text is kept. -/
  | group (a : Pattern)

/-- A place in a text: whether a word character stands before it, and what follows it. -/
structure Cursor where
  afterWord : Bool
  rest : List Char

/-- The text between two places. -/
def Cursor.taken (k stop : Cursor) : List Char :=
  k.rest.take (k.rest.length - stop.rest.length)

/-- The places in and after a run of a class, the last one first. -/
def Cursor.passes (p : Char → Bool) (afterWord : Bool) : List Char → List Cursor
  | [] => [⟨afterWord, []⟩]
  | c :: cs => (if p c then passes p (isWord c) cs else []) ++ [⟨afterWord, c :: cs⟩]

/-- A way to match: the texts of the groups in order, and the place where the match ends. -/
structure Way where
  groups : List (List Char)
  stop : Cursor

def Way.after (groups : List (List Char)) (w : Way) : Way :=
  ⟨groups ++ w.groups, w.stop⟩

namespace Pattern

/-- The ways in which a pattern matches at a place, in the order in which they are tried. -/
def ways : Pattern → Cursor → List Way
  | boundary, k => if k.afterWord = !atWordEnd k.rest then [] else [⟨[], k⟩]
  | one p, k =>
    match k.rest with
    | c :: cs => if p c then [⟨[], ⟨isWord c, cs⟩⟩] else []
    | [] => []
  | many p, k => (Cursor.passes p k.afterWord k.rest).map fun stop => ⟨[], stop⟩
  | seq a b, k => (a.ways k).flatMap fun w => (b.ways w.stop).map (Way.after w.groups)
  | maybe a, k => a.ways k ++ [⟨[], k⟩]
  | group a, k => (a.ways k).map fun w => ⟨[k.taken w.stop], w.stop⟩

def letterDigits : Pattern :=
  .seq (.one Char.isAlpha) (.seq (.many Char.isAlpha) (.seq (.one Char.isDigit) (.many Char.isDigit)))

def rangeEnd : Pattern :=
  .seq (.many isWhiteSpace) (.seq (.one (· = ':')) (.seq (.many isWhiteSpace) (.group letterDigits)))

/-- A whole word that is a name, or two with a colon between them. -/
def reference : Pattern :=
  .seq .boundary (.seq (.group letterDigits) (.seq (.maybe rangeEnd) .boundary))

/-! ## Ways in general -/

theorem after_nil (w : Way) : Way.after [] w = w := rfl

theorem after_after (gs hs : List (List Char)) (w : Way) : Way.after gs (Way.after hs w) = Way.after (gs ++ hs) w := by
  rw [Way.after, Way.after, Way.after, List.append_assoc]

theorem ways_seq_assoc (a b c : Pattern) (k : Cursor) : ((a.seq b).seq c).ways k = (a.seq (b.seq c)).ways k := by
  simp only [ways, List.flatMap_assoc, List.flatMap_map, List.map_flatMap, List.map_map]
  refine List.flatMap_congr fun v _ => List.flatMap_congr fun w _ => List.map_congr_left fun x _ => ?_
  exact (after_after _ _ _).symm

theorem ways_seq_congr {b c : Pattern} (h : ∀ k, b.ways k = c.ways k) (a : Pattern) (k : Cursor) :
    (a.seq b).ways k = (a.seq c).ways k :=
  List.flatMap_congr fun w _ => by rw [h]

theorem map_after_nil (ws : List Way) : ws.map (Way.after []) = ws := by
  rw [List.map_congr_left fun w _ => after_nil w, List.map_id']

theorem ways_maybe_seq (a b : Pattern) (k : Cursor) : ((maybe a).seq b).ways k = (a.seq b).ways k ++ b.ways k := by
  simp only [ways, List.flatMap_append, List.flatMap_singleton, map_after_nil]

theorem ways_one_seq (p : Char → Bool) (b : Pattern) (afterWord : Bool) (c : Char) (cs : List Char) :
    ((one p).seq b).ways ⟨afterWord, c :: cs⟩ = if p c then b.ways ⟨isWord c, cs⟩ else [] := by
  simp only [ways]
  split
  · rw [List.flatMap_singleton, map_after_nil]
  · rfl

theorem ways_boundary_seq (b : Pattern) (k : Cursor) :
    (boundary.seq b).ways k = if k.afterWord = !atWordEnd k.rest then [] else b.ways k := by
  simp only [ways]
  split
  · rfl
  · rw [List.flatMap_singleton, map_after_nil]

end Pattern

/-! ## Runs of a class -/

/-- The first way goes past the whole run; each other one stops before a character of it. What holds of
the flag before the run and after each of its characters holds at all these places. -/
theorem Cursor.exists_passes {p : Char → Bool} (P : Bool → Prop) (hp : ∀ c, p c = true → P (isWord c))
    {afterWord : Bool} (hP : P afterWord) (cs : List Char) :
    ∃ stop shorter, passes p afterWord cs = ⟨stop, cs.dropWhile p⟩ :: shorter ∧ P stop ∧
      ∀ k ∈ shorter, P k.afterWord ∧ ∃ c ds, k.rest = c :: ds ∧ p c = true := by
  induction cs generalizing afterWord with
  | nil => exact ⟨afterWord, [], rfl, hP, by simp⟩
  | cons c cs ih =>
    rw [passes]
    by_cases hc : p c = true
    · obtain ⟨stop, shorter, heq, hstop, hshorter⟩ := ih (hp c hc)
      rw [if_pos hc, heq, List.dropWhile_cons_of_pos hc]
      refine ⟨stop, shorter ++ [⟨afterWord, c :: cs⟩], rfl, hstop, fun k hk => ?_⟩
      obtain hk | hk := List.mem_append.mp hk
      · exact hshorter k hk
      · rw [List.mem_singleton.mp hk]
        exact ⟨hP, c, cs, rfl, hc⟩
    · rw [if_neg hc, List.dropWhile_cons_of_neg hc]
      exact ⟨afterWord, [], rfl, hP, by simp⟩

namespace Pattern

/-- A run of a class is taken as a whole if what comes next cannot begin in it. -/
theorem exists_ways_many_seq {p : Char → Bool} {b : Pattern} (P : Bool → Prop)
    (hb : ∀ afterWord c cs, p c = true → b.ways ⟨afterWord, c :: cs⟩ = [])
    (hp : ∀ c, p c = true → P (isWord c)) (afterWord : Bool) (hP : P afterWord) (cs : List Char) :
    ∃ stop, P stop ∧ ((many p).seq b).ways ⟨afterWord, cs⟩ = b.ways ⟨stop, cs.dropWhile p⟩ := by
  obtain ⟨stop, shorter, heq, hstop, hshorter⟩ := Cursor.exists_passes P hp hP cs
  -- Backtracking into the run finds nothing: `b` would have to begin with a character of the run.
  have hnone : shorter.flatMap b.ways = [] := by
    rw [List.flatMap_eq_nil_iff]
    intro k hk
    obtain ⟨-, c, ds, hrest, hc⟩ := hshorter k hk
    have hk : k = ⟨k.afterWord, c :: ds⟩ := by rw [← hrest]
    rw [hk, hb _ _ _ hc]
  refine ⟨stop, hstop, ?_⟩
  simp only [ways, heq, List.flatMap_map, map_after_nil, List.flatMap_cons, hnone, List.append_nil]

/-! ## Names -/

theorem isWord_of_isAlpha (c : Char) (h : c.isAlpha = true) : isWord c = true :=
  isWord_of_alphanum (isAlphanum_of_isAlpha h)

theorem isWord_of_isDigit (c : Char) (h : c.isDigit = true) : isWord c = true :=
  isWord_of_alphanum (isAlphanum_of_isDigit h)

theorem ways_digits (afterWord : Bool) (cs : List Char) :
    (cs.takeWhile Char.isDigit = [] ∧ ((one Char.isDigit).seq (many Char.isDigit)).ways ⟨afterWord, cs⟩ = []) ∨
      ∃ shorter, cs.takeWhile Char.isDigit ≠ [] ∧
        ((one Char.isDigit).seq (many Char.isDigit)).ways ⟨afterWord, cs⟩ =
          ⟨[], ⟨true, cs.dropWhile Char.isDigit⟩⟩ :: shorter ∧
        ∀ w ∈ shorter, ∃ c ds, w.stop = ⟨true, c :: ds⟩ ∧ c.isDigit = true := by
  cases cs with
  | nil => exact .inl ⟨rfl, rfl⟩
  | cons d ds =>
    by_cases hd : d.isDigit = true
    · obtain ⟨_, shorter, hpasses, rfl, hshorter⟩ := Cursor.exists_passes (· = true) isWord_of_isDigit rfl ds
      refine .inr ⟨shorter.map fun stop => ⟨[], stop⟩, by simp [hd], ?_, ?_⟩
      · rw [ways_one_seq, if_pos hd, isWord_of_isDigit d hd, ways, hpasses, List.map_cons,
          List.dropWhile_cons_of_pos hd]
      · intro w hw
        obtain ⟨k, hk, rfl⟩ := List.mem_map.mp hw
        obtain ⟨hword, e, es, hrest, he⟩ := hshorter k hk
        exact ⟨e, es, by rw [← hrest, ← hword], he⟩
    · exact .inl ⟨List.takeWhile_cons_of_neg hd, by rw [ways_one_seq, if_neg hd]⟩

theorem ways_letters (afterWord : Bool) {c : Char} (hc : c.isAlpha = true) (cs : List Char) :
    letterDigits.ways ⟨afterWord, c :: cs⟩ =
      ((one Char.isDigit).seq (many Char.isDigit)).ways ⟨true, (c :: cs).dropWhile Char.isAlpha⟩ := by
  have hdigits : ∀ afterWord c cs, c.isAlpha = true →
      ((one Char.isDigit).seq (many Char.isDigit)).ways ⟨afterWord, c :: cs⟩ = [] := by
    intro afterWord d ds hd
    rw [ways_one_seq, if_neg]
    intro hdigit
    rw [isAlpha_of_isDigit hdigit] at hd
    cases hd
  obtain ⟨_, rfl, hmany⟩ := exists_ways_many_seq (· = true) hdigits isWord_of_isAlpha true rfl cs
  rw [letterDigits, ways_one_seq, if_pos hc, isWord_of_isAlpha c hc, hmany, List.dropWhile_cons_of_pos hc]

theorem ways_letterDigits (afterWord : Bool) (cs : List Char) :
    (takeName? cs = none ∧ letterDigits.ways ⟨afterWord, cs⟩ = []) ∨
      ∃ name rest shorter, takeName? cs = some (name, rest) ∧
        letterDigits.ways ⟨afterWord, cs⟩ = ⟨[], ⟨true, rest⟩⟩ :: shorter ∧
        ∀ w ∈ shorter, ∃ c ds, w.stop = ⟨true, c :: ds⟩ ∧ c.isDigit = true := by
  cases cs with
  | nil => exact .inl ⟨rfl, rfl⟩
  | cons c cs =>
    by_cases hc : c.isAlpha = true
    · have hletters : (c :: cs).takeWhile Char.isAlpha ≠ [] := by simp [hc]
      rw [takeName?_eq, ways_letters afterWord hc]
      obtain ⟨hnone, hways⟩ | ⟨shorter, hdigits, hways, hshorter⟩ :=
        ways_digits true ((c :: cs).dropWhile Char.isAlpha)
      · exact .inl ⟨by rw [hnone, List.isEmpty_nil, Bool.or_true, if_pos rfl], hways⟩
      · rw [List.isEmpty_eq_false_iff.mpr hletters, List.isEmpty_eq_false_iff.mpr hdigits]
        exact .inr ⟨_, _, shorter, rfl, hways, hshorter⟩
    · exact .inl ⟨takeName?_of_not_isAlpha (Bool.not_eq_true _ ▸ hc) cs, by
        rw [letterDigits, ways_one_seq, if_neg hc]⟩

theorem taken_append (afterWord stopWord : Bool) (name rest : List Char) :
    Cursor.taken ⟨afterWord, name ++ rest⟩ ⟨stopWord, rest⟩ = name := by
  simp [Cursor.taken]

theorem ways_name_seq {b : Pattern} (hb : ∀ c cs, c.isDigit = true → b.ways ⟨true, c :: cs⟩ = [])
    (afterWord : Bool) (cs : List Char) :
    ((group letterDigits).seq b).ways ⟨afterWord, cs⟩ =
      (takeName? cs).elim [] fun p => (b.ways ⟨true, p.2⟩).map (Way.after [p.1]) := by
  obtain ⟨hname, hways⟩ | ⟨name, rest, shorter, hname, hways, hshorter⟩ := ways_letterDigits afterWord cs
  · simp [ways, hways, hname]
  · obtain ⟨-, rfl⟩ := takeName?_some hname
    have hnone : shorter.flatMap (fun w =>
        (b.ways w.stop).map (Way.after [Cursor.taken ⟨afterWord, name ++ rest⟩ w.stop])) = [] := by
      rw [List.flatMap_eq_nil_iff]
      intro w hw
      obtain ⟨c, ds, hstop, hc⟩ := hshorter w hw
      rw [hstop, hb c ds hc, List.map_nil]
    rw [hname, ways, ways, hways, List.map_cons, List.flatMap_cons, List.flatMap_map, hnone, List.append_nil,
      taken_append]
    rfl

/-! ## References -/

theorem ways_boundary_inside {c : Char} (hc : isWord c = true) (cs : List Char) :
    boundary.ways ⟨true, c :: cs⟩ = [] := by
  simp [ways, atWordEnd, hc]

theorem ways_boundary_end (rest : List Char) :
    boundary.ways ⟨true, rest⟩ = if atWordEnd rest then [⟨[], ⟨true, rest⟩⟩] else [] := by
  cases h : atWordEnd rest <;> simp [ways, h]

theorem ways_word (afterWord : Bool) (cs : List Char) :
    ((group letterDigits).seq boundary).ways ⟨afterWord, cs⟩ =
      (takeWord? cs).elim [] fun p => [⟨[p.1], ⟨true, p.2⟩⟩] := by
  rw [ways_name_seq fun c cs hc => ways_boundary_inside (isWord_of_isDigit c hc) cs, takeWord?]
  cases takeName? cs with
  | none => rfl
  | some p =>
    rw [Option.elim_some, ways_boundary_end]
    cases h : atWordEnd p.2 <;> simp [h, Way.after]

theorem ways_rangeEnd (afterWord : Bool) (cs : List Char) :
    (rangeEnd.seq boundary).ways ⟨afterWord, cs⟩ =
      (takeRangeEnd? cs).elim [] fun p => [⟨[p.1], ⟨true, p.2⟩⟩] := by
  have hassoc : ∀ k, (rangeEnd.seq boundary).ways k =
      ((many isWhiteSpace).seq ((one (· = ':')).seq ((many isWhiteSpace).seq
        ((group letterDigits).seq boundary)))).ways k := by
    intro k
    rw [rangeEnd, ways_seq_assoc]
    refine ways_seq_congr (fun k => ?_) _ k
    rw [ways_seq_assoc]
    exact ways_seq_congr (ways_seq_assoc _ _ _) _ k
  have hcolon : ∀ afterWord c cs, isWhiteSpace c = true →
      ((one (· = ':')).seq ((many isWhiteSpace).seq ((group letterDigits).seq boundary))).ways
        ⟨afterWord, c :: cs⟩ = [] := by
    intro afterWord c cs hc
    rw [ways_one_seq, if_neg]
    rw [decide_eq_true_iff]
    rintro rfl
    exact absurd hc (by decide)
  have hname : ∀ afterWord c cs, isWhiteSpace c = true →
      ((group letterDigits).seq boundary).ways ⟨afterWord, c :: cs⟩ = [] := by
    intro afterWord c cs hc
    rw [ways_word, takeWord?, takeName?_of_not_isAlpha (isAlpha_of_not_isWord (isWord_of_isWhiteSpace hc))]
    rfl
  obtain ⟨stop, -, hbefore⟩ := exists_ways_many_seq (fun _ => True) hcolon (fun _ _ => trivial)
    afterWord trivial cs
  rw [hassoc, hbefore, takeRangeEnd?]
  cases hdrop : cs.dropWhile isWhiteSpace with
  | nil => rfl
  | cons c cs =>
    rw [ways_one_seq]
    by_cases hc : c = ':'
    · subst hc
      obtain ⟨stop, -, hafter⟩ := exists_ways_many_seq (fun _ => True) hname (fun _ _ => trivial)
        (isWord ':') trivial cs
      rw [if_pos (by decide), hafter, ways_word]
      rfl
    · rw [if_neg (by simpa using hc)]
      split
      · rename_i heq
        exact absurd (List.cons.inj heq).1 hc
      · rfl

theorem ways_second (rest : List Char) :
    ((maybe rangeEnd).seq boundary).ways ⟨true, rest⟩ =
      ((takeRangeEnd? rest).elim [] fun p => [⟨[p.1], ⟨true, p.2⟩⟩]) ++
        if atWordEnd rest then [⟨[], ⟨true, rest⟩⟩] else [] := by
  rw [ways_maybe_seq, ways_rangeEnd, ways_boundary_end]

/-- The first way in which the pattern matches is the candidate of the scanner. -/
theorem head?_ways_reference (afterWord : Bool) (cs : List Char) :
    (reference.ways ⟨afterWord, cs⟩).head? =
      (if afterWord then none else matchAt? cs).map fun m => ⟨m.first :: m.second.toList, ⟨true, m.rest⟩⟩ := by
  have htail : ∀ c ds, c.isDigit = true → ((maybe rangeEnd).seq boundary).ways ⟨true, c :: ds⟩ = [] := by
    intro c ds hc
    rw [ways_second, takeRangeEnd?_of_isWord (isWord_of_isDigit c hc), atWordEnd, isWord_of_isDigit c hc]
    rfl
  rw [reference, ways_boundary_seq, ways_name_seq htail, matchAt?]
  cases hname : takeName? cs with
  | none => cases afterWord <;> simp
  | some p =>
    obtain ⟨name, rest⟩ := p
    -- A name begins with a letter, so that a word begins here unless one has begun before.
    have hletter : atWordEnd cs = false := by
      cases cs with
      | nil => cases hname
      | cons c cs =>
        rw [atWordEnd, Bool.not_eq_false', ← Bool.not_eq_false]
        intro hc
        rw [takeName?_of_not_isAlpha (isAlpha_of_not_isWord hc)] at hname
        cases hname
    rw [hletter]
    cases afterWord with
    | true => rfl
    | false =>
      rw [Option.elim_some, ways_second]
      cases hsecond : takeRangeEnd? rest with
      | some second => simp [hsecond, Way.after]
      | none => cases hend : atWordEnd rest <;> simp [hsecond, hend, Way.after]

/-! ## Replacing the matches -/

/-- The text after a place with each match of a pattern replaced: from left to right, each match the first
way in which the pattern matches where the one before it has ended. -/
inductive Replaces (a : Pattern) (call : List Char → List (List Char) → List Char) : Cursor → List Char → Prop
  | done {k : Cursor} (hnone : a.ways k = []) (hend : k.rest = []) : Replaces a call k []
  | copied {k : Cursor} {c : Char} {cs out : List Char} (hnone : a.ways k = []) (hnext : k.rest = c :: cs)
      (hrest : Replaces a call ⟨isWord c, cs⟩ out) : Replaces a call k (c :: out)
  | replaced {k : Cursor} {w : Way} {out : List Char} (hfirst : (a.ways k).head? = some w)
      (hrest : Replaces a call w.stop out) : Replaces a call k (call (k.taken w.stop) w.groups ++ out)

end Pattern

open Pattern

/-- The call that a match becomes, or its text if a name in it is not one of a cell. -/
def callFor (written : List Char) : List (List Char) → List Char
  | [first] => (ofName? (String.ofList first)).elim written fun r => (Reference.cell r).script
  | [first, second] =>
    ((ofName? (String.ofList first)).bind fun a => (ofName? (String.ofList second)).map (Reference.range a)).elim
      written Reference.script
  | _ => written

theorem callFor_candidate {m : Candidate} (hfirst : isNameShaped m.first = true)
    (hsecond : ∀ second ∈ m.second, isNameShaped second = true) (written : List Char) :
    callFor written (m.first :: m.second.toList) = m.reference?.elim written Reference.script := by
  obtain ⟨first, second, rest⟩ := m
  cases second with
  | none =>
    rw [Option.toList_none, callFor, ofName?_of_isNameShaped hfirst, Candidate.reference?]
    cases ofChars? first <;> rfl
  | some second =>
    rw [Option.toList_some, callFor, ofName?_of_isNameShaped hfirst, ofName?_of_isNameShaped (hsecond second rfl),
      Candidate.reference?]
    cases ofChars? first with
    | none => rfl
    | some a => cases hsecond : ofChars? second <;> simp [hsecond]

/-- Where the pattern does not match, the scanner goes on to the next character. -/
theorem expandFrom_of_no_way {afterWord : Bool} {c : Char} {cs : List Char}
    (h : reference.ways ⟨afterWord, c :: cs⟩ = []) :
    expandFrom 0 afterWord (c :: cs) = c :: expandFrom 0 (isWord c) cs := by
  have hnone := head?_ways_reference afterWord (c :: cs)
  rw [h, List.head?_nil, eq_comm, Option.map_eq_none_iff] at hnone
  cases afterWord with
  | true => exact expandFrom_afterWord c cs
  | false => exact expandFrom_of_no_candidate hnone false

theorem expandFrom_of_way {k : Cursor} {w : Way} (h : (reference.ways k).head? = some w) :
    expandFrom 0 k.afterWord k.rest = callFor (k.taken w.stop) w.groups ++ expandFrom 0 w.stop.afterWord w.stop.rest ∧
      w.stop.rest.length < k.rest.length := by
  obtain ⟨afterWord, cs⟩ := k
  rw [head?_ways_reference] at h
  cases afterWord with
  | true => cases h
  | false =>
    obtain ⟨m, hm, rfl⟩ := Option.map_eq_some_iff.mp h
    rw [if_neg (by decide)] at hm
    obtain ⟨written, hne, rfl, hfirst, hsecond⟩ := matchAt?_some hm
    constructor
    · rw [expandFrom_match hne hm rfl, taken_append, callFor_candidate hfirst hsecond]
    · have hpos := List.length_pos_of_ne_nil hne
      simpa using hpos

theorem replaces_expandFrom (k : Cursor) : Replaces reference callFor k (expandFrom 0 k.afterWord k.rest) := by
  cases hways : reference.ways k with
  | cons w ws =>
    have hfirst : (reference.ways k).head? = some w := by rw [hways]; rfl
    obtain ⟨hexpand, hshorter⟩ := expandFrom_of_way hfirst
    rw [hexpand]
    exact .replaced hfirst (replaces_expandFrom w.stop)
  | nil =>
    obtain ⟨afterWord, _ | ⟨c, cs⟩⟩ := k
    · exact .done hways rfl
    · rw [expandFrom_of_no_way hways]
      exact .copied hways rfl (replaces_expandFrom ⟨isWord c, cs⟩)
termination_by k.rest.length

/-- What the scanner makes of a text is the text with the matches of the pattern replaced. -/
theorem replaces_reference_iff {k : Cursor} {out : List Char} :
    Replaces reference callFor k out ↔ out = expandFrom 0 k.afterWord k.rest := by
  constructor
  · intro h
    induction h with
    | @done k hnone hend => rw [hend]; rfl
    | @copied k c cs out hnone hnext hrest ih =>
      obtain ⟨afterWord, _⟩ := k
      subst hnext
      rw [expandFrom_of_no_way hnone, ih]
    | @replaced k w out hfirst hrest ih => rw [(expandFrom_of_way hfirst).1, ih]
  · rintro rfl
    exact replaces_expandFrom k

/-! ## Whole formulas -/

/-- In a formula without quotation marks, once its anchors are gone, the references are its parts: names that
are whole words, two of them with a colon between them taken together. They are also the matches of the
pattern; a word that is not shaped like a name stays, and no reference goes across it. -/
theorem toScript_wholeWords {s : String} (h : '"' ∉ s.toList) :
    (∃ word rs, AreRuns word rs ∧ rs.flatten = s.toList.filter (· != '$')) ∧
    (∀ word rs, AreRuns word rs → rs.flatten = s.toList.filter (· != '$') →
      toScript s = String.ofList ((parts rs).flatMap Part.script)) ∧
    (∀ out, Replaces reference callFor ⟨false, s.toList.filter (· != '$')⟩ out ↔ toScript s = String.ofList out) ∧
    (∀ before word after, s.toList.filter (· != '$') = before ++ word ++ after → word ≠ [] →
      (∀ c ∈ word, isWord c = true) → (∀ c ∈ before.getLast?, isWord c = false) → Stops isWord after →
      isNameShaped word = false →
      toScript s = String.ofList (expandRuns before ++ word ++ expandRuns after)) ∧
    toScript "A1:B2x" = "CELL(0, 0):B2x" := by
  have hscript := toScript_unquoted h
  generalize s.toList.filter (· != '$') = cs at hscript ⊢
  refine ⟨?_, ?_, ?_, ?_, by decide⟩
  · exact ⟨_, _, areRuns_runs cs, flatten_runs cs⟩
  · intro word rs hrs hflatten
    rw [hscript, ← expandFrom_eq_expandRuns, ← hflatten, expandFrom_flatten hrs fun _ => rfl]
  · intro out
    rw [hscript, replaces_reference_iff, String.ofList_inj, ← expandFrom_eq_expandRuns, eq_comm]
  · intro before word after hsplit hne hword hbefore hafter hshaped
    rw [hscript, hsplit, expandRuns_word hne hword hbefore hafter hshaped]

theorem toScript_wholeWords_mixed :
    '"' ∉ "$A$1 :B2 + 1e5-A0:C3".toList ∧
      toScript "$A$1 :B2 + 1e5-A0:C3" = "RANGE(0, 0, 1, 1) + 1e5-A0:C3" := by
  refine ⟨by decide, ?_⟩
  have hruns : AreRuns true [['A', '1'], [' ', ':'], ['B', '2'], [' ', '+', ' '], ['1', 'e', '5'], ['-'],
      ['A', '0'], [':'], ['C', '3']] := by
    repeat' first | exact .nil _ | refine .cons (List.cons_ne_nil _ _) (by simp; decide) ?_
  rw [(toScript_wholeWords (by decide)).2.1 true _ hruns (by decide)]
  decide

end Worksheet.Formula
