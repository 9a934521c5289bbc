import Worksheet.Proofs.Formula.WholeWords

/-!
# Literals are kept

A formula falls into plain text and literals in one way only, and the script that it becomes falls into the
same literals, with the plain text between them expanded.

* `IsLiteral`, `IsOpenLiteral` : what stands between quotation marks;
* `AreSplit`, `areSplit_pieces`, `AreSplit.pieces_eq` : the pieces are the one way to take a text apart;
* `EndsOutside`, `AreSplit.join` : a literal goes on from text that ends outside one;
* `pieces_toScript` : the pieces of a script;
* `toScript_literals` : literals split the expansion.
-/

namespace Worksheet.Formula

open Text Decimal CellRef

/-! ## Literals -/

/-- Whether a mark after a text is escaped: whether an odd number of backslashes stands right before
it. -/
def isEscaped (before : List Char) : Bool :=
  (before.reverse.takeWhile (· = '\\')).length % 2 = 1

/-- A text in which no quotation mark ends the literal that it stands in. -/
def KeepsOpen (body : List Char) : Prop :=
  ∀ before after, body = before ++ '"' :: after → isEscaped before = true

/-- A literal from its opening mark to the first one that is not escaped. -/
def IsLiteral (l : List Char) : Prop :=
  ∃ body, l = '"' :: (body ++ ['"']) ∧ KeepsOpen body ∧ isEscaped body = false

def IsOpenLiteral (l : List Char) : Prop :=
  ∃ body, l = '"' :: body ∧ KeepsOpen body

theorem isEscaped_backslash (cs : List Char) : isEscaped (cs ++ ['\\']) = !isEscaped cs := by
  rw [isEscaped, isEscaped, List.reverse_concat, List.takeWhile_cons_of_pos (by decide), List.length_cons,
    ← decide_not, decide_eq_decide]
  omega

theorem isEscaped_other {c : Char} (h : c ≠ '\\') (cs : List Char) : isEscaped (cs ++ [c]) = false := by
  rw [isEscaped, List.reverse_concat, List.takeWhile_cons_of_neg (by simpa using h)]
  rfl

theorem keepsOpen_nil : KeepsOpen [] := by
  intro before after h
  simp at h

theorem KeepsOpen.concat {body : List Char} (h : KeepsOpen body) {c : Char}
    (hc : c = '"' → isEscaped body = true) : KeepsOpen (body ++ [c]) := by
  intro before after heq
  obtain rfl | ⟨after, d, rfl⟩ := List.eq_nil_or_concat' after
  · obtain ⟨rfl, hd⟩ := List.append_inj' heq rfl
    exact hc (List.cons.inj hd).1
  · rw [← List.cons_append, ← List.append_assoc] at heq
    exact h before after (List.append_inj' heq rfl).1

/-! ## The scanner in a literal -/

/-- A character that does not end the literal. -/
theorem piecesFrom_inside {before : List Char} {c : Char} (hc : c = '"' → isEscaped before = true)
    (read cs : List Char) :
    piecesFrom (.inside (isEscaped before)) read (c :: cs) =
      piecesFrom (.inside (isEscaped (before ++ [c]))) (c :: read) cs := by
  by_cases hslash : c = '\\'
  · subst hslash
    rw [isEscaped_backslash]
    rfl
  · rw [piecesFrom]
    simp only [if_neg hslash]
    rw [if_neg, isEscaped_other hslash]
    rintro ⟨hmark, hodd⟩
    rw [hc hmark] at hodd
    cases hodd

theorem piecesFrom_mark {odd : Bool} (h : odd = false) (read cs : List Char) :
    piecesFrom (.inside odd) read ('"' :: cs) = .literal ('"' :: read).reverse :: piecesFrom .outside [] cs := by
  rw [piecesFrom]
  simp [h]

theorem piecesFrom_body (before : List Char) {body : List Char} (h : KeepsOpen (before ++ body)) (read cs : List Char) :
    piecesFrom (.inside (isEscaped before)) read (body ++ cs) =
      piecesFrom (.inside (isEscaped (before ++ body))) (body.reverse ++ read) cs := by
  induction body generalizing before read with
  | nil => simp
  | cons c body ih =>
    have hc : c = '"' → isEscaped before = true := by
      rintro rfl
      exact h before body rfl
    rw [List.cons_append, piecesFrom_inside hc, ih (before ++ [c]) (by simpa using h)]
    simp

theorem piecesFrom_plain {p : List Char} (hp : '"' ∉ p) (read cs : List Char) :
    piecesFrom .outside read (p ++ '"' :: cs) =
      .plain (read.reverse ++ p) :: piecesFrom (.inside (isEscaped [])) ['"'] cs := by
  induction p generalizing read with
  | nil => simp [piecesFrom, isEscaped]
  | cons c p ih =>
    obtain ⟨hc, hp⟩ : '"' ≠ c ∧ '"' ∉ p := by simpa using hp
    rw [List.cons_append, piecesFrom]
    simp only [if_neg hc.symm]
    rw [ih hp]
    simp

/-! ## Taking a text apart -/

/-- Plain text and literals in turn, where only the last literal may be without its closing mark. -/
inductive AreSplit : List Piece → Prop
  | last {p : List Char} (hp : '"' ∉ p) : AreSplit [.plain p]
  | opened {p l : List Char} (hp : '"' ∉ p) (hl : IsOpenLiteral l) : AreSplit [.plain p, .literal l]
  | closed {p l : List Char} {ps : List Piece} (hp : '"' ∉ p) (hl : IsLiteral l) (hps : AreSplit ps) :
    AreSplit (.plain p :: .literal l :: ps)

/-- The scanner takes a text apart: outside a literal, and in one of which `body` has been read. -/
theorem areSplit_piecesFrom (cs : List Char) :
    (∀ read, '"' ∉ read → AreSplit (piecesFrom .outside read cs)) ∧
      ∀ p body, '"' ∉ p → KeepsOpen body →
        AreSplit (.plain p :: piecesFrom (.inside (isEscaped body)) ('"' :: body).reverse cs) := by
  -- Each of the two places is left for the other one at a mark, so that both are shown at once.
  induction cs with
  | nil =>
    constructor
    · intro read hread
      exact .last (by simpa using hread)
    · intro p body hp hbody
      rw [piecesFrom, List.reverse_reverse]
      exact .opened hp ⟨body, rfl, hbody⟩
  | cons c cs ih =>
    obtain ⟨houtside, hinside⟩ := ih
    constructor
    · intro read hread
      rw [piecesFrom]
      by_cases hc : c = '"'
      · subst hc
        exact hinside _ [] (by simpa using hread) keepsOpen_nil
      · simp only [if_neg hc]
        exact houtside _ (by simpa using ⟨Ne.symm hc, hread⟩)
    · intro p body hp hbody
      by_cases hend : c = '"' ∧ isEscaped body = false
      · obtain ⟨rfl, hodd⟩ := hend
        rw [piecesFrom_mark hodd]
        exact .closed hp ⟨body, by simp, hbody, hodd⟩ (houtside [] (by simp))
      · have hc : c = '"' → isEscaped body = true := by simpa using hend
        have hread : c :: ('"' :: body).reverse = ('"' :: (body ++ [c])).reverse := by simp
        rw [piecesFrom_inside hc, hread]
        exact hinside p _ hp (hbody.concat hc)

theorem areSplit_pieces (cs : List Char) : AreSplit (pieces cs) :=
  (areSplit_piecesFrom cs).1 [] (by simp)

theorem AreSplit.pieces_eq {ps : List Piece} (h : AreSplit ps) : pieces (ps.flatMap Piece.chars) = ps := by
  induction h with
  | last hp =>
    rw [List.flatMap_singleton, Piece.chars, pieces, piecesFrom_outside fun c hc => by rintro rfl; exact hp hc]
    rfl
  | @opened p l hp hl =>
    obtain ⟨body, rfl, hbody⟩ := hl
    have hscan := piecesFrom_body [] hbody ['"'] []
    rw [List.append_nil] at hscan
    simp only [List.flatMap_cons, List.flatMap_nil, List.append_nil, Piece.chars]
    rw [pieces, piecesFrom_plain hp, hscan]
    simp [piecesFrom]
  | @closed p l ps hp hl _ ih =>
    obtain ⟨body, rfl, hbody, hodd⟩ := hl
    have hscan := piecesFrom_body [] hbody ['"'] ('"' :: ps.flatMap Piece.chars)
    rw [List.nil_append, piecesFrom_mark hodd] at hscan
    simp only [List.flatMap_cons, Piece.chars, List.cons_append, List.append_assoc, List.nil_append]
    rw [pieces, piecesFrom_plain hp, hscan, ← pieces, ih]
    simp

/-! ## Joining texts -/

def EndsOutside (cs : List Char) : Prop :=
  ∃ ps p, pieces cs = ps ++ [.plain p]

theorem AreSplit.plain_append {p q : List Char} {qs : List Piece} (hp : '"' ∉ p) (h : AreSplit (.plain q :: qs)) :
    AreSplit (.plain (p ++ q) :: qs) := by
  cases h with
  | last hq => exact .last (by simp [hp, hq])
  | opened hq hl => exact .opened (by simp [hp, hq]) hl
  | closed hq hl hqs => exact .closed (by simp [hp, hq]) hl hqs

theorem AreSplit.join {ps qs : List Piece} {p q : List Char} (hps : AreSplit (ps ++ [.plain p]))
    (hqs : AreSplit (.plain q :: qs)) : AreSplit (ps ++ .plain (p ++ q) :: qs) := by
  generalize heq : ps ++ [.plain p] = rs at hps
  induction hps generalizing ps with
  | @last r hr =>
    have heq : ps ++ [.plain p] = [] ++ [.plain r] := heq
    obtain ⟨rfl, hp⟩ := List.append_inj' heq rfl
    cases hp
    exact hqs.plain_append hr
  | @opened r l hr hl =>
    have heq : ps ++ [.plain p] = [.plain r] ++ [.literal l] := heq
    cases (List.append_inj' heq rfl).2
  | @closed r l rs hr hl hrs ih =>
    match ps, heq with
    | [], heq => cases heq
    | [_], heq => cases heq
    | _ :: _ :: ps, heq =>
      cases heq
      exact .closed hr hl (ih rfl)

theorem pieces_append {a b : List Char} {ps qs : List Piece} {p q : List Char} (ha : pieces a = ps ++ [.plain p])
    (hb : pieces b = .plain q :: qs) : pieces (a ++ b) = ps ++ .plain (p ++ q) :: qs := by
  have hjoin := AreSplit.join (ha ▸ areSplit_pieces a) (hb ▸ areSplit_pieces b)
  have hchars : (ps ++ Piece.plain (p ++ q) :: qs).flatMap Piece.chars = a ++ b := by
    have hleft := flatMap_chars_pieces a
    have hright := flatMap_chars_pieces b
    rw [ha] at hleft
    rw [hb] at hright
    rw [← hleft, ← hright]
    simp [Piece.chars]
  rw [← hchars, hjoin.pieces_eq]

theorem pieces_literal {l : List Char} (h : IsLiteral l) (b : List Char) :
    pieces (l ++ b) = .plain [] :: .literal l :: pieces b := by
  have hchars : (Piece.plain [] :: .literal l :: pieces b).flatMap Piece.chars = l ++ b := by
    simp [Piece.chars, flatMap_chars_pieces]
  rw [← hchars, (AreSplit.closed (by simp) h (areSplit_pieces b)).pieces_eq]

theorem pieces_openLiteral {l : List Char} (h : IsOpenLiteral l) : pieces l = [.plain [], .literal l] := by
  have hchars : [Piece.plain [], .literal l].flatMap Piece.chars = l := by simp [Piece.chars]
  rw [← hchars, (AreSplit.opened (by simp) h).pieces_eq, hchars]

theorem isLiteral_iff (l : List Char) : IsLiteral l ↔ pieces l = [.plain [], .literal l, .plain []] := by
  constructor
  · intro h
    have hpieces := pieces_literal h []
    rwa [List.append_nil] at hpieces
  · intro h
    have hsplit := areSplit_pieces l
    rw [h] at hsplit
    cases hsplit with
    | closed _ hl _ => exact hl

theorem isOpenLiteral_iff (l : List Char) : IsOpenLiteral l ↔ pieces l = [.plain [], .literal l] := by
  constructor
  · exact pieces_openLiteral
  · intro h
    have hsplit := areSplit_pieces l
    rw [h] at hsplit
    cases hsplit with
    | opened _ hl => exact hl
    | closed _ _ hps => cases hps

instance : DecidablePred IsLiteral := fun l => decidable_of_iff _ (isLiteral_iff l).symm

instance : DecidablePred IsOpenLiteral := fun l => decidable_of_iff _ (isOpenLiteral_iff l).symm

/-! ## Scripts -/

/-- A piece with its text changed if it is plain. -/
def Piece.onPlain (f : List Char → List Char) : Piece → Piece
  | plain p => plain (f p)
  | literal l => literal l

theorem mapPlain_eq (f : List Char → List Char) (cs : List Char) :
    mapPlain f cs = ((pieces cs).map (Piece.onPlain f)).flatMap Piece.chars := by
  rw [mapPlain, List.flatMap_map]
  refine List.flatMap_congr fun piece _ => ?_
  cases piece <;> rfl

theorem AreSplit.onPlain {f : List Char → List Char} (hf : ∀ p, '"' ∉ p → '"' ∉ f p) {ps : List Piece}
    (h : AreSplit ps) : AreSplit (ps.map (Piece.onPlain f)) := by
  induction h with
  | last hp => exact .last (hf _ hp)
  | opened hp hl => exact .opened (hf _ hp) hl
  | closed hp hl _ ih => exact .closed (hf _ hp) hl ih

theorem isOrdinary_of_mem_script (r : Reference) : ∀ c ∈ r.script, isOrdinary c = true := by
  have hdigits : ∀ n : Nat, ∀ c ∈ Nat.toDigits 10 n, isOrdinary c = true := fun n c hc =>
    isOrdinary_of_isAlphanum (isAlphanum_of_isDigit (isDigit_of_mem_toDigits hc))
  have hcomma : ∀ c ∈ ", ".toList, isOrdinary c = true := List.all_eq_true.mp rfl
  have hclose : ∀ c ∈ [')'], isOrdinary c = true := List.all_eq_true.mp rfl
  cases r with
  | cell r =>
    have hopen : ∀ c ∈ "CELL(".toList, isOrdinary c = true := List.all_eq_true.mp rfl
    unfold Reference.script
    simp only [List.forall_mem_append]
    exact ⟨⟨⟨⟨hopen, hdigits _⟩, hcomma⟩, hdigits _⟩, hclose⟩
  | range a b =>
    have hopen : ∀ c ∈ "RANGE(".toList, isOrdinary c = true := List.all_eq_true.mp rfl
    unfold Reference.script
    simp only [List.forall_mem_append]
    exact ⟨⟨⟨⟨⟨⟨⟨⟨hopen, hdigits _⟩, hcomma⟩, hdigits _⟩, hcomma⟩, hdigits _⟩, hcomma⟩, hdigits _⟩, hclose⟩

/-- Expansion brings in the characters of calls only, and it drops the anchors. -/
theorem isOrdinary_or_of_mem_expandPlain {p : List Char} {c : Char} (h : c ∈ expandPlain p) :
    isOrdinary c = true ∨ c ∈ p ∧ c ≠ '$' := by
  rw [expandPlain_eq, expandRuns, List.mem_flatMap] at h
  obtain ⟨part, hpart, hc⟩ := h
  cases part with
  | reference r written => exact .inl (isOrdinary_of_mem_script r c hc)
  | text cs =>
    have hmem : c ∈ (parts (runs (p.filter (· != '$')))).flatMap Part.written :=
      List.mem_flatMap.mpr ⟨_, hpart, hc⟩
    rw [flatMap_written_parts, flatten_runs, List.mem_filter] at hmem
    exact .inr ⟨hmem.1, by simpa using hmem.2⟩

theorem mark_notMem_expandPlain {p : List Char} (h : '"' ∉ p) : '"' ∉ expandPlain p := by
  intro hmark
  obtain hordinary | hmem := isOrdinary_or_of_mem_expandPlain hmark
  · exact absurd hordinary (by decide)
  · exact h hmem.1

theorem anchor_notMem_expandPlain (p : List Char) : '$' ∉ expandPlain p := by
  intro hanchor
  obtain hordinary | hmem := isOrdinary_or_of_mem_expandPlain hanchor
  · exact absurd hordinary (by decide)
  · exact hmem.2 rfl

theorem pieces_toScript (s : String) :
    pieces (toScript s).toList = (pieces s.toList).map (Piece.onPlain expandPlain) := by
  rw [toScript, String.toList_ofList, mapPlain_eq,
    ((areSplit_pieces s.toList).onPlain fun _ => mark_notMem_expandPlain).pieces_eq]

theorem mapPlain_literal (f : List Char → List Char) {a l : List Char} (ha : EndsOutside a) (hl : IsLiteral l)
    (b : List Char) : mapPlain f (a ++ l ++ b) = mapPlain f a ++ l ++ mapPlain f b := by
  obtain ⟨ps, p, ha⟩ := ha
  have hpieces := pieces_append ha (pieces_literal hl b)
  rw [List.append_assoc, mapPlain, hpieces, mapPlain, ha, mapPlain]
  simp

theorem mapPlain_openLiteral (f : List Char → List Char) {a l : List Char} (ha : EndsOutside a)
    (hl : IsOpenLiteral l) : mapPlain f (a ++ l) = mapPlain f a ++ l := by
  obtain ⟨ps, p, ha⟩ := ha
  have hpieces := pieces_append ha (pieces_openLiteral hl)
  rw [mapPlain, hpieces, mapPlain, ha]
  simp

/-- A literal splits the expansion of a formula, whatever comes before and after it, and one without its
closing mark ends it. In every formula, therefore, the plain text is expanded and the literals stay. -/
theorem toScript_literals :
    (∀ a l b : String, EndsOutside a.toList → IsLiteral l.toList →
      toScript (a ++ l ++ b) = toScript a ++ l ++ toScript b) ∧
    (∀ a l : String, EndsOutside a.toList → IsOpenLiteral l.toList → toScript (a ++ l) = toScript a ++ l) ∧
    ∀ s : String, AreSplit (pieces s.toList) ∧ (pieces s.toList).flatMap Piece.chars = s.toList ∧
      pieces (toScript s).toList = (pieces s.toList).map (Piece.onPlain expandPlain) := by
  refine ⟨?_, ?_, fun s => ⟨areSplit_pieces _, flatMap_chars_pieces _, pieces_toScript s⟩⟩
  · intro a l b ha hl
    apply String.toList_inj.mp
    simp only [toScript, String.toList_append, String.toList_ofList]
    exact mapPlain_literal expandPlain ha hl b.toList
  · intro a l ha hl
    apply String.toList_inj.mp
    simp only [toScript, String.toList_append, String.toList_ofList]
    exact mapPlain_openLiteral expandPlain ha hl

theorem toScript_literals_escaped :
    EndsOutside "A1 & \"\" & ".toList ∧ IsLiteral "\"B2\\\"\\\\\"".toList ∧ IsOpenLiteral "\"D4\\\"".toList ∧
      toScript ("A1 & \"\" & " ++ "\"B2\\\"\\\\\"" ++ " & $C$3") =
        toScript "A1 & \"\" & " ++ "\"B2\\\"\\\\\"" ++ " & CELL(2, 2)" ∧
      toScript ("A1 & \"\" & " ++ "\"D4\\\"") = toScript "A1 & \"\" & " ++ "\"D4\\\"" := by
  have ha : EndsOutside "A1 & \"\" & ".toList :=
    ⟨[.plain "A1 & ".toList, .literal "\"\"".toList], " & ".toList, by decide⟩
  have hl : IsLiteral "\"B2\\\"\\\\\"".toList := by decide
  have hopen : IsOpenLiteral "\"D4\\\"".toList := by decide
  have hrest : toScript " & $C$3" = " & CELL(2, 2)" := by decide
  refine ⟨ha, hl, hopen, ?_, toScript_literals.2.1 _ _ ha hopen⟩
  rw [toScript_literals.1 _ _ " & $C$3" ha hl, hrest]

end Worksheet.Formula
