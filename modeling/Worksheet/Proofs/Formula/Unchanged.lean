import Worksheet.Proofs.Formula.Literals
import Worksheet.Script.Lexer

/-!
# Formulas that are their own scripts

A formula is left as it is if its plain text holds no anchor and no reference. Texts in quotation marks hold
no plain text; those in backquotes do.

* `IsInert`, `expandPlain_eq_self_iff`, `toScript_eq_self_iff` : what is left as it is;
* `expandFrom_join`, `untouched_intercalate` : texts added to each other are expanded one by one;
* `IsQuotedText`, `isSealed_piecesFrom` : where the scanner finds the end of a quoted text, so does the lexer;
* `toScript_texts` : sums of texts.
-/

namespace Worksheet.Formula

open Text Decimal CellRef Script

/-! ## Counting calls -/

def Part.isReference : Part → Bool
  | .text _ => false
  | .reference _ _ => true

theorem count_eq_zero_of_forall {p : Char → Bool} (hp : p '(' = false) {cs : List Char}
    (h : ∀ c ∈ cs, p c = true) : cs.count '(' = 0 := by
  rw [List.count_eq_zero]
  intro hmem
  rw [h _ hmem] at hp
  cases hp

theorem count_toDigits (n : Nat) : (Nat.toDigits 10 n).count '(' = 0 :=
  count_eq_zero_of_forall (p := Char.isDigit) (by decide) fun _ => isDigit_of_mem_toDigits

theorem count_script (r : Reference) : r.script.count '(' = 1 := by
  have hcomma : ", ".toList.count '(' = 0 := by decide
  cases r with
  | cell r =>
    have hopen : "CELL(".toList.count '(' = 1 := by decide
    unfold Reference.script
    simp only [List.count_append, hopen, hcomma, count_toDigits]
    rfl
  | range a b =>
    have hopen : "RANGE(".toList.count '(' = 1 := by decide
    unfold Reference.script
    simp only [List.count_append, hopen, hcomma, count_toDigits]
    rfl

theorem count_of_isNameShaped {run : List Char} (h : isNameShaped run = true) : run.count '(' = 0 :=
  count_eq_zero_of_forall (by decide) (isAlphanum_of_isNameShaped h)

theorem count_of_isColon {run : List Char} (h : isColon run = true) : run.count '(' = 0 := by
  obtain ⟨before, after, rfl, hbefore, hafter⟩ := (isColon_iff run).mp h
  have hspace : isWhiteSpace '(' = false := by decide
  rw [List.count_append, count_eq_zero_of_forall hspace hbefore, List.count_cons_of_ne (by decide),
    count_eq_zero_of_forall hspace hafter]

theorem count_ofPair {first colon second : List Char} (h₁ : isNameShaped first = true) (h : isColon colon = true)
    (h₂ : isNameShaped second = true) :
    (Part.ofPair first colon second).script.count '(' =
      (first ++ colon ++ second).count '(' + if (Part.ofPair first colon second).isReference then 1 else 0 := by
  have hwritten : (first ++ colon ++ second).count '(' = 0 := by
    rw [List.count_append, List.count_append, count_of_isNameShaped h₁, count_of_isColon h, count_of_isNameShaped h₂]
  rw [hwritten, Nat.zero_add]
  unfold Part.ofPair
  split
  · rw [Part.script, count_script]
    rfl
  · exact hwritten

theorem count_ofRun (run : List Char) :
    (Part.ofRun run).script.count '(' = run.count '(' + if (Part.ofRun run).isReference then 1 else 0 := by
  unfold Part.ofRun
  split
  · rename_i hshaped
    unfold Part.ofName
    split
    · simp [Part.script, Part.isReference, count_script, count_of_isNameShaped hshaped]
    · simp [Part.script, Part.isReference]
  · simp [Part.script, Part.isReference]

theorem count_parts (rs : List (List Char)) :
    ((parts rs).flatMap Part.script).count '(' = rs.flatten.count '(' + (parts rs).countP Part.isReference := by
  fun_induction parts rs with
  | case1 first colon second rest hpair ih =>
    simp only [Bool.and_eq_true] at hpair
    rw [List.flatMap_cons, List.count_append, ih, count_ofPair hpair.1.1 hpair.1.2 hpair.2, List.countP_cons]
    simp only [List.flatten_cons, List.count_append]
    omega
  | case2 run colon second rest hpair ih =>
    rw [List.flatMap_cons, List.count_append, ih, count_ofRun, List.countP_cons]
    simp only [List.flatten_cons, List.count_append]
    omega
  | case3 run rest hshort ih =>
    rw [List.flatMap_cons, List.count_append, ih, count_ofRun, List.countP_cons]
    simp only [List.flatten_cons, List.count_append]
    omega
  | case4 => rfl

/-! ## Text that stays as it is -/

def IsInert (cs : List Char) : Prop :=
  '$' ∉ cs ∧ ∀ part ∈ parts (runs cs), part.isReference = false

instance : DecidablePred IsInert := fun cs =>
  inferInstanceAs (Decidable ('$' ∉ cs ∧ ∀ part ∈ parts (runs cs), part.isReference = false))

theorem filter_anchor {cs : List Char} (h : '$' ∉ cs) : cs.filter (· != '$') = cs := by
  rw [List.filter_eq_self]
  intro c hc
  rw [bne_iff_ne]
  rintro rfl
  exact h hc

theorem count_expandPlain (cs : List Char) :
    (expandPlain cs).count '(' = cs.count '(' + (parts (runs (cs.filter (· != '$')))).countP Part.isReference := by
  rw [expandPlain_eq, expandRuns, count_parts, flatten_runs, List.count_filter (by decide)]

theorem expandPlain_eq_self_iff (cs : List Char) : expandPlain cs = cs ↔ IsInert cs := by
  constructor
  · intro h
    have hanchor : '$' ∉ cs := h ▸ anchor_notMem_expandPlain cs
    have hcount := count_expandPlain cs
    rw [h, filter_anchor hanchor, left_eq_add, List.countP_eq_zero] at hcount
    exact ⟨hanchor, fun part hpart => Bool.not_eq_true _ ▸ hcount part hpart⟩
  · rintro ⟨hanchor, hparts⟩
    have hkept : (parts (runs cs)).flatMap Part.script = (parts (runs cs)).flatMap Part.written := by
      refine List.flatMap_congr fun part hpart => ?_
      cases part with
      | text cs => rfl
      | reference r written => cases hparts _ hpart
    rw [expandPlain_eq, filter_anchor hanchor, expandRuns, hkept, flatMap_written_parts, flatten_runs]

def IsUntouched (cs : List Char) : Prop :=
  ∀ p, Piece.plain p ∈ pieces cs → IsInert p

theorem toScript_eq_self_iff (s : String) : toScript s = s ↔ IsUntouched s.toList := by
  constructor
  · intro h p hp
    have hpieces : (pieces s.toList).map (Piece.onPlain expandPlain) = (pieces s.toList).map id := by
      rw [← pieces_toScript, h, List.map_id]
    have hkept := List.map_inj_left.mp hpieces _ hp
    exact (expandPlain_eq_self_iff p).mp (Piece.plain.inj hkept)
  · intro h
    have hkept : (pieces s.toList).map (Piece.onPlain expandPlain) = (pieces s.toList).map id := by
      refine List.map_congr_left fun piece hpiece => ?_
      cases piece with
      | plain p => exact congrArg Piece.plain ((expandPlain_eq_self_iff p).mpr (h p hpiece))
      | literal l => rfl
    rw [toScript, mapPlain_eq, hkept, List.map_id, flatMap_chars_pieces, String.ofList_toList]

/-! ## Sums -/

section Join

variable (rest : List Char)

theorem atWordEnd_join (cs : List Char) : atWordEnd (cs ++ ' ' :: '+' :: rest) = atWordEnd cs := by
  cases cs <;> rfl

theorem stops_isWord_join : Stops isWord (' ' :: '+' :: rest) :=
  Stops.cons (by decide) _

theorem takeRangeEnd?_join (cs : List Char) :
    takeRangeEnd? (cs ++ ' ' :: '+' :: rest) =
      (takeRangeEnd? cs).map fun p => (p.1, p.2 ++ ' ' :: '+' :: rest) := by
  have hplus : (' ' :: '+' :: rest).dropWhile isWhiteSpace = '+' :: rest := rfl
  rw [takeRangeEnd?, takeRangeEnd?, List.dropWhile_append, hplus]
  cases hdrop : cs.dropWhile isWhiteSpace with
  | nil => rfl
  | cons c ds =>
    by_cases hc : c = ':'
    · subst hc
      simp only [List.isEmpty_cons, Bool.false_eq_true, if_false, List.cons_append, List.dropWhile_append, hplus]
      cases ds.dropWhile isWhiteSpace with
      | nil => rfl
      | cons d es =>
        simp only [List.isEmpty_cons, Bool.false_eq_true, if_false, takeName?_append _ (stops_isWord_join rest)]
        cases takeName? (d :: es) with
        | none => rfl
        | some p => cases hend : atWordEnd p.2 <;> simp [atWordEnd_join, hend]
    · simp [hc]

theorem matchAt?_join (cs : List Char) :
    matchAt? (cs ++ ' ' :: '+' :: rest) =
      (matchAt? cs).map fun m => ⟨m.first, m.second, m.rest ++ ' ' :: '+' :: rest⟩ := by
  rw [matchAt?, matchAt?, takeName?_append cs (stops_isWord_join rest)]
  cases takeName? cs with
  | none => rfl
  | some p =>
    obtain ⟨name, after⟩ := p
    simp only [Option.map_some, Option.bind_eq_bind, Option.bind_some, takeRangeEnd?_join, atWordEnd_join]
    cases takeRangeEnd? after with
    | some second => rfl
    | none => cases atWordEnd after <;> simp

theorem expandFrom_join (afterWord : Bool) (cs : List Char) :
    expandFrom 0 afterWord (cs ++ ' ' :: '+' :: rest) =
      expandFrom 0 afterWord cs ++ ' ' :: '+' :: expandFrom 0 false rest := by
  match cs with
  | [] =>
    show expandFrom 0 afterWord ([' ', '+'] ++ rest) = [' ', '+'] ++ expandFrom 0 false rest
    exact expandFrom_gap (by simp; decide) (by simp) afterWord rest
  | c :: cs =>
    have hjoin := matchAt?_join rest (c :: cs)
    cases afterWord with
    | true => rw [List.cons_append, expandFrom_afterWord, expandFrom_afterWord, expandFrom_join, List.cons_append]
    | false =>
      cases hmatch : matchAt? (c :: cs) with
      | none =>
        rw [hmatch, Option.map_none] at hjoin
        rw [List.cons_append] at hjoin ⊢
        rw [expandFrom_of_no_candidate hjoin, expandFrom_of_no_candidate hmatch, expandFrom_join, List.cons_append]
      | some m =>
        obtain ⟨written, hne, hsplit, -⟩ := matchAt?_some hmatch
        have hshorter : m.rest.length < (c :: cs).length := by
          have hpos := List.length_pos_of_ne_nil hne
          rw [hsplit, List.length_append]
          omega
        rw [hmatch, Option.map_some, hsplit, List.append_assoc] at hjoin
        rw [hsplit] at hmatch ⊢
        rw [List.append_assoc, expandFrom_match hne hjoin rfl, expandFrom_match hne hmatch rfl, expandFrom_join,
          List.append_assoc]
        rfl
termination_by cs.length
decreasing_by
  · exact Nat.lt_succ_self _
  · exact hshorter
  · exact Nat.lt_succ_self _

end Join

theorem expandPlain_join (p q : List Char) :
    expandPlain (p ++ " + ".toList ++ q) = expandPlain p ++ " + ".toList ++ expandPlain q := by
  have hspace : expandFrom 0 false ([' '] ++ q.filter (· != '$')) = [' '] ++ expandPlain q :=
    expandFrom_gap (by simp; decide) (by simp) false _
  have hfilter : (p ++ " + ".toList ++ q).filter (· != '$') =
      p.filter (· != '$') ++ ' ' :: '+' :: ' ' :: q.filter (· != '$') := by
    rw [List.filter_append, List.filter_append, List.append_assoc]
    rfl
  rw [List.singleton_append] at hspace
  rw [expandPlain, hfilter, expandFrom_join, hspace, ← expandPlain, List.append_assoc]
  rfl

theorem isInert_iff_count (cs : List Char) :
    IsInert cs ↔ '$' ∉ cs ∧ (expandPlain cs).count '(' = cs.count '(' := by
  refine and_congr_right fun hanchor => ?_
  rw [count_expandPlain, filter_anchor hanchor, Nat.add_eq_left, List.countP_eq_zero]
  simp

theorem count_le_expandPlain (cs : List Char) : cs.count '(' ≤ (expandPlain cs).count '(' := by
  rw [count_expandPlain]
  exact Nat.le_add_right _ _

theorem isInert_join (p q : List Char) : IsInert (p ++ " + ".toList ++ q) ↔ IsInert p ∧ IsInert q := by
  -- Neither text can lose what the other one gains, as expansion never takes a parenthesis away.
  have hanchor : '$' ∉ " + ".toList := by decide
  have hp := count_le_expandPlain p
  have hq := count_le_expandPlain q
  rw [isInert_iff_count, isInert_iff_count, isInert_iff_count, expandPlain_join]
  simp only [List.mem_append, List.count_append, not_or, hanchor, not_false_eq_true, and_true]
  constructor
  · rintro ⟨⟨hpAnchor, hqAnchor⟩, hcount⟩
    exact ⟨⟨hpAnchor, by omega⟩, hqAnchor, by omega⟩
  · rintro ⟨⟨hpAnchor, hpCount⟩, hqAnchor, hqCount⟩
    exact ⟨⟨hpAnchor, hqAnchor⟩, by omega⟩

theorem exists_pieces (cs : List Char) : ∃ p ps, pieces cs = .plain p :: ps := by
  have hsplit := areSplit_pieces cs
  generalize pieces cs = ps at hsplit
  cases hsplit with
  | last => exact ⟨_, _, rfl⟩
  | opened => exact ⟨_, _, rfl⟩
  | closed => exact ⟨_, _, rfl⟩

/-- A text that ends outside a literal and another text added to it are left as they are together if each
of them is. -/
theorem untouched_join {x : List Char} (hx : EndsOutside x) (y : List Char) :
    IsUntouched (x ++ " + ".toList ++ y) ↔ IsUntouched x ∧ IsUntouched y := by
  obtain ⟨ps, p, hpieces⟩ := hx
  obtain ⟨q, qs, hrest⟩ := exists_pieces y
  have hplus : pieces " + ".toList = [] ++ [.plain " + ".toList] := by decide
  have hsum := pieces_append hpieces (pieces_append hplus hrest)
  unfold IsUntouched
  rw [List.append_assoc, hsum, hpieces, hrest, ← List.append_assoc]
  simp only [List.mem_append, List.mem_cons, List.not_mem_nil, or_false, or_imp, forall_and, Piece.plain.injEq,
    forall_eq, isInert_join]
  tauto

theorem untouched_intercalate {ls : List (List Char)} (h : ∀ l ∈ ls, EndsOutside l) :
    IsUntouched (" + ".toList.intercalate ls) ↔ ∀ l ∈ ls, IsUntouched l := by
  induction ls with
  | nil =>
    have hempty : IsUntouched [] := by
      intro p hp
      obtain rfl : p = [] := by simpa [pieces, piecesFrom] using hp
      decide
    simpa using hempty
  | cons l ls ih =>
    obtain ⟨hl, hls⟩ := List.forall_mem_cons.mp h
    cases ls with
    | nil => simp
    | cons l' ls =>
      rw [List.intercalate_cons_cons, untouched_join hl, ih hls, List.forall_mem_cons (a := l)]

/-! ## Texts of a script -/

/-- A text in quotation marks that the lexer reads to its end. -/
def IsQuotedText (l : List Char) : Prop :=
  ∃ body t, l = '"' :: body ∧ Lexer.readText body = some (t, [])

/-- What begins with a backquote: the texts in backquotes, those with blocks in them too. -/
def IsBackquoted (l : List Char) : Prop :=
  ∃ body, l = Lexer.backquote :: body

def IsBackquotedText (l : List Char) : Prop :=
  ∃ body t, l = Lexer.backquote :: body ∧
    Lexer.readVerbatim (Lexer.dropLineBreak body) = some (t, Lexer.PieceEnd.closed, [])

theorem IsBackquotedText.backquoted {l : List Char} (h : IsBackquotedText l) : IsBackquoted l := by
  obtain ⟨body, -, hl, -⟩ := h
  exact ⟨body, hl⟩

theorem quotedFrom_skip (mark : Char) (continues : Bool) (read xs rest : List Char) :
    Lexer.quotedFrom mark continues xs.length read (xs ++ rest) = Lexer.quotedFrom mark continues 0 read rest := by
  induction xs with
  | nil => rfl
  | cons x xs ih => exact ih

theorem exists_of_readEscape {mark d : Char} {cs rest : List Char} (h : Lexer.readEscape mark cs = some (d, rest)) :
    ∃ c ds, cs = c :: (ds ++ rest) ∧ ∀ e ∈ ds, Lexer.isDigitOf 16 e = true := by
  cases cs with
  | nil => cases h
  | cons c cs =>
    rw [Lexer.readEscape] at h
    by_cases hletter : c = mark ∨ c = '\\' ∨ c = 'n' ∨ c = 'r' ∨ c = 't'
    · have hrest : cs = rest := by
        grind
      exact ⟨c, [], by rw [hrest, List.nil_append], by simp⟩
    · simp only [not_or] at hletter
      obtain ⟨hmark, hslash, hn, hr, ht⟩ := hletter
      rw [if_neg (by simp [hmark, hslash]), if_neg hn, if_neg hr, if_neg ht] at h
      split at h
      · rename_i width _
        simp only at h
        split at h
        · rename_i hdigits
          obtain ⟨_, -, heq⟩ := Option.map_eq_some_iff.mp h
          have hrest : cs.drop width = rest := (Prod.mk.inj heq).2
          exact ⟨c, cs.take width, by rw [← hrest, List.take_append_drop], List.all_eq_true.mp hdigits.2⟩
        · cases h
      · cases h

/-- How a quoted text that ends with its closing mark goes on: it ends, or a doubled mark, an escape or the
end of a line after a backslash, or another character comes next. -/
theorem quotedFrom_cases {read out cs : List Char} {c : Char}
    (h : Lexer.quotedFrom '"' true 0 read (c :: cs) = some (out, [])) :
    (c = '"' ∧ cs = []) ∨
    (∃ rest read, c = '"' ∧ cs = '"' :: rest ∧ Lexer.quotedFrom '"' true 0 read rest = some (out, [])) ∨
    (∃ d ds rest read, c = '\\' ∧ cs = d :: (ds ++ rest) ∧ (∀ e ∈ ds, e ≠ '\\' ∧ e ≠ '"') ∧
      Lexer.quotedFrom '"' true 0 read rest = some (out, [])) ∨
    (c ≠ '"' ∧ c ≠ '\\' ∧ ∃ read, Lexer.quotedFrom '"' true 0 read cs = some (out, [])) := by
  rw [Lexer.quotedFrom.eq_def] at h
  simp only at h
  split at h
  · rename_i hc
    subst hc
    split at h
    · rename_i d ds
      split at h
      · rename_i hd
        exact .inr (.inl ⟨ds, _, rfl, by rw [hd], h⟩)
      · cases h
    · exact .inl ⟨rfl, rfl⟩
  · rename_i hmark
    split at h
    · cases h
    · split at h
      · rename_i hslash
        refine .inr (.inr (.inl ?_))
        split at h
        · rename_i line
          have hsplit : '\n' :: line = ('\n' :: line.takeWhile fun d => d = ' ' || d = '\t') ++
              line.dropWhile fun d => d = ' ' || d = '\t' := by
            rw [List.cons_append, List.takeWhile_append_dropWhile]
          rw [if_pos trivial, Nat.add_comm, hsplit] at h
          have hrest := (quotedFrom_skip _ _ _ _ _).symm.trans h
          refine ⟨'\n', _, _, _, hslash, hsplit, fun e he => ?_, hrest⟩
          have hblank : e = ' ' ∨ e = '\t' := by simpa using List.all_eq_true.mp List.all_takeWhile e he
          obtain rfl | rfl := hblank <;> decide
        · split at h
          · rename_i d rest hescape
            obtain ⟨e, ds, rfl, hds⟩ := exists_of_readEscape hescape
            have hlength : (e :: (ds ++ rest)).length - rest.length = (e :: ds).length := by
              simp only [List.length_cons, List.length_append]
              omega
            rw [hlength] at h
            have hrest := (quotedFrom_skip _ _ _ (e :: ds) rest).symm.trans h
            refine ⟨e, ds, rest, _, hslash, rfl, fun c hc => ?_, hrest⟩
            have hdigit := hds c hc
            constructor <;> rintro rfl <;> exact absurd hdigit (by decide)
          · cases h
      · rename_i hslash
        exact .inr (.inr (.inr ⟨hmark, hslash, _, h⟩))

/-- Text in which no plain text stands between the literals, and none after the last one. -/
def IsSealed (ps : List Piece) : Prop :=
  (∀ p, .plain p ∈ ps → p = []) ∧ ∃ qs, ps = qs ++ [.plain []]

theorem IsSealed.cons_literal {ps : List Piece} (h : IsSealed ps) (l : List Char) : IsSealed (.literal l :: ps) := by
  obtain ⟨hplain, qs, rfl⟩ := h
  exact ⟨by simpa using hplain, .literal l :: qs, rfl⟩

theorem IsSealed.cons_plain {ps : List Piece} (h : IsSealed ps) : IsSealed (.plain [] :: ps) := by
  obtain ⟨hplain, qs, rfl⟩ := h
  exact ⟨by simpa using hplain, .plain [] :: qs, rfl⟩

theorem isSealed_end : IsSealed [.plain []] :=
  ⟨by simp, [], rfl⟩

theorem piecesFrom_inside_other {c : Char} (hslash : c ≠ '\\') (hmark : c ≠ '"') (read cs : List Char) :
    piecesFrom (.inside false) read (c :: cs) = piecesFrom (.inside false) (c :: read) cs := by
  rw [piecesFrom]
  simp [hslash, hmark]

theorem exists_piecesFrom_escape (d : Char) {ds : List Char} (hds : ∀ e ∈ ds, e ≠ '\\' ∧ e ≠ '"')
    (read rest : List Char) :
    ∃ read', piecesFrom (.inside false) read ('\\' :: d :: (ds ++ rest)) = piecesFrom (.inside false) read' rest := by
  have hescape : piecesFrom (.inside false) read ('\\' :: d :: (ds ++ rest)) =
      piecesFrom (.inside false) (d :: '\\' :: read) (ds ++ rest) := by
    by_cases hd : d = '\\' <;> simp [piecesFrom, hd]
  rw [hescape]
  clear hescape
  generalize d :: '\\' :: read = read'
  induction ds generalizing read' with
  | nil => exact ⟨read', rfl⟩
  | cons e ds ih =>
    obtain ⟨he, hds⟩ := List.forall_mem_cons.mp hds
    rw [List.cons_append, piecesFrom_inside_other he.1 he.2]
    exact ih hds (e :: read')

/-- Where the lexer reads a quoted text to its end, the scanner finds literals only. -/
theorem isSealed_piecesFrom {read out cs : List Char} (h : Lexer.quotedFrom '"' true 0 read cs = some (out, []))
    (read' : List Char) : IsSealed (piecesFrom (.inside false) read' cs) := by
  match cs with
  | [] => cases h
  | c :: cs =>
    obtain ⟨rfl, rfl⟩ | ⟨rest, read, rfl, rfl, hrest⟩ | ⟨d, ds, rest, read, rfl, rfl, hds, hrest⟩ |
      ⟨hmark, hslash, read, hrest⟩ := quotedFrom_cases h
    · rw [piecesFrom_mark rfl]
      exact isSealed_end.cons_literal _
    · rw [piecesFrom_mark rfl]
      exact ((isSealed_piecesFrom hrest ['"']).cons_plain).cons_literal _
    · obtain ⟨read', hescape⟩ := exists_piecesFrom_escape d hds read' rest
      rw [hescape]
      exact isSealed_piecesFrom hrest read'
    · rw [piecesFrom_inside_other hslash hmark]
      exact isSealed_piecesFrom hrest _
termination_by cs.length

theorem IsQuotedText.isSealed {l : List Char} (h : IsQuotedText l) : IsSealed (pieces l) := by
  obtain ⟨body, t, rfl, hread⟩ := h
  obtain ⟨⟨out, rest⟩, hquoted, heq⟩ := Option.map_eq_some_iff.mp hread
  obtain rfl : rest = [] := (Prod.mk.inj heq).2
  exact (isSealed_piecesFrom hquoted ['"']).cons_plain

theorem IsSealed.endsOutside {l : List Char} (h : IsSealed (pieces l)) : EndsOutside l := by
  obtain ⟨qs, hqs⟩ := h.2
  exact ⟨qs, [], hqs⟩

theorem IsSealed.untouched {l : List Char} (h : IsSealed (pieces l)) : IsUntouched l := by
  intro p hp
  rw [h.1 p hp]
  decide

theorem IsQuotedText.not_backquoted {l : List Char} (h : IsQuotedText l) : ¬ IsBackquoted l := by
  rintro ⟨_, hback⟩
  obtain ⟨_, _, rfl, -⟩ := h
  exact absurd (List.cons.inj hback).1 (by decide)

/-- A sum of texts is its own script just if its plain text holds no anchor and no reference. If the texts in
backquotes end outside literals, only they count: quoted texts, whatever is in them, are left as they are,
while in backquotes everything outside quotation marks is plain text. -/
theorem toScript_texts {ls : List String} (hls : ∀ l ∈ ls, IsQuotedText l.toList ∨ IsBackquoted l.toList) :
    (toScript (" + ".intercalate ls) = " + ".intercalate ls ↔ IsUntouched (" + ".intercalate ls).toList) ∧
    ((∀ l ∈ ls, IsBackquoted l.toList → EndsOutside l.toList) →
      (IsUntouched (" + ".intercalate ls).toList ↔ ∀ l ∈ ls, IsBackquoted l.toList → IsUntouched l.toList)) := by
  refine ⟨toScript_eq_self_iff _, fun hends => ?_⟩
  have hends : ∀ l ∈ ls.map String.toList, EndsOutside l := by
    intro l hl
    obtain ⟨s, hs, rfl⟩ := List.mem_map.mp hl
    obtain hquoted | hbackquoted := hls s hs
    · exact hquoted.isSealed.endsOutside
    · exact hends s hs hbackquoted
  rw [String.toList_intercalate, untouched_intercalate hends, List.forall_mem_map]
  refine forall₂_congr fun l hl => ?_
  obtain hquoted | hbackquoted := hls l hl
  · simp [hquoted.isSealed.untouched, hquoted.not_backquoted]
  · simp [hbackquoted]

theorem toScript_texts_escaped :
    IsQuotedText "\"A1 \\\"$B2\\\" \"\"C3\"".toList ∧
      IsBackquotedText "\x60no cell, \"D4\"\x60".toList ∧ EndsOutside "\x60no cell, \"D4\"\x60".toList ∧
      toScript (" + ".intercalate ["\"A1 \\\"$B2\\\" \"\"C3\"", "\x60no cell, \"D4\"\x60"]) =
        " + ".intercalate ["\"A1 \\\"$B2\\\" \"\"C3\"", "\x60no cell, \"D4\"\x60"] := by
  have hquoted : IsQuotedText "\"A1 \\\"$B2\\\" \"\"C3\"".toList :=
    ⟨_, .text "A1 \"$B2\" \"C3", rfl, rfl⟩
  have hbackquoted : IsBackquotedText "\x60no cell, \"D4\"\x60".toList := ⟨_, .text "no cell, \"D4\"", rfl, rfl⟩
  have hpieces : pieces "\x60no cell, \"D4\"\x60".toList =
      [.plain "\x60no cell, ".toList, .literal "\"D4\"".toList] ++ [.plain "\x60".toList] := by decide
  have hends : EndsOutside "\x60no cell, \"D4\"\x60".toList := ⟨_, _, hpieces⟩
  have huntouched : IsUntouched "\x60no cell, \"D4\"\x60".toList := by
    intro p hp
    rw [hpieces] at hp
    simp only [List.cons_append, List.nil_append, List.mem_cons, Piece.plain.injEq, reduceCtorEq, false_or,
      List.not_mem_nil, or_false] at hp
    obtain rfl | rfl := hp <;> decide
  have htexts := @toScript_texts ["\"A1 \\\"$B2\\\" \"\"C3\"", "\x60no cell, \"D4\"\x60"]
    (List.forall_mem_cons.mpr ⟨.inl hquoted, List.forall_mem_singleton.mpr (.inr hbackquoted.backquoted)⟩)
  refine ⟨hquoted, hbackquoted, hends, htexts.1.mpr ((htexts.2 ?_).mpr ?_)⟩
  · exact List.forall_mem_cons.mpr
      ⟨fun htext => absurd htext hquoted.not_backquoted, List.forall_mem_singleton.mpr fun _ => hends⟩
  · exact List.forall_mem_cons.mpr
      ⟨fun htext => absurd htext hquoted.not_backquoted, List.forall_mem_singleton.mpr fun _ => huntouched⟩

/-- A text in backquotes does not stay as it is where it reads like a reference. -/
theorem not_always_untouched :
    IsBackquotedText "\x60A1\x60".toList ∧ toScript "\x60A1\x60" = "\x60CELL(0, 0)\x60" ∧
      ¬ ∀ ls : List String, (∀ l ∈ ls, IsQuotedText l.toList ∨ IsBackquotedText l.toList) →
        toScript (" + ".intercalate ls) = " + ".intercalate ls := by
  have htext : IsBackquotedText "\x60A1\x60".toList := ⟨_, .text "A1", rfl, rfl⟩
  have hscript : toScript "\x60A1\x60" = "\x60CELL(0, 0)\x60" := by decide
  refine ⟨htext, hscript, fun h => ?_⟩
  have hsame := h ["\x60A1\x60"] (by simpa using .inr htext)
  rw [String.intercalate_singleton, hscript] at hsame
  exact absurd hsame (by decide)

end Worksheet.Formula
