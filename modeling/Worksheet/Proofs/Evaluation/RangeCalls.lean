import Worksheet.Proofs.Evaluation.Places

/-!
# The calls that a range makes

A range has its formulas evaluated by a function that may keep a state of its own. The calls are made one after the
other, row by row, up to the first that fails.

* `Visit.call`, `Visit.Succeeds`, `Visits` : calls, and runs of calls from one state to another;
* `recordingCalls` : an evaluator that keeps a record beside its state;
* `Ends`, `Makes` : computations that make given calls in order, until one fails; `Makes.bind`, `Makes.mapM` : one
  after the other;
* `Grid.callsBetween` : the calls of a range; `Grid.Takes`, `makes_rangeCell`, `makes_resolveRange` : a cell, and a
  range;
* `Grid.Shows`, `Grid.RangeRun` : the rows of a range, and how it ends; `traceRange_run` : the calls of a trace;
* `resolveRange_visits` : ranges of any corners.
-/

namespace Worksheet

/-! ## Runs of calls -/

def Visit.call (v : Visit) : Context × String :=
  (v.context, v.formula)

def Visit.Succeeds (v : Visit) : Prop :=
  ∃ w, v.result = .ok w

section

variable {σ : Type}

/-- Whether an evaluator, called so one time after the other from a state on, gives these results and ends in that
state. -/
inductive Visits (evaluate : Context → String → StateM σ Result) : σ → List Visit → σ → Prop
  | nil (s : σ) : Visits evaluate s [] s
  | cons {s s₁ s₂ : σ} {v : Visit} {visits : List Visit}
      (hv : (evaluate v.context v.formula).run s = (v.result, s₁)) (hrest : Visits evaluate s₁ visits s₂) :
      Visits evaluate s (v :: visits) s₂

theorem Visits.append {evaluate : Context → String → StateM σ Result} {s s₁ s₂ : σ} {before after : List Visit}
    (h : Visits evaluate s before s₁) (h' : Visits evaluate s₁ after s₂) : Visits evaluate s (before ++ after) s₂ := by
  induction h with
  | nil s => exact h'
  | cons hv _ ih => exact .cons hv (ih h')

def recordingCalls (evaluate : Context → String → StateM σ Result) (ctx : Context) (formula : String) :
    StateM (σ × List Visit) Result := do
  let (s, visits) ← get
  let (result, s) := (evaluate ctx formula).run s
  set (s, visits ++ [⟨ctx, formula, result⟩])
  return result

theorem run_recordingCalls {evaluate : Context → String → StateM σ Result} {ctx : Context} {formula : String} {s s' : σ}
    {result : Result} (h : (evaluate ctx formula).run s = (result, s')) (record : List Visit) :
    (recordingCalls evaluate ctx formula).run (s, record) = (result, (s', record ++ [⟨ctx, formula, result⟩])) := by
  have hrun : evaluate ctx formula s = (result, s') := h
  show ((evaluate ctx formula s).1, ((evaluate ctx formula s).2, record ++ [⟨ctx, formula, _⟩])) = _
  rw [hrun]

/-! ## Computations that make calls -/

/-- How calls in a given order end: with all of them made and a value, of which something is known, or with the code
of the first that fails. -/
inductive Ends {α : Type} (calls : List (Context × String)) (R : List Visit → α → Prop) :
    List Visit → Except ErrorCode α → Prop
  | ok {visits : List Visit} {a : α} (hcalls : visits.map Visit.call = calls) (hok : ∀ v ∈ visits, v.Succeeds)
      (ha : R visits a) : Ends calls R visits (.ok a)
  | error {before : List Visit} {last : Visit} {c : ErrorCode} (hcalls : (before ++ [last]).map Visit.call <+: calls)
      (hok : ∀ v ∈ before, v.Succeeds) (hlast : last.result = .error c) : Ends calls R (before ++ [last]) (.error c)

/-- Whether a computation makes these calls of an evaluator. The second one is the same with an evaluator that keeps a
record, so that the calls are those that were in fact made. -/
def Makes {α : Type} (evaluate : Context → String → StateM σ Result) (calls : List (Context × String))
    (R : List Visit → α → Prop) (p : ExceptT ErrorCode (StateM σ) α)
    (p' : ExceptT ErrorCode (StateM (σ × List Visit)) α) : Prop :=
  ∀ s record, ∃ r visits s', p.run.run s = (r, s') ∧ p'.run.run (s, record) = (r, (s', record ++ visits)) ∧
    Visits evaluate s visits s' ∧ Ends calls R visits r

theorem run_bind_ok {α β τ : Type} {p : ExceptT ErrorCode (StateM τ) α} {s s' : τ} {a : α}
    (h : p.run.run s = (.ok a, s')) (f : α → ExceptT ErrorCode (StateM τ) β) :
    (p >>= f).run.run s = (f a).run.run s' := by
  rw [ExceptT.run_bind, StateT.run_bind, h]
  rfl

theorem run_bind_error {α β τ : Type} {p : ExceptT ErrorCode (StateM τ) α} {s s' : τ} {c : ErrorCode}
    (h : p.run.run s = (.error c, s')) (f : α → ExceptT ErrorCode (StateM τ) β) :
    (p >>= f).run.run s = (.error c, s') := by
  rw [ExceptT.run_bind, StateT.run_bind, h]
  rfl

variable {evaluate : Context → String → StateM σ Result}

theorem makes_pure {α : Type} {R : List Visit → α → Prop} {a : α} (ha : R [] a) :
    Makes evaluate [] R (pure a) (pure a) := by
  intro s record
  refine ⟨.ok a, [], s, rfl, ?_, .nil s, .ok rfl (by simp) ha⟩
  rw [List.append_nil]
  rfl

namespace Makes

variable {α β : Type} {calls calls' : List (Context × String)} {R : List Visit → α → Prop}
  {p : ExceptT ErrorCode (StateM σ) α} {p' : ExceptT ErrorCode (StateM (σ × List Visit)) α}
  {f : α → ExceptT ErrorCode (StateM σ) β} {f' : α → ExceptT ErrorCode (StateM (σ × List Visit)) β}

theorem bind (h : Makes evaluate calls R p p') {S : α → List Visit → β → Prop}
    (hf : ∀ a, Makes evaluate calls' (S a) (f a) (f' a)) {Q : List Visit → β → Prop}
    (hQ : ∀ before after a b, R before a → S a after b → Q (before ++ after) b) :
    Makes evaluate (calls ++ calls') Q (p >>= f) (p' >>= f') := by
  intro s record
  obtain ⟨r, visits, s₁, hp, hp', hvisits, hends⟩ := h s record
  cases hends with
  | error hcalls hok hlast =>
    exact ⟨_, _, s₁, run_bind_error hp f, run_bind_error hp' f', hvisits,
      .error (hcalls.trans (List.prefix_append _ _)) hok hlast⟩
  | @ok _ a hcalls hok ha =>
    obtain ⟨r₂, visits₂, s₂, hq, hq', hvisits₂, hends₂⟩ := hf a s₁ (record ++ visits)
    refine ⟨r₂, visits ++ visits₂, s₂, (run_bind_ok hp f).trans hq, ?_, hvisits.append hvisits₂, ?_⟩
    · rw [run_bind_ok hp' f', hq', List.append_assoc]
    · cases hends₂ with
      | ok hcalls₂ hok₂ hb =>
        refine .ok (by rw [List.map_append, hcalls, hcalls₂]) ?_ (hQ _ _ _ _ ha hb)
        exact fun v hv => (List.mem_append.mp hv).elim (hok v) (hok₂ v)
      | error hcalls₂ hok₂ hlast =>
        rw [← List.append_assoc]
        refine .error ?_ (fun v hv => (List.mem_append.mp hv).elim (hok v) (hok₂ v)) hlast
        rw [List.append_assoc, List.map_append, hcalls]
        exact (List.prefix_append_right_inj _).mpr hcalls₂

theorem bind_pure (h : Makes evaluate calls R p p') (b : α → β) {Q : List Visit → β → Prop}
    (hQ : ∀ visits a, R visits a → Q visits (b a)) :
    Makes evaluate calls Q (p >>= fun a => pure (b a)) (p' >>= fun a => pure (b a)) := by
  have hboth : Makes evaluate (calls ++ []) Q (p >>= fun a => pure (b a)) (p' >>= fun a => pure (b a)) := by
    refine h.bind (S := fun a visits b' => visits = [] ∧ b' = b a) (fun a => makes_pure ⟨rfl, rfl⟩) ?_
    rintro before after a _ ha ⟨rfl, rfl⟩
    rw [List.append_nil]
    exact hQ before a ha
  rwa [List.append_nil] at hboth

/-- A list of computations makes the calls of each in turn. What is known of their values must not be lost when further
calls are made. -/
theorem mapM {ι : Type} {calls : ι → List (Context × String)} {R : ι → List Visit → β → Prop}
    {f : ι → ExceptT ErrorCode (StateM σ) β} {f' : ι → ExceptT ErrorCode (StateM (σ × List Visit)) β}
    (hR : ∀ x b visits visits', visits ⊆ visits' → R x visits b → R x visits' b) {xs : List ι}
    (h : ∀ x ∈ xs, Makes evaluate (calls x) (R x) (f x) (f' x)) :
    Makes evaluate (xs.flatMap calls) (fun visits ys => List.Forall₂ (fun x y => R x visits y) xs ys) (xs.mapM f)
      (xs.mapM f') := by
  induction xs with
  | nil => exact makes_pure .nil
  | cons x xs ih =>
    rw [List.mapM_cons, List.mapM_cons, List.flatMap_cons]
    refine (h x List.mem_cons_self).bind
      (fun y => (ih fun x hx => h x (List.mem_cons_of_mem _ hx)).bind_pure (y :: ·)
        (Q := fun visits zs => ∃ ys, zs = y :: ys ∧ List.Forall₂ (fun x y => R x visits y) xs ys)
        fun visits ys hys => ⟨ys, rfl, hys⟩) ?_
    rintro before after y zs hy ⟨ys, rfl, hys⟩
    refine .cons (hR x y _ _ (List.subset_append_left _ _) hy) (hys.imp fun x y hxy => ?_)
    exact hR x y _ _ (List.subset_append_right _ _) hxy

end Makes

/-! ## Ranges -/

variable (g : Grid) (ctx : Context)

/-- The call for the formula of a cell. -/
def Grid.callAt? (d : Coord) : Option (Context × String) :=
  (formula? (g.get d)).map fun formula => (ctx.nested d, formula)

def Grid.callsBetween (a b : Coord) : List (Context × String) :=
  (g.formulaCells a b).filterMap (g.callAt? ctx)

/-- What a range takes a cell for: a formula for what its call has answered, any other cell for its text. -/
def Grid.Takes (visits : List Visit) (d : Coord) (v : CellValue) : Prop :=
  match formula? (g.get d) with
  | some formula => (⟨ctx.nested d, formula, .ok v⟩ : Visit) ∈ visits
  | none => v = .text (g.get d)

theorem Grid.Takes.mono {g : Grid} {ctx : Context} {visits visits' : List Visit} {d : Coord} {v : CellValue}
    (hsubset : visits ⊆ visits') (h : g.Takes ctx visits d v) : g.Takes ctx visits' d v := by
  unfold Grid.Takes at h ⊢
  cases hformula : formula? (g.get d) with
  | none => simpa only [hformula] using h
  | some formula =>
    simp only [hformula] at h ⊢
    exact hsubset h

theorem makes_rangeCell (d : Coord) :
    Makes evaluate (g.callAt? ctx d).toList (fun visits v => g.Takes ctx visits d v) (rangeCell g ctx evaluate d)
      (rangeCell g ctx (recordingCalls evaluate) d) := by
  unfold rangeCell Grid.callAt? Grid.Takes
  cases formula? (g.get d) with
  | none => exact makes_pure rfl
  | some formula =>
    intro s record
    rcases hrun : (evaluate (ctx.nested d) formula).run s with ⟨result, s'⟩
    refine ⟨result, [⟨ctx.nested d, formula, result⟩], s', hrun, run_recordingCalls hrun record,
      .cons hrun (.nil s'), ?_⟩
    cases result with
    | ok v => exact .ok rfl (by simp [Visit.Succeeds]) List.mem_cons_self
    | error c =>
      show Ends _ _ ([] ++ [_]) _
      exact .error (List.prefix_refl _) (by simp) rfl

theorem makes_rangeRow (r : Rectangle) (y : Nat) :
    Makes evaluate ((r.cellsOf y).flatMap fun d => (g.callAt? ctx d).toList)
      (fun visits row => List.Forall₂ (fun d v => g.Takes ctx visits d v) (r.cellsOf y) row)
      (rangeRow g ctx evaluate r y) (rangeRow g ctx (recordingCalls evaluate) r y) := by
  rw [rangeRow_eq, rangeRow_eq]
  exact .mapM (fun _ _ _ _ hsubset h => h.mono hsubset) fun d _ => makes_rangeCell g ctx d

theorem Grid.callsBetween_eq {a b : Coord} {r : Rectangle} (hcorners : Rectangle.ofCorners? g.extent a b = some r) :
    g.callsBetween ctx a b = r.rows.flatMap fun y => (r.cellsOf y).flatMap fun d => (g.callAt? ctx d).toList := by
  have hnone : ∀ d ∈ r.cells, (formula? (g.get d)).isSome = false → (g.callAt? ctx d).toList = [] := by
    intro d _ hd
    rw [Option.isSome_eq_false_iff, Option.isNone_iff_eq_none] at hd
    rw [Grid.callAt?, hd]
    rfl
  rw [callsBetween, formulaCells, Rectangle.filter_cells_around, hcorners, List.filterMap_eq_flatMap_toList]
  show (r.cells.filter _).flatMap _ = _
  rw [flatMap_filter_of_nil hnone, Rectangle.cells, List.flatMap_assoc]

theorem Grid.callsBetween_of_none {a b : Coord} (hcorners : Rectangle.ofCorners? g.extent a b = none) :
    g.callsBetween ctx a b = [] := by
  rw [callsBetween, formulaCells, Rectangle.filter_cells_around, hcorners]
  rfl

theorem makes_resolveRange (a b : Coord) :
    Makes evaluate (g.callsBetween ctx a b)
      (fun visits rows => (Rectangle.ofCorners? g.extent a b).elim (rows = []) fun r =>
        List.Forall₂ (fun y row => List.Forall₂ (fun d v => g.Takes ctx visits d v) (r.cellsOf y) row) r.rows rows)
      (resolveRange g a b ctx evaluate) (resolveRange g a b ctx (recordingCalls evaluate)) := by
  unfold resolveRange
  cases hcorners : Rectangle.ofCorners? g.extent a b with
  | none =>
    rw [g.callsBetween_of_none ctx hcorners]
    exact makes_pure rfl
  | some r =>
    rw [g.callsBetween_eq ctx hcorners]
    refine .mapM (fun y row visits visits' hsubset hrow => ?_) fun y _ => makes_rangeRow g ctx r y
    exact hrow.imp fun d v hv => hv.mono hsubset

/-- Whether rows show the places between two corners that lie in the extent: one row for each `y` and one value for
each `x`, at their offsets from the least ones. -/
structure Grid.Shows (a b : Coord) (visits : List Visit) (rows : List (List CellValue)) : Prop where
  height : rows.length = min (max a.y b.y) g.extent.maxY + 1 - min a.y b.y
  width : ∀ row ∈ rows, row.length = min (max a.x b.x) g.extent.maxX + 1 - min a.x b.x
  value : ∀ d, g.extent.Clips a b d → ∃ row v, rows[d.y - min a.y b.y]? = some row ∧
    row[d.x - min a.x b.x]? = some v ∧ g.Takes ctx visits d v

theorem Grid.shows_of_forall₂ {a b : Coord} {r : Rectangle} (hcorners : Rectangle.ofCorners? g.extent a b = some r)
    {visits : List Visit} {rows : List (List CellValue)}
    (h : List.Forall₂ (fun y row => List.Forall₂ (fun d v => g.Takes ctx visits d v) (r.cellsOf y) row) r.rows rows) :
    g.Shows ctx a b visits rows := by
  have hsize : r.height = min (max a.y b.y) g.extent.maxY + 1 - min a.y b.y ∧
      r.width = min (max a.x b.x) g.extent.maxX + 1 - min a.x b.x := by
    unfold Rectangle.ofCorners? at hcorners
    dsimp only at hcorners
    split at hcorners
    · exact absurd hcorners (by simp)
    · obtain rfl := Option.some.inj hcorners
      dsimp only
      omega
  refine ⟨?_, fun row hrow => ?_, fun d hd => ?_⟩
  · rw [← h.length_eq, r.length_rows, hsize.1]
  · obtain ⟨i, hi⟩ := List.mem_iff_getElem?.mp hrow
    obtain ⟨y, -, hcells⟩ := exists_getElem?_of_forall₂ h.flip hi
    rw [← hcells.length_eq, r.length_cellsOf, hsize.2]
  · obtain ⟨hrow, hcell⟩ := Rectangle.getElem?_of_clips hcorners hd
    obtain ⟨row, hrow', hcells⟩ := exists_getElem?_of_forall₂ h hrow
    obtain ⟨v, hv, htakes⟩ := exists_getElem?_of_forall₂ hcells hcell
    exact ⟨row, v, hrow', hv, htakes⟩

/-- How a range ends that has made these calls. They are the first of those for its formulas, in their order. If the
last one failed, its code is the answer; otherwise they are all of them, and the answer is the rows. Where nothing lies
in the extent there are neither calls nor rows. -/
structure Grid.RangeRun (a b : Coord) (visits : List Visit) (r : Except ErrorCode (List (List CellValue))) : Prop where
  calls : visits.map Visit.call <+: g.callsBetween ctx a b
  nothing : (∀ d, ¬g.extent.Clips a b d) → visits = [] ∧ r = .ok []
  error : ∀ c, r = .error c ↔
    ∃ before last, visits = before ++ [last] ∧ (∀ v ∈ before, v.Succeeds) ∧ last.result = .error c
  ok : ∀ rows, r = .ok rows → visits.map Visit.call = g.callsBetween ctx a b ∧ (∀ v ∈ visits, v.Succeeds) ∧
    ((∃ d, g.extent.Clips a b d) → g.Shows ctx a b visits rows)

theorem Grid.rangeRun_of_ends {a b : Coord} {visits : List Visit} {r : Except ErrorCode (List (List CellValue))}
    (h : Ends (g.callsBetween ctx a b)
      (fun visits rows => (Rectangle.ofCorners? g.extent a b).elim (rows = []) fun r =>
        List.Forall₂ (fun y row => List.Forall₂ (fun d v => g.Takes ctx visits d v) (r.cellsOf y) row) r.rows rows)
      visits r) : g.RangeRun ctx a b visits r := by
  cases hcorners : Rectangle.ofCorners? g.extent a b with
  | none =>
    have hcalls := g.callsBetween_of_none ctx hcorners
    rw [hcorners, hcalls] at h
    cases h with
    | error hcalled => exact absurd (List.prefix_nil.mp hcalled) (by simp)
    | ok hnil hok hrows =>
      obtain rfl := List.map_eq_nil_iff.mp hnil
      obtain rfl : _ = [] := hrows
      refine ⟨List.nil_prefix, fun _ => ⟨rfl, rfl⟩, fun c => iff_of_false (by simp) (by simp), ?_⟩
      rintro rows -
      exact ⟨hcalls.symm, by simp, fun ⟨d, hd⟩ => absurd hd (Rectangle.not_clips hcorners d)⟩
  | some rectangle =>
    obtain ⟨d, hd⟩ := Rectangle.exists_clips hcorners
    rw [hcorners] at h
    cases h with
    | @error before last c hcalled hok hlast =>
      refine ⟨hcalled, fun hnothing => absurd hd (hnothing d), fun c' => ⟨?_, ?_⟩, fun rows hrows => by cases hrows⟩
      · rintro ⟨⟩
        exact ⟨before, last, rfl, hok, hlast⟩
      · rintro ⟨before', last', hvisits, -, hlast'⟩
        obtain ⟨-, hsame⟩ := List.append_inj' hvisits rfl
        obtain rfl := List.singleton_inj.mp hsame
        exact congrArg Except.error (Except.error.inj (hlast.symm.trans hlast'))
    | @ok _ rows hcalls hok hrows =>
      refine ⟨hcalls ▸ List.prefix_refl _, fun hnothing => absurd hd (hnothing d), fun c => ⟨by simp, ?_⟩, ?_⟩
      · rintro ⟨before, last, rfl, -, hlast⟩
        obtain ⟨w, hw⟩ := hok last (by simp)
        exact absurd (hw.symm.trans hlast) (by simp)
      · rintro _ ⟨⟩
        exact ⟨hcalls, hok, fun _ => g.shows_of_forall₂ ctx hcorners hrows⟩

/-! ## Traces -/

theorem visits_recording {nested : Context → String → Result} {record record' visits : List Visit}
    (h : Visits (recording nested) record visits record') :
    record' = visits.reverse ++ record ∧ ∀ v ∈ visits, v.result = nested v.context v.formula := by
  induction h with
  | nil record => exact ⟨rfl, by simp⟩
  | @cons record record₁ record₂ v visits hv _ ih =>
    have hstep : (nested v.context v.formula, ⟨v.context, v.formula, nested v.context v.formula⟩ :: record) =
        (v.result, record₁) := hv
    obtain ⟨hresult, rfl⟩ := Prod.mk.inj hstep
    obtain ⟨rfl, hresults⟩ := ih
    refine ⟨?_, List.forall_mem_cons.mpr ⟨hresult.symm, hresults⟩⟩
    rw [List.reverse_cons, List.append_assoc, hresult]
    rfl

/-- A trace has the calls of its range, with what the function answers to each. -/
theorem traceRange_run (a b : Coord) (nested : Context → String → Result) :
    g.RangeRun ctx a b (traceRange g a b ctx nested).2 (traceRange g a b ctx nested).1 ∧
      ∀ v ∈ (traceRange g a b ctx nested).2, v.result = nested v.context v.formula := by
  have hmakes : Makes (recording nested) (g.callsBetween ctx a b) _ (resolveRange g a b ctx (recording nested)) _ :=
    makes_resolveRange g ctx a b
  obtain ⟨r, visits, record, hrun, -, hvisits, hends⟩ := hmakes [] []
  obtain ⟨rfl, hresults⟩ := visits_recording hvisits
  have htrace : traceRange g a b ctx nested = (r, visits) := by
    unfold traceRange
    rw [hrun, List.append_nil]
    exact congrArg (Prod.mk r) (List.reverse_reverse visits)
  rw [htrace]
  exact ⟨g.rangeRun_of_ends ctx hends, hresults⟩

/-! ## Any corners -/

/-- A range takes the part of the sheet between two corners row by row, with one call for each formula, up to the first
that fails. What decides is the extent and what is stored there: neither whether a row has cells, nor which two opposite
corners are given, in which order. -/
theorem resolveRange_visits (a b : Coord) (evaluate : Context → String → StateM σ Result) (s : σ) :
    ((g.formulaCells a b).Pairwise Coord.Before ∧
        ∀ d, d ∈ g.formulaCells a b ↔ g.extent.Clips a b d ∧ (formula? (g.get d)).isSome) ∧
      (∃ r visits s', (resolveRange g a b ctx evaluate).run.run s = (r, s') ∧
        (resolveRange g a b ctx (recordingCalls evaluate)).run.run (s, []) = (r, (s', visits)) ∧
        Visits evaluate s visits s' ∧ g.RangeRun ctx a b visits r) ∧
      (∀ r y, rangeRow g ctx evaluate r y = (r.cellsOf y).mapM (rangeCell g ctx evaluate)) ∧
      (∀ h : Grid, h.extent = g.extent → (∀ d, g.extent.Clips a b d → h.get d = g.get d) →
        resolveRange h a b ctx evaluate = resolveRange g a b ctx evaluate) ∧
      resolveRange g b a ctx evaluate = resolveRange g a b ctx evaluate ∧
      resolveRange g ⟨a.x, b.y⟩ ⟨b.x, a.y⟩ ctx evaluate = resolveRange g a b ctx evaluate := by
  refine ⟨⟨g.pairwise_formulaCells a b, g.mem_formulaCells a b⟩, ?_, rangeRow_eq g ctx evaluate, ?_, ?_, ?_⟩
  · obtain ⟨r, visits, s', hrun, hrecorded, hvisits, hends⟩ := makes_resolveRange g ctx a b s []
    exact ⟨r, visits, s', hrun, hrecorded, hvisits, g.rangeRun_of_ends ctx hends⟩
  · intro h hextent hget
    refine (resolveRange_congr_cells hextent.symm fun d hd => ?_).symm
    unfold rangeCell
    rw [hget d hd]
  · unfold resolveRange
    rw [Rectangle.ofCorners?_swap]
  · unfold resolveRange
    rw [Rectangle.ofCorners?_mirror]

/-- An evaluator that answers how often it has been called, and fails the second time. -/
def failsSecond (_ : Context) (_ : String) : StateM Nat Result := do
  modify (· + 1)
  return if (← get) = 2 then .error .divZero else .ok .empty

def threeFormulas : Grid :=
  (((Grid.new ⟨2, 2⟩).set ⟨1, 1⟩ "=1").set ⟨1, 2⟩ "=3").set ⟨2, 2⟩ "=4"

/-- The second of three formulas fails, so the third one is not evaluated. -/
theorem resolveRange_visits_three :
    ∃ visits, (resolveRange threeFormulas ⟨3, 1⟩ ⟨1, 3⟩ (.root ⟨1, 1⟩) failsSecond).run.run 0 = (.error .divZero, 2) ∧
      visits.map Visit.call = [(⟨⟨1, 1⟩, 1⟩, "1"), (⟨⟨1, 2⟩, 1⟩, "3")] ∧
      threeFormulas.RangeRun (.root ⟨1, 1⟩) ⟨3, 1⟩ ⟨1, 3⟩ visits (.error .divZero) := by
  obtain ⟨-, ⟨r, visits, s', hrun, hrecorded, -, hrange⟩, -⟩ :=
    resolveRange_visits threeFormulas (.root ⟨1, 1⟩) ⟨3, 1⟩ ⟨1, 3⟩ failsSecond 0
  have hfails : (resolveRange threeFormulas ⟨3, 1⟩ ⟨1, 3⟩ (.root ⟨1, 1⟩) failsSecond).run.run 0 =
      (.error .divZero, 2) := by rfl
  have hcalls : ((resolveRange threeFormulas ⟨3, 1⟩ ⟨1, 3⟩ (.root ⟨1, 1⟩) (recordingCalls failsSecond)).run.run
      (0, [])).2.2.map Visit.call = [(⟨⟨1, 1⟩, 1⟩, "1"), (⟨⟨1, 2⟩, 1⟩, "3")] := by rfl
  rw [hrecorded] at hcalls
  obtain ⟨rfl, -⟩ := Prod.mk.inj (hrun.symm.trans hfails)
  exact ⟨visits, hfails, hcalls, hrange⟩

end

end Worksheet
