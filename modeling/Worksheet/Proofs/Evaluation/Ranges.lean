import Mathlib.Data.List.Forall2
import Worksheet.Evaluation.Lookup
import Worksheet.Proofs.Address.Name

/-!
# Ranges

* `mapM_eq_ok_iff`, `mapM_ok`, `mapM_error`, `exists_of_mapM_error` : the outcome of a computation over a list;
* `run_mapM_flatMap`, `mapM_eq_error_iff` : lists one after the other, and what fails first;
* `Extent.Clips` : the places between two corners that lie in an extent; `Rectangle.mem_cellsOf`;
* `rangeRow_eq` : rows without cells are no special case;
* `rangeValue_formula`, `rangeValue_literal` : what a range takes a cell for;
* `getElem?_of_resolveRange` : a range that answers has each cell's value at its own offset;
* `resolveRange_ok` : a range answers if each of its cells does; `resolveRange_error` : it fails if one fails;
* `resolveRange_congr_cells`, `resolveRange_congr` : only the cells of a range matter, and the context only where
  there are formulas;
* `resolveRange_cell` : ranges of one cell.
-/

namespace Worksheet

/-! ## Computations over lists -/

section

variable {ε α β : Type} {f : α → ExceptT ε Id β}

theorem run_mapM_cons (x : α) (xs : List α) :
    ((x :: xs).mapM f).run = (f x).run.bind fun y => (xs.mapM f).run.map (y :: ·) := by
  rw [List.mapM_cons, ExceptT.run_bind]
  cases (f x).run with
  | error e => rfl
  | ok y =>
    show (do let ys ← xs.mapM f; pure (y :: ys) : ExceptT ε Id (List β)).run = (xs.mapM f).run.map (y :: ·)
    rw [ExceptT.run_bind]
    cases (xs.mapM f).run <;> rfl

theorem mapM_eq_ok_iff {xs : List α} {ys : List β} :
    (xs.mapM f).run = .ok ys ↔ List.Forall₂ (fun x y => (f x).run = .ok y) xs ys := by
  induction xs generalizing ys with
  | nil =>
    rw [List.forall₂_nil_left_iff]
    exact ⟨fun h => (Except.ok.inj h).symm, fun h => by rw [h]; rfl⟩
  | cons x xs ih =>
    rw [run_mapM_cons, List.forall₂_cons_left_iff]
    constructor
    · intro h
      cases hx : (f x).run with
      | error e =>
        rw [hx] at h
        cases h
      | ok y =>
        rw [hx] at h
        cases hxs : (xs.mapM f).run with
        | error e =>
          rw [Except.bind, hxs] at h
          cases h
        | ok zs =>
          rw [Except.bind, hxs] at h
          exact ⟨y, zs, rfl, ih.mp hxs, (Except.ok.inj h).symm⟩
    · rintro ⟨y, zs, hy, hzs, rfl⟩
      rw [hy, Except.bind, ih.mpr hzs]
      rfl

theorem exists_getElem?_of_forall₂ {R : α → β → Prop} {xs : List α} {ys : List β} (h : List.Forall₂ R xs ys)
    {i : Nat} {x : α} (hx : xs[i]? = some x) : ∃ y, ys[i]? = some y ∧ R x y := by
  obtain ⟨hi, rfl⟩ := List.getElem?_eq_some_iff.mp hx
  have hi' : i < ys.length := h.length_eq ▸ hi
  exact ⟨ys[i], List.getElem?_eq_getElem hi', h.get hi hi'⟩

theorem mapM_ok {P : β → Prop} {xs : List α} (h : ∀ x ∈ xs, ∃ y, (f x).run = .ok y ∧ P y) :
    ∃ ys, (xs.mapM f).run = .ok ys ∧ ys.length = xs.length ∧ ∀ y ∈ ys, P y := by
  induction xs with
  | nil => exact ⟨[], rfl, rfl, by simp⟩
  | cons x xs ih =>
    obtain ⟨y, hy, hP⟩ := h x List.mem_cons_self
    obtain ⟨ys, hys, hlength, hall⟩ := ih fun x hx => h x (List.mem_cons_of_mem _ hx)
    refine ⟨y :: ys, ?_, by rw [List.length_cons, hlength, List.length_cons], List.forall_mem_cons.mpr ⟨hP, hall⟩⟩
    rw [run_mapM_cons, hy, Except.bind, hys]
    rfl

theorem exists_of_mapM_error {e : ε} {xs : List α} (h : (xs.mapM f).run = .error e) :
    ∃ x ∈ xs, (f x).run = .error e := by
  induction xs with
  | nil => cases h
  | cons x xs ih =>
    rw [run_mapM_cons] at h
    cases hx : (f x).run with
    | error e' =>
      rw [hx] at h
      exact ⟨x, List.mem_cons_self, hx.trans (congrArg Except.error (Except.error.inj h))⟩
    | ok y =>
      rw [hx, Except.bind] at h
      cases hxs : (xs.mapM f).run with
      | error e' =>
        rw [hxs] at h
        obtain rfl := Except.error.inj h
        obtain ⟨z, hz, hfails⟩ := ih hxs
        exact ⟨z, List.mem_cons_of_mem x hz, hfails⟩
      | ok ys =>
        rw [hxs] at h
        cases h

theorem mapM_error_or_ok {e : ε} {xs : List α} (h : ∀ x ∈ xs, (f x).run = .error e ∨ ∃ y, (f x).run = .ok y) :
    (xs.mapM f).run = .error e ∨ ∃ ys, (xs.mapM f).run = .ok ys := by
  cases hxs : (xs.mapM f).run with
  | ok ys => exact .inr ⟨ys, rfl⟩
  | error e' =>
    obtain ⟨x, hx, hfails⟩ := exists_of_mapM_error hxs
    obtain hx' | ⟨y, hy⟩ := h x hx
    · exact .inl (congrArg Except.error (Except.error.inj (hfails.symm.trans hx')))
    · exact absurd (hfails.symm.trans hy) (by simp)

theorem mapM_error {e : ε} {xs : List α} (h : ∀ x ∈ xs, (f x).run = .error e ∨ ∃ y, (f x).run = .ok y)
    (hfails : ∃ x ∈ xs, (f x).run = .error e) : (xs.mapM f).run = .error e := by
  refine (mapM_error_or_ok h).resolve_right ?_
  rintro ⟨ys, hys⟩
  obtain ⟨x, hx, hfails⟩ := hfails
  obtain ⟨i, hi⟩ := List.mem_iff_getElem?.mp hx
  obtain ⟨y, -, hy⟩ := exists_getElem?_of_forall₂ (mapM_eq_ok_iff.mp hys) hi
  exact absurd (hy.symm.trans hfails) (by simp)

theorem mapM_congr {m : Type → Type} [Monad m] [LawfulMonad m] {f g : α → m β} {xs : List α}
    (h : ∀ x ∈ xs, f x = g x) : xs.mapM f = xs.mapM g := by
  induction xs with
  | nil => rfl
  | cons x xs ih =>
    rw [List.mapM_cons, List.mapM_cons, h x List.mem_cons_self, ih fun x hx => h x (List.mem_cons_of_mem _ hx)]

theorem mapM_singleton (x : α) : ([x].mapM f).run = (f x).run.map fun y => [y] := by
  rw [run_mapM_cons]
  cases (f x).run <;> rfl

theorem run_mapM_flatMap {ι : Type} (k : ι → List α) (is : List ι) :
    ((is.flatMap k).mapM f).run = (is.mapM fun i => (k i).mapM f).run.map List.flatten := by
  induction is with
  | nil => rfl
  | cons i is ih =>
    rw [List.flatMap_cons, List.mapM_append, ExceptT.run_bind, run_mapM_cons]
    cases ((k i).mapM f).run with
    | error e => rfl
    | ok ys =>
      show (do let zs ← (is.flatMap k).mapM f; pure (ys ++ zs) : ExceptT ε Id (List β)).run = _
      rw [ExceptT.run_bind, ih]
      show _ = Except.map List.flatten (Except.map (ys :: ·) (is.mapM fun i => (k i).mapM f).run)
      cases (is.mapM fun i => (k i).mapM f).run <;> rfl

theorem map_eq_error_iff {γ : Type} (k : β → γ) {r : Except ε β} {e : ε} : r.map k = .error e ↔ r = .error e := by
  cases r with
  | error e' => exact ⟨fun h => congrArg Except.error (Except.error.inj h), fun h => congrArg _ (Except.error.inj h)⟩
  | ok y => exact iff_of_false (fun h => by cases h) fun h => by cases h

/-- A computation over an ordered list fails with what fails first. -/
theorem mapM_eq_error_iff {R : α → α → Prop} (hasymm : ∀ {x y}, R x y → ¬R y x) {e : ε} {xs : List α}
    (h : xs.Pairwise R) :
    (xs.mapM f).run = .error e ↔
      ∃ x ∈ xs, (f x).run = .error e ∧ ∀ y ∈ xs, R y x → ∃ z, (f y).run = .ok z := by
  induction h with
  | nil => exact iff_of_false (by simp) (by simp)
  | @cons x xs hx _ ih =>
    rw [run_mapM_cons]
    cases hfx : (f x).run with
    | error e' =>
      show Except.error e' = _ ↔ _
      constructor
      · intro he
        refine ⟨x, List.mem_cons_self, hfx.trans (congrArg Except.error (Except.error.inj he)), fun y hy hyx => ?_⟩
        rcases List.mem_cons.mp hy with rfl | hy
        · exact absurd hyx (hasymm hyx)
        · exact absurd hyx (hasymm (hx y hy))
      · rintro ⟨y, hy, hfails, hbefore⟩
        rcases List.mem_cons.mp hy with rfl | hy
        · exact congrArg Except.error (Except.error.inj (hfx.symm.trans hfails))
        · obtain ⟨z, hz⟩ := hbefore x List.mem_cons_self (hx y hy)
          exact absurd (hfx.symm.trans hz) (by simp)
    | ok z =>
      show (xs.mapM f).run.map (z :: ·) = _ ↔ _
      rw [map_eq_error_iff, ih]
      constructor
      · rintro ⟨y, hy, hfails, hbefore⟩
        exact ⟨y, List.mem_cons_of_mem x hy, hfails, List.forall_mem_cons.mpr ⟨fun _ => ⟨z, hfx⟩, hbefore⟩⟩
      · rintro ⟨y, hy, hfails, hbefore⟩
        rcases List.mem_cons.mp hy with rfl | hy
        · exact absurd (hfx.symm.trans hfails) (by simp)
        · exact ⟨y, hy, hfails, (List.forall_mem_cons.mp hbefore).2⟩

end

/-! ## Rectangles -/

/-- Whether a place lies between two corners and in an extent. -/
structure Extent.Clips (e : Extent) (a b d : Coord) : Prop where
  left : min a.x b.x ≤ d.x
  right : d.x ≤ max a.x b.x
  top : min a.y b.y ≤ d.y
  bottom : d.y ≤ max a.y b.y
  inside : e.contains d = true

namespace Rectangle

theorem mem_rows (r : Rectangle) (y : Nat) : y ∈ r.rows ↔ r.top ≤ y ∧ y < r.top + r.height := by
  rw [rows, List.mem_range'_1]

theorem mem_cellsOf (r : Rectangle) (y : Nat) (d : Coord) :
    d ∈ r.cellsOf y ↔ d.y = y ∧ r.left ≤ d.x ∧ d.x < r.left + r.width := by
  rw [cellsOf, List.mem_map]
  constructor
  · rintro ⟨x, hx, rfl⟩
    exact ⟨rfl, List.mem_range'_1.mp hx⟩
  · rintro ⟨rfl, hx⟩
    exact ⟨d.x, List.mem_range'_1.mpr hx, rfl⟩

theorem length_rows (r : Rectangle) : r.rows.length = r.height := by
  rw [rows, List.length_range']

theorem length_cellsOf (r : Rectangle) (y : Nat) : (r.cellsOf y).length = r.width := by
  rw [cellsOf, List.length_map, List.length_range']

theorem clips_iff {e : Extent} {a b : Coord} {r : Rectangle} (h : ofCorners? e a b = some r) (d : Coord) :
    e.Clips a b d ↔ d.y ∈ r.rows ∧ d ∈ r.cellsOf d.y := by
  unfold ofCorners? at h
  dsimp only at h
  split at h
  · exact absurd h (by simp)
  · obtain rfl := Option.some.inj h
    rw [mem_rows, mem_cellsOf]
    constructor
    · rintro ⟨hleft, hright, htop, hbottom, hinside⟩
      rw [Extent.contains_iff] at hinside
      refine ⟨⟨htop, ?_⟩, rfl, hleft, ?_⟩ <;> dsimp only <;> omega
    · rintro ⟨⟨htop, hbottom⟩, -, hleft, hright⟩
      dsimp only at htop hbottom hleft hright
      refine ⟨hleft, by omega, htop, by omega, ?_⟩
      rw [Extent.contains_iff]
      omega

theorem not_clips {e : Extent} {a b : Coord} (h : ofCorners? e a b = none) (d : Coord) : ¬e.Clips a b d := by
  rintro ⟨hleft, hright, htop, hbottom, hinside⟩
  rw [Extent.contains_iff] at hinside
  unfold ofCorners? at h
  dsimp only at h
  split at h
  · omega
  · exact absurd h (by simp)

theorem getElem?_of_clips {e : Extent} {a b : Coord} {r : Rectangle} (h : ofCorners? e a b = some r) {d : Coord}
    (hd : e.Clips a b d) :
    r.rows[d.y - min a.y b.y]? = some d.y ∧ (r.cellsOf d.y)[d.x - min a.x b.x]? = some d := by
  obtain ⟨hrow, hcell⟩ := (clips_iff h d).mp hd
  rw [mem_rows] at hrow
  rw [mem_cellsOf] at hcell
  unfold ofCorners? at h
  dsimp only at h
  split at h
  · exact absurd h (by simp)
  · obtain rfl := Option.some.inj h
    dsimp only at hrow hcell
    rw [rows, cellsOf, List.getElem?_map, List.getElem?_range' (by dsimp only; omega),
      List.getElem?_range' (by dsimp only; omega)]
    dsimp only
    rw [Option.map_some, Nat.one_mul, Nat.one_mul, Nat.add_sub_cancel' hrow.1, Nat.add_sub_cancel' hcell.2.1]
    exact ⟨rfl, rfl⟩

theorem size_le {e : Extent} {a b : Coord} {r : Rectangle} (ha : a.Addressable) (hb : b.Addressable)
    (h : ofCorners? e a b = some r) : r.height * r.width ≤ 2 ^ 63 * 2 ^ 63 := by
  obtain ⟨hax, hay, hax', hay'⟩ := ha
  obtain ⟨hbx, hby, hbx', hby'⟩ := hb
  unfold ofCorners? at h
  dsimp only at h
  split at h
  · exact absurd h (by simp)
  · obtain rfl := Option.some.inj h
    refine Nat.mul_le_mul ?_ ?_ <;> dsimp only <;> omega

end Rectangle

/-! ## Rows -/

theorem Grid.get_of_hasRow {g : Grid} {d : Coord} (h : g.hasRow d.y = false) : g.get d = "" := by
  unfold Grid.hasRow SortedMap.contains at h
  unfold Grid.get Grid.row
  rw [Option.isSome_eq_false_iff, Option.isNone_iff_eq_none] at h
  rw [h]
  rfl

section

variable {m : Type → Type} [Monad m] (g : Grid) (ctx : Context)
  (evaluate : Context → String → m Result)

theorem rangeCell_of_hasRow {d : Coord} (h : g.hasRow d.y = false) :
    rangeCell g ctx evaluate d = pure .empty := by
  unfold rangeCell
  rw [Grid.get_of_hasRow h]
  rfl

theorem mapM_pure [LawfulMonad m] {α β : Type} {f : α → ExceptT ErrorCode m β} {v : β} {xs : List α}
    (h : ∀ x ∈ xs, f x = pure v) : xs.mapM f = pure (List.replicate xs.length v) := by
  induction xs with
  | nil => rfl
  | cons x xs ih =>
    rw [List.mapM_cons, h x List.mem_cons_self, ih fun x hx => h x (List.mem_cons_of_mem _ hx)]
    simp [List.replicate_succ]

theorem rangeRow_eq [LawfulMonad m] (r : Rectangle) (y : Nat) :
    rangeRow g ctx evaluate r y = (r.cellsOf y).mapM (rangeCell g ctx evaluate) := by
  unfold rangeRow
  by_cases hrow : g.hasRow y = true
  · rw [if_pos hrow]
  · rw [if_neg hrow]
    have hempty : ∀ d ∈ r.cellsOf y, rangeCell g ctx evaluate d = pure .empty := by
      intro d hd
      obtain ⟨rfl, -⟩ := (r.mem_cellsOf y d).mp hd
      exact rangeCell_of_hasRow g ctx evaluate (by simpa using hrow)
    rw [mapM_pure hempty, r.length_cellsOf]

end

/-! ## Ranges -/

/-- Only what the cells between the corners answer matters, of whatever grid and in whatever context. -/
theorem resolveRange_congr_cells {m : Type → Type} [Monad m] [LawfulMonad m] {g h : Grid} {a b : Coord}
    {ctx ctx' : Context} {evaluate evaluate' : Context → String → m Result} (hextent : g.extent = h.extent)
    (hcells : ∀ d, g.extent.Clips a b d → rangeCell g ctx evaluate d = rangeCell h ctx' evaluate' d) :
    resolveRange g a b ctx evaluate = resolveRange h a b ctx' evaluate' := by
  unfold resolveRange
  rw [← hextent]
  cases hcorners : Rectangle.ofCorners? g.extent a b with
  | none => rfl
  | some r =>
    refine mapM_congr fun y hy => ?_
    rw [rangeRow_eq, rangeRow_eq]
    refine mapM_congr fun d hd => ?_
    obtain ⟨rfl, -⟩ := (r.mem_cellsOf y d).mp hd
    exact hcells d ((Rectangle.clips_iff hcorners d).mpr ⟨hy, hd⟩)

section

variable {g : Grid} {a b : Coord} {ctx : Context} {evaluate : Context → String → Result}

/-- What a range takes a cell for, where formulas are evaluated by a function. -/
def rangeValue (g : Grid) (ctx : Context) (evaluate : Context → String → Result) (d : Coord) : Result :=
  (rangeCell (m := Id) g ctx evaluate d).run

theorem rangeValue_formula {d : Coord} {formula : String} (h : formula? (g.get d) = some formula) :
    rangeValue g ctx evaluate d = evaluate (ctx.nested d) formula := by
  unfold rangeValue rangeCell
  rw [h]
  rfl

theorem rangeValue_literal {d : Coord} (h : formula? (g.get d) = none) :
    rangeValue g ctx evaluate d = .ok (.text (g.get d)) := by
  unfold rangeValue rangeCell
  rw [h]
  rfl

theorem resolveRange_eq_ok_iff {r : Rectangle} (hcorners : Rectangle.ofCorners? g.extent a b = some r)
    {rows : List (List CellValue)} :
    (resolveRange (m := Id) g a b ctx evaluate).run = .ok rows ↔
      List.Forall₂ (fun y row => List.Forall₂ (fun d v => rangeValue g ctx evaluate d = .ok v) (r.cellsOf y) row)
        r.rows rows := by
  unfold resolveRange
  rw [hcorners]
  show (r.rows.mapM (rangeRow (m := Id) g ctx evaluate r)).run = _ ↔ _
  rw [mapM_eq_ok_iff]
  simp only [rangeRow_eq, mapM_eq_ok_iff, rangeValue]

/-- Each cell of a range that answers has its value at its own offset. -/
theorem getElem?_of_resolveRange {rows : List (List CellValue)}
    (h : (resolveRange (m := Id) g a b ctx evaluate).run = .ok rows) {d : Coord} (hd : g.extent.Clips a b d) :
    ∃ row v, rows[d.y - min a.y b.y]? = some row ∧ row[d.x - min a.x b.x]? = some v ∧
      rangeValue g ctx evaluate d = .ok v := by
  cases hcorners : Rectangle.ofCorners? g.extent a b with
  | none => exact absurd hd (Rectangle.not_clips hcorners d)
  | some r =>
    obtain ⟨hrow, hcell⟩ := Rectangle.getElem?_of_clips hcorners hd
    rw [resolveRange_eq_ok_iff hcorners] at h
    obtain ⟨row, hrow', hcells⟩ := exists_getElem?_of_forall₂ h hrow
    obtain ⟨v, hv, hvalue⟩ := exists_getElem?_of_forall₂ hcells hcell
    exact ⟨row, v, hrow', hv, hvalue⟩

theorem exists_of_resolveRange_error {e : ErrorCode}
    (h : (resolveRange (m := Id) g a b ctx evaluate).run = .error e) :
    ∃ d, g.extent.Clips a b d ∧ rangeValue g ctx evaluate d = .error e := by
  unfold resolveRange at h
  cases hcorners : Rectangle.ofCorners? g.extent a b with
  | none =>
    rw [hcorners] at h
    cases h
  | some r =>
    rw [hcorners] at h
    obtain ⟨y, hy, hrow⟩ := exists_of_mapM_error h
    rw [rangeRow_eq] at hrow
    obtain ⟨d, hd, hcell⟩ := exists_of_mapM_error hrow
    obtain ⟨rfl, -⟩ := (r.mem_cellsOf y d).mp hd
    exact ⟨d, (Rectangle.clips_iff hcorners d).mpr ⟨hy, hd⟩, hcell⟩

theorem resolveRange_ok {P : CellValue → Prop}
    (h : ∀ d, g.extent.Clips a b d → ∃ v, rangeValue g ctx evaluate d = .ok v ∧ P v) :
    ∃ rows, (resolveRange (m := Id) g a b ctx evaluate).run = .ok rows ∧ (∀ row ∈ rows, ∀ v ∈ row, P v) ∧
      (a.Addressable → b.Addressable → rows.flatten.length ≤ 2 ^ 63 * 2 ^ 63) := by
  unfold resolveRange
  cases hcorners : Rectangle.ofCorners? g.extent a b with
  | none => exact ⟨[], rfl, by simp, by simp⟩
  | some r =>
    have hrow : ∀ y ∈ r.rows, ∃ row, (rangeRow (m := Id) g ctx evaluate r y).run = .ok row ∧
        (row.length = r.width ∧ ∀ v ∈ row, P v) := by
      intro y hy
      have hcell : ∀ d ∈ r.cellsOf y, ∃ v, (rangeCell (m := Id) g ctx evaluate d).run = .ok v ∧ P v := by
        intro d hd
        obtain ⟨rfl, -⟩ := (r.mem_cellsOf y d).mp hd
        exact h d ((Rectangle.clips_iff hcorners d).mpr ⟨hy, hd⟩)
      obtain ⟨row, hrun, hlength, hall⟩ := mapM_ok hcell
      exact ⟨row, by rw [rangeRow_eq, hrun], by rw [hlength, r.length_cellsOf], hall⟩
    obtain ⟨rows, hrun, hlength, hall⟩ := mapM_ok hrow
    refine ⟨rows, hrun, fun row hrow => (hall row hrow).2, fun ha hb => ?_⟩
    have hwidth : ∀ row ∈ rows, row.length = r.width := fun row hrow => (hall row hrow).1
    have hsum : rows.flatten.length = r.height * r.width := by
      rw [List.length_flatten, List.map_congr_left hwidth, List.map_const', List.sum_replicate_nat, hlength,
        r.length_rows]
    rw [hsum]
    exact Rectangle.size_le ha hb hcorners

theorem resolveRange_error {e : ErrorCode}
    (h : ∀ d, g.extent.Clips a b d →
      rangeValue g ctx evaluate d = .error e ∨ ∃ v, rangeValue g ctx evaluate d = .ok v)
    (hfails : ∃ d, g.extent.Clips a b d ∧ rangeValue g ctx evaluate d = .error e) :
    (resolveRange (m := Id) g a b ctx evaluate).run = .error e := by
  obtain ⟨d, hd, hd'⟩ := hfails
  unfold resolveRange
  cases hcorners : Rectangle.ofCorners? g.extent a b with
  | none => exact absurd hd (Rectangle.not_clips hcorners d)
  | some r =>
    have hcell : ∀ y ∈ r.rows, ∀ d ∈ r.cellsOf y, (rangeCell (m := Id) g ctx evaluate d).run = .error e ∨
        ∃ v, (rangeCell (m := Id) g ctx evaluate d).run = .ok v := by
      intro y hy d hd
      obtain ⟨rfl, -⟩ := (r.mem_cellsOf y d).mp hd
      exact h d ((Rectangle.clips_iff hcorners d).mpr ⟨hy, hd⟩)
    obtain ⟨hrow, hmem⟩ := (Rectangle.clips_iff hcorners d).mp hd
    refine mapM_error (fun y hy => ?_) ⟨d.y, hrow, ?_⟩
    · rw [rangeRow_eq]
      exact mapM_error_or_ok (hcell y hy)
    · rw [rangeRow_eq]
      exact mapM_error (hcell d.y hrow) ⟨d, hmem, hd'⟩

theorem resolveRange_congr {ctx' : Context} {evaluate' : Context → String → Result}
    (h : ∀ d, g.extent.Clips a b d → formula? (g.get d) = none) :
    resolveRange (m := Id) g a b ctx evaluate = resolveRange g a b ctx' evaluate' := by
  refine resolveRange_congr_cells rfl fun d hd => ?_
  unfold rangeCell
  rw [h d hd]

/-- A range of one cell answers its value. -/
theorem resolveRange_cell {c : Coord} (hc : g.extent.contains c = true) :
    (resolveRange (m := Id) g c c ctx evaluate).run = (rangeValue g ctx evaluate c).map fun v => [[v]] := by
  have hcorners : Rectangle.ofCorners? g.extent c c = some ⟨c.x, c.y, 1, 1⟩ := by
    obtain ⟨hx, hy⟩ := (g.extent.contains_iff c).mp hc
    unfold Rectangle.ofCorners?
    dsimp only
    rw [Nat.min_self, Nat.max_self, Nat.min_self, Nat.max_self, Nat.min_eq_left hx, Nat.min_eq_left hy,
      if_neg (by omega), Nat.sub_self, Nat.sub_self]
  unfold resolveRange
  rw [hcorners]
  show ([c.y].mapM (rangeRow (m := Id) g ctx evaluate ⟨c.x, c.y, 1, 1⟩)).run = _
  rw [mapM_singleton, rangeRow_eq]
  show Except.map _ ([c].mapM (rangeCell (m := Id) g ctx evaluate)).run = _
  rw [mapM_singleton]
  unfold rangeValue
  cases (rangeCell (m := Id) g ctx evaluate c).run <;> rfl

end

end Worksheet
