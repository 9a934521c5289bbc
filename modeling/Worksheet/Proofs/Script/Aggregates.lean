import Worksheet.Script.Aggregate
import Worksheet.Proofs.Decimal.Nearest

/-!
# Aggregates of finite numbers

* `isFinite_between` : a choice between finite numbers is finite;
* `exists_ofNumbers` : `MIN`, `MAX` and `COUNT` of finite numbers are finite numbers.
-/

namespace Worksheet.Script.Aggregate

theorem isFinite_lesser {x y : Float} (hx : x.isFinite = true) (hy : y.isFinite = true) :
    (lesser x y).isFinite = true := by
  unfold lesser
  split
  · exact hy
  · exact hx

theorem isFinite_greater {x y : Float} (hx : x.isFinite = true) (hy : y.isFinite = true) :
    (greater x y).isFinite = true := by
  unfold greater
  split
  · exact hy
  · exact hx

section

variable {f : Float → Float → Float}
  (hf : ∀ x y, x.isFinite = true → y.isFinite = true → (f x y).isFinite = true)
include hf

theorem isFinite_foldl (xs : List Float) {x : Float} (hx : x.isFinite = true)
    (hxs : ∀ y ∈ xs, y.isFinite = true) : (xs.foldl f x).isFinite = true := by
  induction xs generalizing x with
  | nil => exact hx
  | cons y ys ih =>
    have hy := hf x y hx (hxs y List.mem_cons_self)
    exact ih hy fun z hz => hxs z (List.mem_cons_of_mem _ hz)

theorem isFinite_between {xs : List Float} (hxs : ∀ x ∈ xs, x.isFinite = true) :
    (between f xs).isFinite = true := by
  cases xs with
  | nil =>
    show (0.0 : Float).isFinite = true
    rfl
  | cons x xs =>
    exact isFinite_foldl hf xs (hxs x List.mem_cons_self) fun y hy => hxs y (List.mem_cons_of_mem _ hy)

end

/-- The aggregates that choose a number or count. -/
def choosing : List Aggregate :=
  [min, max, count]

theorem exists_ofNumbers {a : Aggregate} (ha : a ∈ choosing) {xs : List Float}
    (hxs : ∀ x ∈ xs, x.isFinite = true) (hlength : xs.length < 2 ^ 128) :
    ∃ x, a.ofNumbers xs = .ok x ∧ x.isFinite = true := by
  simp only [choosing, List.mem_cons, List.not_mem_nil, or_false] at ha
  obtain rfl | rfl | rfl := ha
  · exact ⟨_, rfl, isFinite_between (fun _ _ => isFinite_lesser) hxs⟩
  · exact ⟨_, rfl, isFinite_between (fun _ _ => isFinite_greater) hxs⟩
  · exact ⟨_, rfl, Decimal.isFinite_ofInt (n := xs.length) hlength (by decide)⟩

end Worksheet.Script.Aggregate
