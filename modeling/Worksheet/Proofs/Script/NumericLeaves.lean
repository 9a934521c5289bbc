import Mathlib.Data.List.Sort
import Worksheet.Proofs.Script.LookupCalls

/-!
# Aggregates see numbers only

Arguments are trees: arrays have items, and nothing else has. A number among them stands at a place, the list of
the indices that lead to it, and places are in order as lists are. An aggregate answers by the numbers in the
order of their places; it takes no notice of the places themselves, of the arguments that they are divided
among, or of any other value.

* `Value.item?`, `numberAt?` : what stands at a place;
* `ListsNumbers` : the numbers of arguments from left to right;
* `Value.leaves`, `mem_leaves_iff`, `pairwise_leaves`, `map_snd_leaves` : the numbers with their places;
* `listsNumbers_iff` : the numbers that an aggregate collects are those;
* `callNative_of_listsNumbers` : arguments with the same numbers.
-/

namespace Worksheet.Script

/-! ## Places -/

/-- The number that a value is, if it is one; integers become floats. -/
def Value.number? : Value → Option Float
  | .float x => some x
  | .int n => some (Decimal.ofInt n.toInt)
  | _ => none

/-- What stands at a place in nested arrays. -/
def Value.item? : Value → List Nat → Option Value
  | v, [] => some v
  | .array items, i :: place => items[i]?.bind fun v => v.item? place
  | _, _ :: _ => none

/-- The number at a place among arguments. The first index is that of the argument. -/
def numberAt? (arguments : List Value) (place : List Nat) : Option Float :=
  ((Value.array arguments).item? place).bind Value.number?

/-- Whether these are the numbers among arguments from left to right: their places ascend, and no number stands
anywhere else. -/
def ListsNumbers (arguments : List Value) (xs : List Float) : Prop :=
  ∃ places : List (List Nat), places.Pairwise (· < ·) ∧ places.map (numberAt? arguments) = xs.map some ∧
    ∀ place, (numberAt? arguments place).isSome = true → place ∈ places

/-! ## Numbers with their places -/

mutual

def Value.leaves : Value → List (List Nat × Float)
  | .float x => [([], x)]
  | .int n => [([], Decimal.ofInt n.toInt)]
  | .array items => leavesFrom 0 items
  | _ => []

/-- The numbers of items with their places, where the first item has index `i`. -/
def leavesFrom (i : Nat) : List Value → List (List Nat × Float)
  | [] => []
  | v :: vs => v.leaves.map (fun leaf => (i :: leaf.1, leaf.2)) ++ leavesFrom (i + 1) vs

end

theorem mem_leavesFrom_iff {i : Nat} {vs : List Value} {leaf : List Nat × Float} :
    leaf ∈ leavesFrom i vs ↔
      ∃ j place v, leaf.1 = (i + j) :: place ∧ vs[j]? = some v ∧ (place, leaf.2) ∈ v.leaves := by
  induction vs generalizing i with
  | nil => simp [leavesFrom]
  | cons v vs ih =>
    rw [leavesFrom, List.mem_append, List.mem_map, ih]
    constructor
    · rintro (⟨⟨place, x⟩, hleaf, rfl⟩ | ⟨j, place, w, hplace, hw, hleaf⟩)
      · exact ⟨0, place, v, rfl, rfl, hleaf⟩
      · exact ⟨j + 1, place, w, by rw [hplace, Nat.add_assoc, Nat.add_comm 1], hw, hleaf⟩
    · rintro ⟨j, place, w, hplace, hw, hleaf⟩
      cases j with
      | zero =>
        obtain rfl : v = w := by simpa using hw
        exact .inl ⟨_, hleaf, Prod.ext hplace.symm rfl⟩
      | succ j => exact .inr ⟨j, place, w, by rw [hplace, Nat.add_assoc, Nat.add_comm 1], hw, hleaf⟩

theorem mem_leaves_iff {place : List Nat} {x : Float} {v : Value} :
    (place, x) ∈ v.leaves ↔ (v.item? place).bind Value.number? = some x := by
  induction place generalizing v with
  | nil => cases v <;> simp [Value.leaves, Value.item?, Value.number?, mem_leavesFrom_iff, eq_comm]
  | cons i place ih =>
    cases v with
    | array items =>
      rw [Value.leaves, Value.item?, mem_leavesFrom_iff]
      simp only [Nat.zero_add, List.cons.injEq]
      constructor
      · rintro ⟨_, _, v, ⟨rfl, rfl⟩, hv, hleaf⟩
        rw [hv]
        exact ih.mp hleaf
      · intro h
        cases hv : items[i]? with
        | none =>
          rw [hv] at h
          cases h
        | some v =>
          rw [hv] at h
          exact ⟨i, place, v, ⟨rfl, rfl⟩, hv, ih.mpr h⟩
    | _ => simp [Value.leaves, Value.item?]

mutual

theorem Value.pairwise_leaves : ∀ v : Value, v.leaves.Pairwise fun a b => a.1 < b.1
  | .array items => pairwise_leavesFrom 0 items
  | .float _ | .int _ => List.pairwise_singleton _ _
  | .unit | .bool _ | .char _ | .text _ | .map _ | .range .. | .function _ | .code _ => .nil

theorem pairwise_leavesFrom (i : Nat) : ∀ vs : List Value, (leavesFrom i vs).Pairwise fun a b => a.1 < b.1
  | [] => .nil
  | v :: vs => by
    rw [leavesFrom, List.pairwise_append, List.pairwise_map]
    refine ⟨v.pairwise_leaves.imp fun h => List.cons_lt_cons_iff.mpr (.inr ⟨rfl, h⟩),
      pairwise_leavesFrom (i + 1) vs, ?_⟩
    intro a ha b hb
    obtain ⟨leaf, -, rfl⟩ := List.mem_map.mp ha
    obtain ⟨j, place, -, hplace, -⟩ := mem_leavesFrom_iff.mp hb
    rw [hplace]
    exact List.cons_lt_cons_iff.mpr (.inl (by omega))

end

mutual

theorem Value.map_snd_leaves : ∀ v : Value, v.leaves.map Prod.snd = numbers v
  | .array items => map_snd_leavesFrom 0 items
  | .float _ | .int _ => rfl
  | .unit | .bool _ | .char _ | .text _ | .map _ | .range .. | .function _ | .code _ => rfl

theorem map_snd_leavesFrom (i : Nat) : ∀ vs : List Value, (leavesFrom i vs).map Prod.snd = numbersOfItems vs
  | [] => rfl
  | v :: vs => by
    rw [leavesFrom, List.map_append, List.map_map, map_snd_leavesFrom (i + 1) vs, numbersOfItems,
      ← v.map_snd_leaves]
    rfl

end

/-! ## The numbers of arguments -/

theorem mem_places_iff {vs : List Value} {place : List Nat} :
    place ∈ (leavesFrom 0 vs).map Prod.fst ↔ (numberAt? vs place).isSome = true := by
  rw [List.mem_map, Option.isSome_iff_exists]
  constructor
  · rintro ⟨⟨_, x⟩, hleaf, rfl⟩
    exact ⟨x, mem_leaves_iff.mp hleaf⟩
  · rintro ⟨x, hx⟩
    exact ⟨⟨place, x⟩, mem_leaves_iff.mpr hx, rfl⟩

theorem map_numberAt?_places (vs : List Value) :
    ((leavesFrom 0 vs).map Prod.fst).map (numberAt? vs) = (numbersOfItems vs).map some := by
  rw [← map_snd_leavesFrom 0 vs, List.map_map, List.map_map]
  exact List.map_congr_left fun _ hleaf => mem_leaves_iff.mp hleaf

/-- The numbers that an aggregate collects are the numbers among its arguments from left to right. -/
theorem listsNumbers_iff {vs : List Value} {xs : List Float} : ListsNumbers vs xs ↔ xs = numbersOfItems vs := by
  have hascending : ((leavesFrom 0 vs).map Prod.fst).Pairwise (· < ·) :=
    List.pairwise_map.mpr (pairwise_leavesFrom 0 vs)
  constructor
  · rintro ⟨places, hplaces, hnumbers, hall⟩
    have hmem : ∀ place, place ∈ places ↔ place ∈ (leavesFrom 0 vs).map Prod.fst := by
      intro place
      rw [mem_places_iff]
      refine ⟨fun h => ?_, hall place⟩
      have hsome : numberAt? vs place ∈ xs.map some := hnumbers ▸ List.mem_map_of_mem h
      obtain ⟨x, -, hx⟩ := List.mem_map.mp hsome
      rw [← hx]
      rfl
    have hequal : places = (leavesFrom 0 vs).map Prod.fst := hplaces.eq_of_mem_iff hascending hmem
    rw [hequal, map_numberAt?_places] at hnumbers
    exact (List.map_injective_iff.mpr (Option.some_injective _) hnumbers).symm
  · rintro rfl
    exact ⟨_, hascending, map_numberAt?_places vs, fun _ => mem_places_iff.mpr⟩

/-- An aggregate of up to four arguments answers by their numbers from left to right, and arguments with the same
numbers in this order have the same answer or the same failure. `COUNT` answers how many there are. -/
theorem callNative_of_listsNumbers (a : Aggregate) {vs ws : List Value} (hvs : 1 ≤ vs.length ∧ vs.length ≤ 4)
    (hws : 1 ≤ ws.length ∧ ws.length ≤ 4) :
    (∃! xs, ListsNumbers vs xs) ∧
      ∀ xs, ListsNumbers vs xs →
        callNative Aggregate.count.name vs = pure (.float (Decimal.ofInt xs.length)) ∧
          (ListsNumbers ws xs → callNative a.name vs = callNative a.name ws) := by
  have htakes : ∀ us : List Value, 1 ≤ us.length ∧ us.length ≤ 4 → Aggregate.takes us.length = true := by
    intro us hus
    simpa [Aggregate.takes] using hus
  refine ⟨⟨_, listsNumbers_iff.mpr rfl, fun xs => listsNumbers_iff.mp⟩, fun xs hxs => ⟨?_, fun hxs' => ?_⟩⟩
  · rw [callNative_aggregate _ (htakes vs hvs), Aggregate.ofValues, ← listsNumbers_iff.mp hxs]
    rfl
  · rw [callNative_aggregate a (htakes vs hvs), callNative_aggregate a (htakes ws hws), Aggregate.ofValues,
      Aggregate.ofValues, ← listsNumbers_iff.mp hxs, ← listsNumbers_iff.mp hxs']

def nestedArguments : List Value :=
  [.array [.int 1, .text "3", .array [.float 2.5]], .unit]

def scatteredArguments : List Value :=
  [.bool true, .float 1.0, .map [("k", .int 7)], .array [.array [], .float 2.5]]

theorem callNative_of_listsNumbers_scattered :
    ListsNumbers nestedArguments [1.0, 2.5] ∧ ListsNumbers scatteredArguments [1.0, 2.5] ∧
      callNative "AVERAGE" nestedArguments = callNative "AVERAGE" scatteredArguments ∧
      callNative "COUNT" nestedArguments = pure (.float 2.0) := by
  have hone : Decimal.ofInt (1 : Int64).toInt = 1.0 := by decide +kernel
  have htwo : Decimal.ofInt (2 : Nat) = 2.0 := by decide +kernel
  have hnested : ListsNumbers nestedArguments [1.0, 2.5] := by
    rw [listsNumbers_iff, ← hone]
    rfl
  have hscattered : ListsNumbers scatteredArguments [1.0, 2.5] := listsNumbers_iff.mpr rfl
  obtain ⟨-, hcall⟩ := @callNative_of_listsNumbers .average nestedArguments scatteredArguments (by decide) (by decide)
  obtain ⟨hcount, haverage⟩ := hcall _ hnested
  refine ⟨hnested, hscattered, haverage hscattered, ?_⟩
  rw [← htwo]
  exact hcount

end Worksheet.Script
