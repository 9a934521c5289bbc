import Worksheet.Failure

/-!
# Stores

A store keeps texts under keys. Reading does not change it; writing may fail, and answers the store as it
is then.

* `Store` : what a store can do.
* `MemoryStore` : a store that lasts as long as the program, and in which nothing fails.
-/

namespace Worksheet

/-- The type `σ` of stores of texts under keys. -/
class Store (σ : Type) where
  /-- The text under a key, if there is one. -/
  read : σ → String → Except Failure (Option String)
  /-- Puts a text under a key in the place of what was there. -/
  write : σ → String → String → Except Failure Unit × σ

structure MemoryStore where
  entries : List (String × String)
  deriving DecidableEq, Repr, Inhabited

namespace MemoryStore

def empty : MemoryStore :=
  ⟨[]⟩

def get? (s : MemoryStore) (key : String) : Option String :=
  s.entries.lookup key

def insert (s : MemoryStore) (key text : String) : MemoryStore :=
  ⟨(key, text) :: s.entries.filter (·.1 != key)⟩

instance : Store MemoryStore where
  read s key := .ok (s.get? key)
  write s key text := (.ok (), s.insert key text)

theorem get?_insert (s : MemoryStore) (key k text : String) :
    (s.insert key text).get? k = if k = key then some text else s.get? k := by
  simp only [get?, insert, List.lookup_cons]
  by_cases h : k = key
  · simp [h]
  · have hne : (k == key) = false := by simpa using h
    simp only [hne, h, if_false]
    generalize s.entries = es
    induction es with
    | nil => rfl
    | cons e es ih =>
      obtain ⟨a, t⟩ := e
      by_cases ha : a = key
      · subst ha
        simp [List.lookup_cons, hne, ih]
      · simp [ha, List.lookup_cons, ih]

end MemoryStore

end Worksheet
