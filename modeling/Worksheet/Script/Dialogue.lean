import Worksheet.Script.Fault

/-!
# Scripts that ask

A running script may look up cells. It does not see the sheet: it asks, and goes on with the reply. A
`Dialogue` is what is left of a run, either its result or a question with what follows each reply; the
sheet comes in only when the questions are answered.

* `Lookup`, `Reply` : a question and its answer.
* `Dialogue.bind`, `Dialogue.map` : one dialogue after another, and its result replaced.
* `Dialogue.run` : the result when every question is answered by a function.
* `run_bind` : questions are answered in order, one dialogue after the other.
-/

namespace Worksheet.Script

/-- What a script asks for. Columns and rows are counted from zero. -/
inductive Lookup
  /-- The value of a cell. -/
  | cell (column row : Nat)
  /-- The rows of values between two corners. -/
  | range (column₁ row₁ column₂ row₂ : Nat)
  /-- A cell or a range at a negative column or row. -/
  | negative
  deriving DecidableEq, Repr

abbrev Reply := Except ErrorCode Value

/-- The rest of a run. -/
inductive Dialogue (α : Type)
  | done (a : α)
  | ask (question : Lookup) (next : Reply → Dialogue α)

namespace Dialogue

variable {α β γ : Type}

def bind : Dialogue α → (α → Dialogue β) → Dialogue β
  | done a, f => f a
  | ask q next, f => ask q fun r => (next r).bind f

def map (f : α → β) (d : Dialogue α) : Dialogue β :=
  d.bind fun a => done (f a)

def run (answer : Lookup → Reply) : Dialogue α → α
  | done a => a
  | ask q next => (next (answer q)).run answer

@[simp] theorem run_done (answer : Lookup → Reply) (a : α) : (done a).run answer = a := rfl

@[simp] theorem run_ask (answer : Lookup → Reply) (q : Lookup) (next : Reply → Dialogue α) :
    (ask q next).run answer = (next (answer q)).run answer := rfl

@[simp] theorem run_bind (answer : Lookup → Reply) (d : Dialogue α) (f : α → Dialogue β) :
    (d.bind f).run answer = (f (d.run answer)).run answer := by
  induction d with
  | done a => rfl
  | ask q next ih => exact ih (answer q)

@[simp] theorem run_map (answer : Lookup → Reply) (f : α → β) (d : Dialogue α) :
    (d.map f).run answer = f (d.run answer) :=
  run_bind answer d _

@[simp] theorem bind_done (d : Dialogue α) : d.bind done = d := by
  induction d with
  | done a => rfl
  | ask q next ih => simp [bind, ih]

theorem bind_assoc (d : Dialogue α) (f : α → Dialogue β) (g : β → Dialogue γ) :
    (d.bind f).bind g = d.bind fun a => (f a).bind g := by
  induction d with
  | done a => rfl
  | ask q next ih => simp [bind, ih]

end Dialogue

end Worksheet.Script
