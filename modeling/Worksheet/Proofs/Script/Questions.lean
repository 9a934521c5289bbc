import Worksheet.Script.Dialogue

/-!
# The questions of a script

* `Dialogue.asked` : the questions that are asked;
* `Dialogue.run_congr`, `Dialogue.asked_congr` : only the answers to these matter;
* `Dialogue.Strict` : a dialogue that ends at the first question that fails;
* `Dialogue.Strict.fails_of_asked` : it ends with that failure, so all questions of one that does not fail are
  answered; `Dialogue.Strict.nil_of_asked` : no question follows one that fails.
-/

namespace Worksheet.Script.Dialogue

variable {α β : Type}

/-! ## Questions that are asked -/

/-- The questions that are asked when questions are answered by `answer`. -/
def asked (answer : Lookup → Reply) : Dialogue α → List Lookup
  | done _ => []
  | ask q next => q :: (next (answer q)).asked answer

@[simp] theorem asked_map (answer : Lookup → Reply) (f : α → β) (d : Dialogue α) :
    (d.map f).asked answer = d.asked answer := by
  induction d with
  | done a => rfl
  | ask q next ih => exact congrArg (q :: ·) (ih (answer q))

theorem run_congr {f g : Lookup → Reply} {d : Dialogue α} (h : ∀ q ∈ d.asked f, g q = f q) :
    d.run g = d.run f := by
  induction d with
  | done a => rfl
  | ask q next ih =>
    have hq : g q = f q := h q List.mem_cons_self
    rw [run_ask, run_ask, hq]
    exact ih (f q) fun p hp => h p (List.mem_cons_of_mem _ hp)

theorem asked_congr {f g : Lookup → Reply} {d : Dialogue α} (h : ∀ q ∈ d.asked f, g q = f q) :
    d.asked g = d.asked f := by
  induction d with
  | done a => rfl
  | ask q next ih =>
    have hq : g q = f q := h q List.mem_cons_self
    rw [asked, asked, hq, ih (f q) fun p hp => h p (List.mem_cons_of_mem _ hp)]

/-! ## Questions that fail -/

/-- Whether a dialogue ends at the first question that fails, with a result that tells its code. -/
inductive Strict (fails : ErrorCode → α → Prop) : Dialogue α → Prop
  | done (a : α) : Strict fails (done a)
  | ask {q : Lookup} {next : Reply → Dialogue α} (error : ∀ c, ∃ a, next (.error c) = .done a ∧ fails c a)
      (ok : ∀ v, Strict fails (next (.ok v))) : Strict fails (ask q next)

variable {fails : ErrorCode → α → Prop} {fails' : ErrorCode → β → Prop} {d : Dialogue α}

/-- One dialogue after another, where the second passes the failures of the first on. -/
theorem Strict.bind {f : α → Dialogue β} (hd : d.Strict fails) (hf : ∀ a, (f a).Strict fails')
    (herror : ∀ c a, fails c a → ∃ b, f a = .done b ∧ fails' c b) : (d.bind f).Strict fails' := by
  induction hd with
  | done a => exact hf a
  | ask error _ ih =>
    refine .ask (fun c => ?_) ih
    obtain ⟨a, ha, hfails⟩ := error c
    obtain ⟨b, hb, hfails'⟩ := herror c a hfails
    exact ⟨b, by rw [ha]; exact hb, hfails'⟩

/-- A question that is asked and fails decides the result. -/
theorem Strict.fails_of_asked (hd : d.Strict fails) {answer : Lookup → Reply} {q : Lookup} (hq : q ∈ d.asked answer)
    {c : ErrorCode} (hc : answer q = .error c) : fails c (d.run answer) := by
  induction hd with
  | done a => exact absurd hq List.not_mem_nil
  | @ask p next error _ ih =>
    rw [asked] at hq
    rw [run_ask]
    cases hp : answer p with
    | error e =>
      obtain ⟨a, ha, hfails⟩ := error e
      rw [hp, ha, asked, List.mem_singleton] at hq
      obtain rfl : e = c := by simpa [hq, hp] using hc
      rw [ha]
      exact hfails
    | ok v =>
      rw [hp] at hq
      obtain rfl | hq := List.mem_cons.mp hq
      · exact absurd (hp.symm.trans hc) (by simp)
      · exact ih v hq

/-- A question that fails is the last one. -/
theorem Strict.nil_of_asked (hd : d.Strict fails) {answer : Lookup → Reply} {q : Lookup} {before after : List Lookup}
    (hasked : d.asked answer = before ++ q :: after) {c : ErrorCode} (hc : answer q = .error c) : after = [] := by
  induction hd generalizing before with
  | done a => exact absurd hasked.symm (List.append_ne_nil_of_right_ne_nil before (List.cons_ne_nil q after))
  | @ask p next error _ ih =>
    rw [asked] at hasked
    cases before with
    | nil =>
      obtain ⟨rfl, hrest⟩ := List.cons.inj hasked
      obtain ⟨a, ha, -⟩ := error c
      rw [hc, ha] at hrest
      exact hrest.symm
    | cons b before =>
      obtain ⟨rfl, hrest⟩ := List.cons.inj hasked
      cases hp : answer p with
      | error e =>
        obtain ⟨a, ha, -⟩ := error e
        rw [hp, ha] at hrest
        exact absurd hrest.symm (List.append_ne_nil_of_right_ne_nil before (List.cons_ne_nil q after))
      | ok v =>
        rw [hp] at hrest
        exact ih v hrest

end Worksheet.Script.Dialogue
