import Worksheet.Proofs.Script.Questions
import Worksheet.Script.Engine
import Worksheet.Script.Lexer

/-!
# Faults on their way out

Where nothing in a script handles faults, the fault of one part is the fault of all that is around it, inside the calls
and the modules that it leaves. So the first lookup that fails ends the script, and its code is what the script answers.

* `lacks`, `isHandlerFree` : whether the text of a script has neither the word `try` nor the name of a function that
  keeps faults to itself;
* `Unhandled` : runs that are put together from lookups and from parts after one another, in calls and in modules, but
  without handlers;
* `Engine.OnlyHandlersHandle` : what an engine's documentation promises, that faults go out of everything else;
* `Raises`, `Unhandled.strict` : such a run ends with the first lookup that fails, and with its code inside the calls
  and modules around it, where `Raises.mapError_code` finds it.
-/

namespace Worksheet.Script

/-- Whether the text of a script has neither the word `try` nor one of these names. Malformed text has neither. -/
def lacks (absorbers : List String) (script : String) : Bool :=
  (Lexer.tokens? script).all fun ts => ts.all fun t => !t.handles absorbers

/-- Whether the text of a script has no handlers. -/
def isHandlerFree [Engine] (script : String) : Bool :=
  lacks Engine.absorbers script

variable {α β : Type}

/-! ## Parts of a run -/

namespace Dialogue

/-- A lookup on behalf of a script. If it fails, its code is raised. -/
def lookup (q : Lookup) : Dialogue (Except Fault Value) :=
  ask q fun r => done (r.mapError Fault.ofCode)

/-- A part and what goes on with its value. The fault of the first is a fault of both. -/
def andThen (d : Dialogue (Except Fault α)) (f : α → Dialogue (Except Fault β)) : Dialogue (Except Fault β) :=
  d.bind fun
    | .ok a => f a
    | .error e => done (.error e)

end Dialogue

/-- Runs without handlers. The value of a part is all that is left when it ends, what the part has done to variables
included; what a part has done before its fault is seen by nobody. -/
inductive Unhandled : {α : Type} → Dialogue (Except Fault α) → Prop
  | done {α : Type} (r : Except Fault α) : Unhandled (.done r)
  | lookup (q : Lookup) : Unhandled (.lookup q)
  | andThen {α β : Type} {d : Dialogue (Except Fault α)} {f : α → Dialogue (Except Fault β)} (hd : Unhandled d)
      (hf : ∀ a, Unhandled (f a)) : Unhandled (d.andThen f)
  /-- The body of a function of the script. -/
  | inCall {α : Type} {d : Dialogue (Except Fault α)} (name source : String) (hd : Unhandled d) :
      Unhandled (d.map (Except.mapError (Fault.leaving name source)))
  /-- The body of a module. -/
  | inModule {α : Type} {d : Dialogue (Except Fault α)} (path : String) (hd : Unhandled d) :
      Unhandled (d.map (Except.mapError (Fault.inModule path)))

/-- Only the statement `try` and the absorbers of the library handle faults: a script without them is run without
handlers, whatever else it is made of. -/
def Engine.OnlyHandlersHandle (E : Engine) : Prop :=
  ∀ limit script, isHandlerFree script = true → Unhandled (E.run limit script)

/-! ## The first lookup that fails -/

/-- Whether a part has a fault that a lookup has raised with this code, maybe inside calls and modules. -/
def Raises (c : ErrorCode) (r : Except Fault α) : Prop :=
  ∃ f, r = .error f ∧ f.root = .ofCode c

theorem Raises.mapError {c : ErrorCode} {r : Except Fault α} (h : Raises c r) {wrap : Fault → Fault}
    (hroot : ∀ f, (wrap f).root = f.root) : Raises c (r.mapError wrap) := by
  obtain ⟨f, rfl, hf⟩ := h
  exact ⟨wrap f, rfl, (hroot f).trans hf⟩

theorem Raises.mapError_code {c : ErrorCode} {r : Except Fault α} (h : Raises c r) :
    r.mapError Fault.code = .error c := by
  obtain ⟨f, rfl, hf⟩ := h
  have hcode : f.code = c := by rw [← Fault.code_root, hf, Fault.code_ofCode]
  exact congrArg Except.error hcode

/-- A run without handlers ends with the first lookup that fails, and its fault is the one that the lookup raises. -/
theorem Unhandled.strict {d : Dialogue (Except Fault α)} (h : Unhandled d) : d.Strict Raises := by
  induction h with
  | done r => exact .done r
  | lookup q => exact .ask (fun c => ⟨_, rfl, .ofCode c, rfl, rfl⟩) fun v => .done _
  | andThen _ _ ihd ihf =>
    refine ihd.bind (fun r => ?_) ?_
    · cases r with
      | ok a => exact ihf a
      | error e => exact .done _
    · rintro c _ ⟨f, rfl, hf⟩
      exact ⟨_, rfl, f, rfl, hf⟩
  | inCall name source _ ih =>
    exact ih.bind (fun r => .done _) fun c r hr => ⟨_, rfl, hr.mapError (Fault.root_leaving name source)⟩
  | inModule path _ ih =>
    exact ih.bind (fun r => .done _) fun c r hr => ⟨_, rfl, hr.mapError fun _ => rfl⟩

end Worksheet.Script
