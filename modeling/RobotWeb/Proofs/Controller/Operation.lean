import RobotWeb.Controller.Configuration
import RobotWeb.Controller.Panel
import RobotWeb.Controller.Program
import RobotWeb.Controller.Restart
import RobotWeb.Controller.ReturnCode

/-!
# Operations on the controller

The operations as data, so that a statement can speak of all of them. An operation looks at the
values that it is given before it sends anything: it either refuses one of them, and then the client
stays as it is, or it asks the controller, and then whatever comes back is no fault of a value.

* `Operation`, `Operation.perform` — the operations, and what they do to a client.
* `Operation.Violates`             — the values that an operation refuses.
* `ofHttp_ne_validation`           — no failure of a request is the fault of a value.
* `perform_cases`                  — refused without a request, or read from an answer.
* `perform_eq_validation`          — when an operation fails for a value.
-/

namespace RobotWeb

open Http (Client Answer)

-- ---------------------------------------------------------------------------
-- Operations
-- ---------------------------------------------------------------------------

/-- An operation on the controller. -/
inductive Operation where
  | controllerState
  | setControllerState (state : ControllerState)
  | operationMode
  | speedRatio
  | setSpeedRatio (ratio : Nat)
  | executionState
  | start (mode : Mastership.Mode)
  | stop
  | symbolValue (v : RapidVariable)
  | load (file : Configuration.File) (mode : Mastership.Mode)
  | lookUp (code : Int32)
  | restart (mode : Mastership.Mode)

namespace Operation

/-- What the operation gives when it succeeds. -/
def Result : Operation → Type
  | controllerState => ControllerState
  | operationMode => OperationMode
  | executionState => ExecutionState
  | speedRatio => Nat
  | symbolValue _ | load .. => String
  | lookUp _ => ReturnCode
  | setControllerState _ | setSpeedRatio _ | start _ | stop | restart _ => Unit

def perform (c : Client) : (op : Operation) → Call op.Result
  | controllerState => Panel.controllerState c
  | setControllerState state => Panel.setControllerState c state
  | operationMode => Panel.operationMode c
  | speedRatio => Panel.speedRatio c
  | setSpeedRatio ratio => Panel.setSpeedRatio c ratio
  | executionState => Program.executionState c
  | start mode => Program.start c mode
  | stop => Program.stop c
  | symbolValue v => Program.symbolValue c v
  | load file mode => Configuration.load c file mode
  | lookUp code => ReturnCode.lookUp c code
  | restart mode => RobotWeb.restart c mode

/-- The operation is given a value that is outside its contract: a speed ratio of more than a
hundred percent, or a file without a name. -/
inductive Violates : Operation → ValidationError → Prop where
  | speedRatio {ratio : Nat} (above : 100 < ratio) :
      Violates (.setSpeedRatio ratio) (.outOfRange "speed-ratio" 0 100 ratio)
  | filename (directory : String) (mode : Mastership.Mode) :
      Violates (.load ⟨directory, ""⟩ mode) (.missing "filename")

/-- No operation violates two constraints. -/
theorem Violates.unique {op : Operation} {e e' : ValidationError}
    (h : op.Violates e) (h' : op.Violates e') : e = e' := by
  cases h <;> cases h' <;> rfl

end Operation

-- ---------------------------------------------------------------------------
-- Failures of requests
-- ---------------------------------------------------------------------------

/-- However a request fails, it is not the fault of a value that the caller gave. -/
theorem ApiError.ofHttp_ne_validation (cause : HttpError) (e : ValidationError) :
    ApiError.ofHttp cause ≠ .validation e := by
  cases cause <;> simp [ApiError.ofHttp]

/-- Whatever an answer is read as, it is not the fault of a value that the caller gave. -/
theorem Call.reading_ne_validation {α : Type} (read : Answer → Except ProtocolError α)
    (reply : Http.Reply Answer) (e : ValidationError) :
    (Call.reading read reply).1 ≠ .error (.validation e) := by
  obtain ⟨outcome, c⟩ := reply
  cases outcome with
  | error cause => simpa [Call.reading] using ApiError.ofHttp_ne_validation cause e
  | ok answer => cases h : read answer <;> simp [Call.reading, h]

-- ---------------------------------------------------------------------------
-- Refusals
-- ---------------------------------------------------------------------------

namespace Operation

/-- An operation refuses a value and does nothing, or all its values are in order and it reads what
comes of a request. -/
theorem perform_cases (op : Operation) (c : Client) :
    (∃ e, op.Violates e ∧ op.perform c = (.error (.validation e), c)) ∨
      (∀ e, ¬ op.Violates e) ∧ ∃ read reply, op.perform c = Call.reading read reply := by
  -- two operations check a value first, the others have no value that could be out of range
  cases op with
  | setSpeedRatio ratio =>
    by_cases hratio : ratio ≤ Panel.maxSpeedRatio
    · refine .inr ⟨fun e h => ?_, ?_⟩
      · cases h with
        | speedRatio above => exact absurd hratio (Nat.not_le_of_lt above)
      · simp only [perform, Panel.setSpeedRatio, hratio, if_true]
        exact ⟨_, _, rfl⟩
    · refine .inl ⟨_, .speedRatio (Nat.lt_of_not_le hratio), ?_⟩
      simp only [perform, Panel.setSpeedRatio, hratio, if_false]
      rfl
  | load file mode =>
    obtain ⟨directory, filename⟩ := file
    by_cases hname : filename = ""
    · subst hname
      exact .inl ⟨_, .filename directory mode, rfl⟩
    · refine .inr ⟨fun e h => ?_, ?_⟩
      · cases h
        exact hname rfl
      · have hname : filename.isEmpty = false := by simpa using hname
        simp only [perform, Configuration.load, hname, Bool.false_eq_true, if_false]
        exact ⟨_, _, rfl⟩
  | controllerState | setControllerState | operationMode | speedRatio | executionState | start
  | stop | symbolValue | lookUp | restart =>
    refine .inr ⟨nofun, ?_⟩
    simp only [perform, Panel.controllerState, Panel.setControllerState, Panel.operationMode,
      Panel.speedRatio, Program.executionState, Program.start, Program.stop, Program.symbolValue,
      ReturnCode.lookUp, RobotWeb.restart, Call.ignoring]
    exact ⟨_, _, rfl⟩

/-- An operation fails for a value if the value is outside its contract, whatever the controller
would have answered. -/
theorem perform_eq_validation (op : Operation) (c : Client) (e : ValidationError) :
    (op.perform c).1 = .error (.validation e) ↔ op.Violates e := by
  rcases op.perform_cases c with ⟨e', hviolates, hperform⟩ | ⟨hnone, read, reply, hperform⟩
  · rw [hperform, Except.error.injEq, ApiError.validation.injEq]
    exact ⟨fun h => h ▸ hviolates, fun h => hviolates.unique h⟩
  · rw [hperform]
    exact ⟨fun h => absurd h (Call.reading_ne_validation read reply e), fun h => absurd h (hnone e)⟩

/-- A value that is refused leaves the client as it is. -/
theorem perform_of_violates {op : Operation} {e : ValidationError} (h : op.Violates e)
    (c : Client) : op.perform c = (.error (.validation e), c) := by
  rcases op.perform_cases c with ⟨e', hviolates, hperform⟩ | ⟨hnone, -⟩
  · rw [hperform, hviolates.unique h]
  · exact absurd h (hnone e)

end Operation

end RobotWeb
