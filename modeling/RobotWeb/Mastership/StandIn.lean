import RobotWeb.Mastership.Arbiter

/-!
# A stand-in for the controller

Answers mastership calls without a controller: it refuses the calls that it was told to refuse and
grants the others.
-/

namespace RobotWeb.Mastership

/-- A mastership call. -/
abbrev ManagerCall := Action × Domain

/-- The calls that are refused, with the status and the reason, the calls so far, the first one
first, and the log. -/
structure StandIn where
  refusals : List (ManagerCall × Nat × String) := []
  calls : List ManagerCall := []
  journal : List Log.Record := []

namespace StandIn

def answer (s : StandIn) (call : ManagerCall) : Except MastershipError Unit × StandIn :=
  let s := { s with calls := s.calls ++ [call] }
  match s.refusals.lookup call with
  | some (status, reason) => (.error (.rejected call.2 call.1 status reason), s)
  | none => (.ok (), s)

def grant (s : StandIn) (call : ManagerCall) : StandIn :=
  { s with refusals := s.refusals.filter (·.1 ≠ call) }

def refuse (s : StandIn) (call : ManagerCall) (status : Nat) (reason : String) : StandIn :=
  { s.grant call with refusals := (call, status, reason) :: (s.grant call).refusals }

end StandIn

instance : Manager StandIn where
  request s d := s.answer (.request, d)
  release s d := s.answer (.release, d)
  note s level message := { s with journal := s.journal ++ [⟨level, message⟩] }

/-- The outcome of the first manager, in place of it. -/
def inFirst {μ ν α : Type} : α × μ → α × (μ ⊕ ν)
  | (a, m) => (a, .inl m)

/-- The outcome of the second manager, in place of it. -/
def inSecond {μ ν α : Type} : α × ν → α × (μ ⊕ ν)
  | (a, m) => (a, .inr m)

/-- Either of two managers. -/
instance {μ ν : Type} [Manager μ] [Manager ν] : Manager (μ ⊕ ν) where
  request
    | .inl m, d => inFirst (Manager.request m d)
    | .inr m, d => inSecond (Manager.request m d)
  release
    | .inl m, d => inFirst (Manager.release m d)
    | .inr m, d => inSecond (Manager.release m d)
  note
    | .inl m, level, message => .inl (Manager.note m level message)
    | .inr m, level, message => .inr (Manager.note m level message)

end RobotWeb.Mastership
