import RobotWeb.Http.Client
import RobotWeb.Mastership.Error

/-!
# The arbiter of mastership

An arbiter hands out tokens for the domains that this client holds. A domain is reserved before
the controller is asked for it and freed after the controller was told of its release, so that no
two tokens of one domain exist at a time. A token is ended once: it is released, and the caller
gets the outcome, or it is dropped, and a failure goes to the reporter.
-/

namespace RobotWeb.Mastership

-- ---------------------------------------------------------------------------
-- The calls of the controller
-- ---------------------------------------------------------------------------

/-- What can ask the controller for mastership and give it back. -/
class Manager (μ : Type) where
  /-- Asks for a domain. -/
  request : μ → Domain → Except MastershipError Unit × μ
  /-- Gives a domain back. -/
  release : μ → Domain → Except MastershipError Unit × μ
  /-- Adds a record to the journal. -/
  note : μ → Log.Level → String → μ

/-- The outcome of a mastership call over HTTP. -/
def ofReply (d : Domain) (action : Action) :
    Http.Reply Http.Answer → Except MastershipError Unit × Http.Client
  | (.ok _, c) => (.ok (), c)
  | (.error e, c) => (.error (.ofHttp d action e), c)

instance : Manager Http.Client where
  request c d := ofReply d .request (c.post d.requestPath "")
  release c d := ofReply d .release (c.post d.releasePath "")
  note := Http.Client.note

-- ---------------------------------------------------------------------------
-- Held domains
-- ---------------------------------------------------------------------------

/-- The domains that are held, in the order of their names. -/
structure Held where
  domains : List Domain := []
  deriving DecidableEq, Repr

namespace Held

def has (h : Held) (d : Domain) : Bool :=
  h.domains.contains d

def insert (h : Held) (d : Domain) : Held :=
  ⟨Domain.all.filter fun other => other = d || h.has other⟩

def erase (h : Held) (d : Domain) : Held :=
  ⟨h.domains.filter (· ≠ d)⟩

theorem mem_all (d : Domain) : d ∈ Domain.all := by
  cases d <;> decide

/-- Inserting a domain adds it and no other one. -/
theorem has_insert (h : Held) (d other : Domain) :
    (h.insert d).has other = (decide (other = d) || h.has other) := by
  cases hp : decide (other = d) || h.has other
  · simp_all [has, insert]
  · simp_all [has, insert, mem_all]

/-- Erasing a domain takes it away and no other one. -/
theorem has_erase (h : Held) (d other : Domain) :
    (h.erase d).has other = (decide (other ≠ d) && h.has other) := by
  by_cases hd : other = d <;> by_cases hm : other ∈ h.domains <;> simp [has, erase, hd, hm]

end Held

-- ---------------------------------------------------------------------------
-- The arbiter
-- ---------------------------------------------------------------------------

/-- What happens to a failed release of a dropped token, besides being kept as a report. -/
inductive Reporter where
  /-- Nothing else. -/
  | collecting
  /-- It is logged. -/
  | logging
  deriving DecidableEq, Repr

/-- An arbiter: what it asks the controller through, the domains it holds, and the failed releases
of dropped tokens, the first one first. -/
structure Arbiter (μ : Type) where
  manager : μ
  held : Held := {}
  reporter : Reporter := .logging
  reports : List (Domain × MastershipError) := []

/-- The permission to change a domain, until it is released or dropped. -/
structure Token where
  domain : Domain
  deriving DecidableEq, Repr

namespace Arbiter

variable {μ : Type} [Manager μ]

def note (a : Arbiter μ) (level : Log.Level) (message : String) : Arbiter μ :=
  { a with manager := Manager.note a.manager level message }

def reserve? (a : Arbiter μ) (d : Domain) : Option (Arbiter μ) :=
  if a.held.has d then none else some { a with held := a.held.insert d }

def free (a : Arbiter μ) (d : Domain) : Arbiter μ :=
  { a with held := a.held.erase d }

def callRequest (a : Arbiter μ) (d : Domain) : Except MastershipError Unit × Arbiter μ :=
  let (outcome, manager) := Manager.request a.manager d
  (outcome, { a with manager })

/-- Tells the controller that a domain is given back. -/
def callRelease (a : Arbiter μ) (d : Domain) : Except MastershipError Unit × Arbiter μ :=
  let (outcome, manager) := Manager.release a.manager d
  (outcome, { a with manager })

/-- Acquires a domain. One that is held is refused without a call, and a failed request is not
followed by a release. -/
def acquire (a : Arbiter μ) (d : Domain) : Except MastershipError Token × Arbiter μ :=
  match a.reserve? d with
  | none => (.error (.alreadyHeld d), a.note .warn "mastership already held")
  | some a =>
    match a.callRequest d with
    | (.error e, a) => (.error e, (a.free d).note .warn "mastership request failed")
    | (.ok (), a) => (.ok ⟨d⟩, a.note .info "mastership acquired")

/-- Ends a token and gives the outcome. The domain is free afterwards in any case. -/
def release (a : Arbiter μ) (t : Token) : Except MastershipError Unit × Arbiter μ :=
  match a.callRelease t.domain with
  | (.error e, a) => (.error e, a.free t.domain)
  | (.ok (), a) => (.ok (), (a.free t.domain).note .info "mastership released")

def report (a : Arbiter μ) (d : Domain) (e : MastershipError) : Arbiter μ :=
  let a := { a with reports := a.reports ++ [(d, e)] }
  match a.reporter with
  | .collecting => a
  | .logging => a.note .error "failed to release mastership"

def drop (a : Arbiter μ) (t : Token) : Arbiter μ :=
  match a.release t with
  | (.ok (), a) => a
  | (.error e, a) => a.report t.domain e

/-- Runs `body` with a token of the domain, which is dropped afterwards whatever the result is.
If the domain cannot be acquired, the result is what `refused` makes of the failure. -/
def withMastership {ρ : Type} (a : Arbiter μ) (d : Domain) (refused : MastershipError → ρ)
    (body : Token → Arbiter μ → ρ × Arbiter μ) : ρ × Arbiter μ :=
  match a.acquire d with
  | (.error e, a) => (refused e, a)
  | (.ok t, a) =>
    let (result, a) := body t a
    (result, a.drop t)

end Arbiter

/-- The text that describes an arbiter, with the name of its manager. -/
def Arbiter.describe {μ : Type} (a : Arbiter μ) (managerName : String) : String :=
  "MastershipArbiter \x7b manager: " ++ managerName ++ ", held: [" ++
    ", ".intercalate (a.held.domains.map Domain.name) ++ "] \x7d"

def Token.describe (t : Token) : String :=
  "Mastership \x7b domain: " ++ t.domain.name ++ ", released: false \x7d"

end RobotWeb.Mastership
