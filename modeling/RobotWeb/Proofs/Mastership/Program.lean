import RobotWeb.Proofs.Mastership.Calls

/-!
# Programs that nest scopes of mastership

A program calls an arbiter and goes on with what each call gives. The body of a scope is a program
of its own, so that scopes are nested to any depth. A program may acquire tokens, which it ends
itself: it releases or drops them one at a time, in any order, and those that are left when it comes
to its result are dropped then, the youngest first.

* `Program`, `Program.run` — programs, and what they do to an arbiter.
* `Deed`, `Program.deeds`  — the calls of the arbiter that a run makes, those in bodies included.
* `Execution`              — a run, step by step.
* `run_forget`             — a recorder changes nothing about a run.
-/

namespace RobotWeb.Mastership

-- ---------------------------------------------------------------------------
-- Programs
-- ---------------------------------------------------------------------------

/-- A program that owns tokens of these domains, the youngest first. -/
inductive Program : List Domain → Type → Type 1 where
  /-- Comes to a result. -/
  | done {own : List Domain} {ρ : Type} (result : ρ) : Program own ρ
  /-- Runs the body, which owns nothing yet and is lent the token of the scope. -/
  | withMastership {own : List Domain} {ρ σ : Type} (d : Domain) (refused : MastershipError → σ)
      (body : Token → Program [] σ) (next : σ → Program own ρ) : Program own ρ
  | acquire {own : List Domain} {ρ : Type} (d : Domain) (granted : Program (d :: own) ρ)
      (refused : MastershipError → Program own ρ) : Program own ρ
  | release {own : List Domain} {ρ : Type} (d : Domain) (hd : d ∈ own)
      (next : Except MastershipError Unit → Program (own.erase d) ρ) : Program own ρ
  | drop {own : List Domain} {ρ : Type} (d : Domain) (hd : d ∈ own)
      (next : Program (own.erase d) ρ) : Program own ρ
  /-- Looks which domains are held. -/
  | look {own : List Domain} {ρ : Type} (next : Held → Program own ρ) : Program own ρ

/-- A call of an arbiter; a scope consists of its entry, the calls of its body and its end. -/
inductive Operation : Type 1 where
  | enter {ρ : Type} (d : Domain) (refused : MastershipError → ρ) (body : Token → Program [] ρ)
  | leave (t : Token)
  | acquire (d : Domain)
  | release (t : Token)
  | drop (t : Token)

/-- A call with the arbiter before it. -/
structure Deed (μ : Type) : Type 1 where
  before : Arbiter μ
  operation : Operation

variable {μ : Type} [Manager μ]

namespace Arbiter

def dropAll (a : Arbiter μ) (domains : List Domain) : Arbiter μ :=
  domains.foldl (fun a d => a.drop ⟨d⟩) a

def dropDeeds (a : Arbiter μ) : List Domain → List (Deed μ)
  | [] => []
  | d :: rest => ⟨a, .drop ⟨d⟩⟩ :: (a.drop ⟨d⟩).dropDeeds rest

/-- What was called so far has no influence on dropping tokens. -/
theorem dropAll_forget (a : Arbiter (Recorder μ)) (domains : List Domain) :
    a.forget.dropAll domains = (a.dropAll domains).forget := by
  induction domains generalizing a with
  | nil => rfl
  | cons d rest ih =>
    have hdrop := drop_forget a ⟨d⟩
    exact (congrArg (dropAll · rest) hdrop).trans (ih _)

/-- A refused scope gives its refusal, and its body is not run. -/
theorem withMastership_of_error {ρ : Type} {a b : Arbiter μ} {d : Domain} {e : MastershipError}
    (h : a.acquire d = (.error e, b)) (refused : MastershipError → ρ)
    (body : Token → Arbiter μ → ρ × Arbiter μ) :
    a.withMastership d refused body = (refused e, b) := by
  rw [withMastership, h]

/-- A scope drops its token when its body has returned. -/
theorem withMastership_of_ok {ρ : Type} {a b : Arbiter μ} {d : Domain} {t : Token}
    (h : a.acquire d = (.ok t, b)) (refused : MastershipError → ρ)
    (body : Token → Arbiter μ → ρ × Arbiter μ) :
    a.withMastership d refused body = ((body t b).1, (body t b).2.drop t) := by
  rw [withMastership, h]

end Arbiter

namespace Program

/-- What the program comes to, and the arbiter after it. -/
def run {own : List Domain} {ρ : Type} : Program own ρ → Arbiter μ → ρ × Arbiter μ
  | .done result, a => (result, a.dropAll own)
  | .withMastership d refused body next, a =>
    let (result, a) := a.withMastership d refused fun t a => (body t).run a
    (next result).run a
  | .acquire d granted refused, a =>
    match a.acquire d with
    | (.ok _, a) => granted.run a
    | (.error e, a) => (refused e).run a
  | .release d _ next, a =>
    let (outcome, a) := a.release ⟨d⟩
    (next outcome).run a
  | .drop d _ next, a => next.run (a.drop ⟨d⟩)
  | .look next, a => (next a.held).run a

/-- The calls of a run, the first one first. -/
def deeds {own : List Domain} {ρ : Type} : Program own ρ → Arbiter μ → List (Deed μ)
  | .done _, a => a.dropDeeds own
  | .withMastership d refused body next, a =>
    ⟨a, .enter d refused body⟩ ::
      match a.acquire d with
      | (.error e, a) => (next (refused e)).deeds a
      | (.ok t, a) =>
        let (result, after) := (body t).run a
        (body t).deeds a ++ ⟨after, .leave t⟩ :: (next result).deeds (after.drop t)
  | .acquire d granted refused, a =>
    ⟨a, .acquire d⟩ ::
      match a.acquire d with
      | (.ok _, a) => granted.deeds a
      | (.error e, a) => (refused e).deeds a
  | .release d _ next, a =>
    let (outcome, after) := a.release ⟨d⟩
    ⟨a, .release ⟨d⟩⟩ :: (next outcome).deeds after
  | .drop d _ next, a => ⟨a, .drop ⟨d⟩⟩ :: next.deeds (a.drop ⟨d⟩)
  | .look next, a => (next a.held).deeds a

end Program

open Arbiter in
/-- A recorder changes nothing about a run. -/
theorem Program.run_forget {own : List Domain} {ρ : Type} (p : Program own ρ)
    (a : Arbiter (Recorder μ)) : p.run a.forget = ((p.run a).1, (p.run a).2.forget) := by
  induction p generalizing a with
  | done result => exact congrArg (Prod.mk result) (dropAll_forget a _)
  | withMastership d refused body next ihbody ih =>
    -- both runs acquire with the same outcome, so that they go into the same branch
    obtain ⟨⟨outcome, b⟩, heq⟩ : ∃ r, a.acquire d = r := ⟨_, rfl⟩
    have hforget := acquire_forget a d
    rw [heq] at hforget
    cases outcome with
    | error e =>
      simp only [run, withMastership_of_error heq, withMastership_of_error hforget]
      exact ih _ b
    | ok t =>
      simp only [run, withMastership_of_ok heq, withMastership_of_ok hforget, ihbody t b,
        drop_forget]
      exact ih _ _
  | acquire d granted refused ihgranted ihrefused =>
    obtain ⟨⟨outcome, b⟩, heq⟩ : ∃ r, a.acquire d = r := ⟨_, rfl⟩
    have hforget := acquire_forget a d
    rw [heq] at hforget
    simp only [run, heq, hforget]
    cases outcome with
    | error e => exact ihrefused e b
    | ok t => exact ihgranted b
  | release d hd next ih =>
    simp only [run, release_forget]
    exact ih _ _
  | drop d hd next ih =>
    simp only [run, drop_forget]
    exact ih _
  | look next ih => exact ih _ a

-- ---------------------------------------------------------------------------
-- Executions
-- ---------------------------------------------------------------------------

open Arbiter (Acquired) in
/-- A program runs from one arbiter to another, makes these calls and comes to this result. -/
inductive Execution : {own : List Domain} → {ρ : Type} → Program own ρ → Arbiter (Recorder μ) →
    List (Deed (Recorder μ)) → ρ → Arbiter (Recorder μ) → Prop where
  | done {ρ : Type} {a : Arbiter (Recorder μ)} (result : ρ) :
      Execution (.done result : Program [] ρ) a [] result a
  /-- The youngest of the tokens that are left is dropped. -/
  | unwind {own : List Domain} {ρ : Type} {d : Domain} {result : ρ}
      {a last : Arbiter (Recorder μ)} {deeds : List (Deed (Recorder μ))}
      (rest : Execution (.done result : Program own ρ) (a.drop ⟨d⟩) deeds result last) :
      Execution (.done result : Program (d :: own) ρ) a (⟨a, .drop ⟨d⟩⟩ :: deeds) result last
  /-- The domain of a scope is not acquired. -/
  | barred {own : List Domain} {ρ σ : Type} {d : Domain} {refused : MastershipError → σ}
      {body : Token → Program [] σ} {next : σ → Program own ρ} {e : MastershipError} {result : ρ}
      {a b last : Arbiter (Recorder μ)} {deeds : List (Deed (Recorder μ))}
      (heq : a.acquire d = (.error e, b)) (acquired : Acquired a d (.error e, b))
      (rest : Execution (next (refused e)) b deeds result last) :
      Execution (.withMastership d refused body next) a (⟨a, .enter d refused body⟩ :: deeds)
        result last
  | scope {own : List Domain} {ρ σ : Type} {d : Domain} {refused : MastershipError → σ}
      {body : Token → Program [] σ} {next : σ → Program own ρ} {result : ρ}
      {a b last : Arbiter (Recorder μ)} {deeds : List (Deed (Recorder μ))}
      (heq : a.acquire d = (.ok ⟨d⟩, b)) (acquired : Acquired a d (.ok ⟨d⟩, b))
      (within : Execution (body ⟨d⟩) b ((body ⟨d⟩).deeds b) ((body ⟨d⟩).run b).1
        ((body ⟨d⟩).run b).2)
      (rest : Execution (next ((body ⟨d⟩).run b).1) (((body ⟨d⟩).run b).2.drop ⟨d⟩) deeds
        result last) :
      Execution (.withMastership d refused body next) a
        (⟨a, .enter d refused body⟩ ::
          ((body ⟨d⟩).deeds b ++ ⟨((body ⟨d⟩).run b).2, .leave ⟨d⟩⟩ :: deeds)) result last
  | refused {own : List Domain} {ρ : Type} {d : Domain} {granted : Program (d :: own) ρ}
      {refused : MastershipError → Program own ρ} {e : MastershipError} {result : ρ}
      {a b last : Arbiter (Recorder μ)} {deeds : List (Deed (Recorder μ))}
      (heq : a.acquire d = (.error e, b)) (acquired : Acquired a d (.error e, b))
      (rest : Execution (refused e) b deeds result last) :
      Execution (.acquire d granted refused) a (⟨a, .acquire d⟩ :: deeds) result last
  | granted {own : List Domain} {ρ : Type} {d : Domain} {granted : Program (d :: own) ρ}
      {refused : MastershipError → Program own ρ} {result : ρ}
      {a b last : Arbiter (Recorder μ)} {deeds : List (Deed (Recorder μ))}
      (heq : a.acquire d = (.ok ⟨d⟩, b)) (acquired : Acquired a d (.ok ⟨d⟩, b))
      (rest : Execution granted b deeds result last) :
      Execution (.acquire d granted refused) a (⟨a, .acquire d⟩ :: deeds) result last
  | release {own : List Domain} {ρ : Type} {d : Domain} {hd : d ∈ own}
      {next : Except MastershipError Unit → Program (own.erase d) ρ} {result : ρ}
      {a last : Arbiter (Recorder μ)} {deeds : List (Deed (Recorder μ))}
      (rest : Execution (next (a.release ⟨d⟩).1) (a.release ⟨d⟩).2 deeds result last) :
      Execution (.release d hd next) a (⟨a, .release ⟨d⟩⟩ :: deeds) result last
  | drop {own : List Domain} {ρ : Type} {d : Domain} {hd : d ∈ own}
      {next : Program (own.erase d) ρ} {result : ρ}
      {a last : Arbiter (Recorder μ)} {deeds : List (Deed (Recorder μ))}
      (rest : Execution next (a.drop ⟨d⟩) deeds result last) :
      Execution (.drop d hd next) a (⟨a, .drop ⟨d⟩⟩ :: deeds) result last
  | look {own : List Domain} {ρ : Type} {next : Held → Program own ρ} {result : ρ}
      {a last : Arbiter (Recorder μ)} {deeds : List (Deed (Recorder μ))}
      (rest : Execution (next a.held) a deeds result last) :
      Execution (.look next) a deeds result last

namespace Execution

open Arbiter (Acquired release_spec drop_spec)

variable {own : List Domain} {ρ : Type} {p : Program own ρ} {a last : Arbiter (Recorder μ)}
  {deeds : List (Deed (Recorder μ))} {result : ρ}

/-- A run gives back what it took, and the tokens that the program owned before. -/
theorem held (h : Execution p a deeds result last) : last.held = a.held.eraseAll own := by
  induction h with
  | done => rfl
  | unwind _ ih => rw [ih, (drop_spec _ _).held, Held.eraseAll_cons]
  | barred _ acquired _ ih | refused _ acquired _ ih => rw [ih, acquired.held_eq]
  | scope _ acquired _ _ ihwithin ih =>
    rw [ih, (drop_spec _ _).held, ihwithin]
    exact congrArg (Held.eraseAll · _) acquired.held_erase
  | granted _ acquired _ ih => rw [ih, Held.eraseAll_cons, acquired.held_erase]
  | @release _ _ _ hd _ _ _ _ _ _ ih => rw [ih, (release_spec _ _).held, Held.eraseAll_erase _ hd]
  | @drop _ _ _ hd _ _ _ _ _ _ ih => rw [ih, (drop_spec _ _).held, Held.eraseAll_erase _ hd]
  | look _ ih => exact ih

/-- A scope gives back what it took. -/
theorem held_leave {d : Domain} {b : Arbiter (Recorder μ)} {body : Program [] ρ}
    (within : Execution body b deeds result last) (acquired : Acquired a d (.ok ⟨d⟩, b)) :
    (last.drop ⟨d⟩).held = a.held := by
  rw [(drop_spec _ _).held, within.held]
  exact acquired.held_erase

end Execution

open Arbiter in
/-- Every run is an execution. -/
theorem Program.execution {own : List Domain} {ρ : Type} (p : Program own ρ)
    {a : Arbiter (Recorder μ)} (ho : a.held.Ordered) :
    Execution p a (p.deeds a) (p.run a).1 (p.run a).2 := by
  induction p generalizing a with
  | @done own _ result =>
    induction own generalizing a with
    | nil => exact .done result
    | cons d own ih => exact .unwind (ih (ordered_drop ho ⟨d⟩))
  | withMastership d refused body next ihbody ih =>
    have acquired := acquire_spec ho d
    obtain ⟨⟨outcome, b⟩, heq⟩ : ∃ r, a.acquire d = r := ⟨_, rfl⟩
    rw [heq] at acquired
    cases outcome with
    | error e =>
      simp only [run, deeds, heq, withMastership_of_error heq]
      exact .barred heq acquired (ih _ (acquired.held_eq ▸ ho))
    | ok t =>
      obtain rfl := acquired.token_eq
      -- the body leaves the domains in order, so that the rest starts with them in order
      have within := ihbody ⟨d⟩ acquired.ordered
      have hafter : ((body ⟨d⟩).run b).2.held.Ordered := by
        rw [within.held]
        exact acquired.ordered
      simp only [run, deeds, heq, withMastership_of_ok heq]
      exact .scope heq acquired within (ih _ (ordered_drop hafter ⟨d⟩))
  | acquire d granted refused ihgranted ihrefused =>
    have acquired := acquire_spec ho d
    obtain ⟨⟨outcome, b⟩, heq⟩ : ∃ r, a.acquire d = r := ⟨_, rfl⟩
    rw [heq] at acquired
    cases outcome with
    | error e =>
      simp only [run, deeds, heq]
      exact .refused heq acquired (ihrefused _ (acquired.held_eq ▸ ho))
    | ok t =>
      obtain rfl := acquired.token_eq
      simp only [run, deeds, heq]
      exact .granted heq acquired (ihgranted acquired.ordered)
  | release d hd next ih => exact .release (ih _ (ordered_release ho ⟨d⟩))
  | drop d hd next ih => exact .drop (ih (ordered_drop ho ⟨d⟩))
  | look next ih => exact .look (ih _ ho)

end RobotWeb.Mastership
