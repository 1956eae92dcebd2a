import RobotWeb.Mastership.StandIn
import RobotWeb.Proofs.Mastership.Program

/-!
# Nested scopes give back what they took

However a program nests scopes and ends its own tokens, and whatever the controller answers, the
arbiter holds afterwards what it held before, and each domain that was granted was released once.

* `Deed.call?`, `Deed.report?` — what a call of the arbiter sends and reports.
* `Settled`                    — the calls to the controller about a domain come out even.
* `Deed.scopes?`               — the scopes that are open after a call.
* `Scoped`                     — what `withMastership` does when its body is a program.
* `Program.leaves_arbiter_as_found` — all of it, for every program.
-/

namespace RobotWeb.Mastership

-- ---------------------------------------------------------------------------
-- Calls and reports
-- ---------------------------------------------------------------------------

variable {μ : Type} [Manager μ]

/-- The request of an acquisition; there is none for a domain that is held. -/
def Arbiter.request? (a : Arbiter μ) (d : Domain) : Option WireCall :=
  if a.held.has d then none else some ⟨.request, d, a.requestAnswer d⟩

namespace Deed

/-- What is sent to the controller, with the answer. -/
def call? (deed : Deed μ) : Option WireCall :=
  match deed.operation with
  | .enter d _ _ | .acquire d => deed.before.request? d
  | .leave t | .release t | .drop t =>
    some ⟨.release, t.domain, deed.before.releaseAnswer t.domain⟩

/-- The failed release of a dropped token. A scope drops its token when it ends. -/
def report? (deed : Deed μ) : Option (Domain × MastershipError) :=
  match deed.operation with
  | .leave t | .drop t => Arbiter.failure? t.domain (deed.before.releaseAnswer t.domain)
  | .enter _ _ _ | .acquire _ | .release _ => none

end Deed

def callsOf (deeds : List (Deed μ)) : List WireCall :=
  deeds.filterMap Deed.call?

def reportsOf (deeds : List (Deed μ)) : List (Domain × MastershipError) :=
  deeds.filterMap Deed.report?

theorem callsOf_cons (deed : Deed μ) (deeds : List (Deed μ)) :
    callsOf (deed :: deeds) = deed.call?.toList ++ callsOf deeds := by
  cases h : deed.call? <;> simp [callsOf, h]

theorem reportsOf_cons (deed : Deed μ) (deeds : List (Deed μ)) :
    reportsOf (deed :: deeds) = deed.report?.toList ++ reportsOf deeds := by
  cases h : deed.report? <;> simp [reportsOf, h]

theorem callsOf_append (deeds more : List (Deed μ)) :
    callsOf (deeds ++ more) = callsOf deeds ++ callsOf more :=
  List.filterMap_append

theorem reportsOf_append (deeds more : List (Deed μ)) :
    reportsOf (deeds ++ more) = reportsOf deeds ++ reportsOf more :=
  List.filterMap_append

namespace Arbiter

variable {a b : Arbiter (Recorder μ)} {d : Domain}

/-- The controller is not asked for a domain that is held. -/
theorem request?_of_held (hheld : a.held.has d = true) : a.request? d = none := by
  simp [request?, hheld]

/-- It is asked for any other domain, once. -/
theorem request?_of_free (hfree : a.held.has d = false) :
    a.request? d = some ⟨.request, d, a.requestAnswer d⟩ := by
  simp [request?, hfree]

/-- There is no request for a domain that is held. -/
theorem domain_ne_of_mem_request? {other : Domain} (hheld : a.held.has other = true)
    {call : WireCall} (h : call ∈ a.request? d) : call.domain ≠ other := by
  cases hd : a.held.has d with
  | true =>
    rw [request?_of_held hd] at h
    cases h
  | false =>
    rw [request?_of_free hd] at h
    obtain rfl := Option.some.inj h
    exact (Held.ne_of_has hheld hd).symm

/-- An acquisition sends nothing but this request. -/
theorem Acquired.adds {outcome : Except MastershipError Token} (h : Acquired a d (outcome, b)) :
    Adds a b (a.request? d).toList [] := by
  cases h with
  | alreadyHeld hhas _ hadds =>
    rw [request?_of_held hhas]
    exact hadds
  | refused hfree hanswer _ hadds | granted hfree hanswer _ _ hadds =>
    rw [request?_of_free hfree, hanswer]
    exact hadds

end Arbiter

open Arbiter (Adds Acquired Released Dropped acquire_spec release_spec drop_spec failure?)

-- ---------------------------------------------------------------------------
-- What holds of a run
-- ---------------------------------------------------------------------------

theorem foldlM_append_of_some {α β : Type _} {f : β → α → Option β} {b b' : β} {xs : List α}
    (h : xs.foldlM f b = some b') (ys : List α) :
    (xs ++ ys).foldlM f b = ys.foldlM f b' := by
  rw [List.foldlM_append, h]
  rfl

/-- Whether a domain is granted after a call to the controller; none if the call is out of place:
a second request for a granted domain, or a release of one that is not granted. -/
def tenure? (d : Domain) (granted : Bool) (call : WireCall) : Option Bool :=
  if call.domain = d then
    match granted, call.action, call.answer with
    | false, .request, .error _ => some false
    | false, .request, .ok _ => some true
    | true, .release, _ => some false
    | true, .request, _ | false, .release, _ => none
  else some granted

/-- Each request for the domain that is granted is followed by one release. -/
def Settled (d : Domain) (calls : List WireCall) : Prop :=
  calls.foldlM (tenure? d) false = some false

/-- The call is made while the domain is held, and it is not about the domain if it is sent. -/
def Deed.Spares (d : Domain) (deed : Deed μ) : Prop :=
  deed.before.held.has d = true ∧ ∀ call ∈ deed.call?, call.domain ≠ d

/-- A call about one domain spares every other domain that is held. -/
theorem Deed.spares_of_call {deed : Deed μ} {call : WireCall} {d : Domain}
    (hd : deed.before.held.has d = true) (hcall : deed.call? = some call) (hne : d ≠ call.domain) :
    deed.Spares d := by
  refine ⟨hd, fun other hother => ?_⟩
  obtain rfl : call = other := Option.some.inj (hcall.symm.trans hother)
  exact hne.symm

/-- Calls about other domains do not change whether a domain is granted. -/
theorem foldlM_tenure?_of_ne {d : Domain} {calls : List WireCall}
    (h : ∀ call ∈ calls, call.domain ≠ d) (granted : Bool) :
    calls.foldlM (tenure? d) granted = some granted := by
  induction calls with
  | nil => rfl
  | cons call rest ih =>
    obtain ⟨hcall, hrest⟩ := List.forall_mem_cons.mp h
    have hstep : tenure? d granted call = some granted := if_neg hcall
    rw [List.foldlM_cons, hstep]
    exact ih hrest

/-- Neither do deeds that spare the domain. -/
theorem foldlM_tenure?_of_spares {d : Domain} {deeds : List (Deed μ)}
    (h : ∀ deed ∈ deeds, deed.Spares d) (granted : Bool) :
    (callsOf deeds).foldlM (tenure? d) granted = some granted := by
  refine foldlM_tenure?_of_ne (fun call hcall => ?_) granted
  obtain ⟨deed, hdeed, hcall⟩ := List.mem_filterMap.mp hcall
  exact (h deed hdeed).2 call hcall

/-- A refused request grants nothing. -/
theorem tenure?_request_error {d e : Domain} {granted : Bool} (h : d = e → granted = false)
    (error : MastershipError) : tenure? d granted ⟨.request, e, .error error⟩ = some granted := by
  by_cases hd : d = e
  · subst hd
    simp [tenure?, h rfl]
  · simp [tenure?, Ne.symm hd]

/-- A request that succeeds grants its domain, which must not be granted yet. -/
theorem tenure?_request_ok {d e : Domain} {granted : Bool} (h : d = e → granted = false) :
    tenure? d granted ⟨.request, e, .ok ()⟩ = some (decide (d = e) || granted) := by
  by_cases hd : d = e
  · subst hd
    simp [tenure?, h rfl]
  · simp [tenure?, hd, Ne.symm hd]

/-- A release ends the grant of its domain, whatever it is answered. -/
theorem tenure?_release {d e : Domain} {granted : Bool} (h : d = e → granted = true)
    (answer : Except MastershipError Unit) :
    tenure? d granted ⟨.release, e, answer⟩ = some (decide (d ≠ e) && granted) := by
  by_cases hd : d = e
  · subst hd
    simp [tenure?, h rfl]
  · simp [tenure?, hd, Ne.symm hd]

section

variable {a b : Arbiter (Recorder μ)} {own : List Domain} {e : Domain}

/-- So the domains that a body has keep their grants if it is refused another one. -/
theorem foldlM_tenure?_of_refused {error : MastershipError}
    (acquired : Acquired a e (.error error, b)) (hheld : ∀ d ∈ own, a.held.has d = true)
    (d : Domain) :
    (a.request? e).toList.foldlM (tenure? d) (decide (d ∈ own)) = some (decide (d ∈ own)) := by
  cases acquired with
  | alreadyHeld hhas =>
    rw [Arbiter.request?_of_held hhas]
    rfl
  | refused hfree hanswer =>
    have hnot : d = e → decide (d ∈ own) = false := fun hd =>
      decide_eq_false fun hmem => Held.ne_of_has (hheld d hmem) hfree hd
    rw [Arbiter.request?_of_free hfree, hanswer, Option.toList_some, List.foldlM_cons,
      tenure?_request_error hnot]
    rfl

/-- If it is given another one, this is granted as well. -/
theorem foldlM_tenure?_of_granted (acquired : Acquired a e (.ok ⟨e⟩, b))
    (hheld : ∀ d ∈ own, a.held.has d = true) (d : Domain) :
    (a.request? e).toList.foldlM (tenure? d) (decide (d ∈ own)) =
      some (decide (d ∈ e :: own)) := by
  cases acquired with
  | granted hfree hanswer =>
    have hnot : d = e → decide (d ∈ own) = false := fun hd =>
      decide_eq_false fun hmem => Held.ne_of_has (hheld d hmem) hfree hd
    rw [Arbiter.request?_of_free hfree, hanswer, Option.toList_some, List.foldlM_cons,
      tenure?_request_ok hnot]
    simp

end

theorem mem_iff_ne_and_mem_cons {own : List Domain} {e : Domain} (he : e ∉ own) (d : Domain) :
    d ∈ own ↔ d ≠ e ∧ d ∈ e :: own := by
  refine ⟨fun hd => ⟨fun h => he (h ▸ hd), List.mem_cons_of_mem e hd⟩, fun ⟨hne, hd⟩ => ?_⟩
  exact (List.mem_cons.mp hd).resolve_left hne

/-- A domain that it gives back is not granted any more. -/
theorem foldlM_tenure?_of_ended {own rest : List Domain} {e : Domain} (he : e ∈ own)
    (hrest : ∀ d, d ∈ rest ↔ d ≠ e ∧ d ∈ own) (answer : Except MastershipError Unit) (d : Domain) :
    [⟨.release, e, answer⟩].foldlM (tenure? d) (decide (d ∈ own)) = some (decide (d ∈ rest)) := by
  have howned : d = e → decide (d ∈ own) = true := fun hd => decide_eq_true (hd ▸ he)
  rw [List.foldlM_cons, tenure?_release howned]
  simp [hrest]

/-- A token of the program is ended: what is left to be settled are its other tokens. -/
theorem foldlM_tenure?_ended {h h' : Held} {own rest : List Domain} {d e : Domain}
    {answer : Except MastershipError Unit} {more : List WireCall}
    (hheld : ∀ d ∈ own, h.has d = true) (he : e ∈ own)
    (hrest : ∀ d, d ∈ rest ↔ d ≠ e ∧ d ∈ own) (hsame : ∀ d, d ≠ e → h'.has d = h.has d)
    (hmore : (∀ d ∈ rest, h'.has d = true) →
      more.foldlM (tenure? d) (decide (d ∈ rest)) = some false) :
    (⟨.release, e, answer⟩ :: more).foldlM (tenure? d) (decide (d ∈ own)) = some false := by
  have hafter : ∀ d ∈ rest, h'.has d = true := by
    intro d hd
    obtain ⟨hne, hown⟩ := (hrest d).mp hd
    exact (hsame d hne).trans (hheld d hown)
  exact (foldlM_append_of_some (foldlM_tenure?_of_ended he hrest answer d) more).trans
    (hmore hafter)

/-- The scopes that are open after a call, the innermost first; none if a scope is left that is not
the innermost. -/
def Deed.scopes? (scopes : List Domain) (deed : Deed μ) : Option (List Domain) :=
  match deed.operation with
  | .enter d _ _ =>
    match (deed.before.acquire d).1 with
    | .ok _ => some (d :: scopes)
    | .error _ => some scopes
  | .leave t => if scopes.head? = some t.domain then some scopes.tail else none
  | .acquire _ | .release _ | .drop _ => some scopes

namespace Execution

variable {own : List Domain} {ρ : Type} {p : Program own ρ} {a last : Arbiter (Recorder μ)}
  {deeds : List (Deed (Recorder μ))} {result : ρ}

/-- A run makes the calls of its deeds and reports their failures, and no others. -/
theorem adds (h : Execution p a deeds result last) :
    Adds a last (callsOf deeds) (reportsOf deeds) := by
  induction h with
  | done => exact .refl _
  | unwind _ ih | drop _ ih =>
    rw [callsOf_cons, reportsOf_cons]
    exact (drop_spec _ _).adds.trans ih
  | barred _ acquired _ ih | refused _ acquired _ ih | granted _ acquired _ ih =>
    rw [callsOf_cons, reportsOf_cons]
    exact acquired.adds.trans ih
  | scope _ acquired _ _ ihwithin ih =>
    rw [callsOf_cons, reportsOf_cons, callsOf_append, reportsOf_append, callsOf_cons,
      reportsOf_cons]
    exact acquired.adds.trans (ihwithin.trans ((drop_spec _ _).adds.trans ih))
  | release _ ih =>
    rw [callsOf_cons, reportsOf_cons]
    exact (release_spec _ _).adds.trans ih
  | look _ ih => exact ih

/-- Scopes are left in the opposite order of their entries. -/
theorem scopes (h : Execution p a deeds result last) (scopes : List Domain) :
    deeds.foldlM Deed.scopes? scopes = some scopes := by
  induction h generalizing scopes with
  | done => rfl
  | unwind _ ih | drop _ ih | release _ ih | refused _ _ _ ih | granted _ _ _ ih => exact ih scopes
  | @barred _ _ _ d refused body _ _ _ a _ _ _ heq _ _ ih =>
    have hstep : Deed.scopes? scopes ⟨a, .enter d refused body⟩ = some scopes := by
      simp only [Deed.scopes?, heq]
    rw [List.foldlM_cons, hstep]
    exact ih scopes
  -- the scope is on the stack for its body, which leaves the stack as it finds it
  | @scope _ _ _ d refused body _ _ a b _ _ heq _ _ _ ihwithin ih =>
    have hstep : Deed.scopes? scopes ⟨a, .enter d refused body⟩ = some (d :: scopes) := by
      simp only [Deed.scopes?, heq]
    have hleave : Deed.scopes? (d :: scopes) ⟨((body ⟨d⟩).run b).2, .leave ⟨d⟩⟩ = some scopes :=
      if_pos rfl
    rw [List.foldlM_cons, hstep]
    refine (foldlM_append_of_some (ihwithin (d :: scopes)) _).trans ?_
    rw [List.foldlM_cons, hleave]
    exact ih scopes
  | look _ ih => exact ih scopes

/-- A domain that is held and not by the program stays held, and nothing is sent about it. -/
theorem spares (h : Execution p a deeds result last) {d : Domain} (hd : a.held.has d = true)
    (hown : d ∉ own) : ∀ deed ∈ deeds, deed.Spares d := by
  -- the program owns no token of the domain, so that no deed of it can be about the domain
  induction h with
  | done => exact List.forall_mem_nil _
  | @unwind _ _ e _ a _ _ _ ih =>
    obtain ⟨hne, hrest⟩ := List.ne_and_not_mem_of_not_mem_cons hown
    have hafter : (a.drop ⟨e⟩).held.has d = true := (a.has_drop_of_ne hne).trans hd
    exact List.forall_mem_cons.mpr ⟨Deed.spares_of_call hd rfl hne, ih hafter hrest⟩
  | @drop _ _ e he _ _ a _ _ _ ih =>
    have hne : d ≠ e := fun h => hown (h ▸ he)
    have hafter : (a.drop ⟨e⟩).held.has d = true := (a.has_drop_of_ne hne).trans hd
    exact List.forall_mem_cons.mpr
      ⟨Deed.spares_of_call hd rfl hne, ih hafter (mt List.mem_of_mem_erase hown)⟩
  | @release _ _ e he _ _ a _ _ _ ih =>
    have hne : d ≠ e := fun h => hown (h ▸ he)
    have hafter : (a.release ⟨e⟩).2.held.has d = true := (a.has_release_of_ne hne).trans hd
    exact List.forall_mem_cons.mpr
      ⟨Deed.spares_of_call hd rfl hne, ih hafter (mt List.mem_of_mem_erase hown)⟩
  | barred _ acquired _ ih | refused _ acquired _ ih =>
    have hafter := acquired.held_eq ▸ hd
    exact List.forall_mem_cons.mpr
      ⟨⟨hd, fun _ => Arbiter.domain_ne_of_mem_request? hd⟩, ih hafter hown⟩
  | @scope _ _ _ e refused body _ _ a b _ _ _ acquired within _ ihwithin ih =>
    -- what is acquired was free, so that it is another domain
    have hne : d ≠ e := Held.ne_of_has hd acquired.free
    have hb : b.held.has d = true := by simp [acquired.has_eq, hd]
    have hc : ((body ⟨e⟩).run b).2.held.has d = true := by
      rw [within.held]
      exact hb
    have hafter := within.held_leave acquired ▸ hd
    refine List.forall_mem_cons.mpr
      ⟨⟨hd, fun _ => Arbiter.domain_ne_of_mem_request? hd⟩, List.forall_mem_append.mpr ⟨?_, ?_⟩⟩
    · exact ihwithin hb List.not_mem_nil
    · exact List.forall_mem_cons.mpr ⟨Deed.spares_of_call hc rfl hne, ih hafter hown⟩
  | @granted _ _ e _ _ _ a b _ _ _ acquired _ ih =>
    have hne : d ≠ e := Held.ne_of_has hd acquired.free
    have hb : b.held.has d = true := by simp [acquired.has_eq, hd]
    exact List.forall_mem_cons.mpr ⟨⟨hd, fun _ => Arbiter.domain_ne_of_mem_request? hd⟩,
      ih hb (List.not_mem_cons_of_ne_of_not_mem hne hown)⟩
  | look _ ih => exact ih hd hown

/-- Each domain that is granted is released once, and those that the program owns are released. -/
theorem settled (h : Execution p a deeds result last) (hnodup : own.Nodup)
    (hheld : ∀ d ∈ own, a.held.has d = true) (d : Domain) :
    (callsOf deeds).foldlM (tenure? d) (decide (d ∈ own)) = some false := by
  induction h with
  | done => rfl
  | @unwind own _ e _ a _ _ _ ih =>
    obtain ⟨hnot, hrest⟩ := List.nodup_cons.mp hnodup
    exact foldlM_tenure?_ended hheld List.mem_cons_self (mem_iff_ne_and_mem_cons hnot)
      (fun _ hne => a.has_drop_of_ne hne) (ih hrest)
  | @drop own _ e he _ _ a _ _ _ ih =>
    exact foldlM_tenure?_ended hheld he (fun _ => hnodup.mem_erase_iff)
      (fun _ hne => a.has_drop_of_ne hne) (ih (hnodup.erase e))
  | @release own _ e he _ _ a _ _ _ ih =>
    exact foldlM_tenure?_ended hheld he (fun _ => hnodup.mem_erase_iff)
      (fun _ hne => a.has_release_of_ne hne) (ih (hnodup.erase e))
  | @barred own _ _ _ _ _ _ _ _ _ b _ _ _ acquired _ ih
    | @refused own _ _ _ _ _ _ _ b _ _ _ acquired _ ih =>
    have hafter : ∀ d ∈ own, b.held.has d = true := acquired.held_eq ▸ hheld
    rw [callsOf_cons]
    exact (foldlM_append_of_some (foldlM_tenure?_of_refused acquired hheld d) _).trans
      (ih hnodup hafter)
  | @scope own _ _ e refused body _ _ a b _ _ _ acquired within _ ihwithin ih =>
    have hnot := acquired.not_mem hheld
    have hafter := within.held_leave acquired ▸ hheld
    have hinside : (callsOf ((body ⟨e⟩).deeds b)).foldlM (tenure? d) (decide (d ∈ e :: own)) =
        some (decide (d ∈ e :: own)) := by
      -- nothing is sent about a domain that is held inside; one that is free is settled inside
      cases hb : b.held.has d with
      | true => exact foldlM_tenure?_of_spares (within.spares hb List.not_mem_nil) _
      | false =>
        have hfree : d ∉ e :: own := fun hd =>
          Bool.false_ne_true (hb.symm.trans (acquired.has_of_mem hheld d hd))
        rw [decide_eq_false hfree]
        exact ihwithin List.nodup_nil (List.forall_mem_nil _)
    have hleave := foldlM_tenure?_of_ended List.mem_cons_self (mem_iff_ne_and_mem_cons hnot)
      (((body ⟨e⟩).run b).2.releaseAnswer e) d
    rw [callsOf_cons, callsOf_append, callsOf_cons]
    calc _ = _ := foldlM_append_of_some (foldlM_tenure?_of_granted acquired hheld d) _
      _ = _ := foldlM_append_of_some hinside _
      _ = _ := foldlM_append_of_some hleave _
      _ = some false := ih hnodup hafter
  | @granted own _ e _ _ _ a b _ _ _ acquired _ ih =>
    have hnot := acquired.not_mem hheld
    have hafter := acquired.has_of_mem hheld
    rw [callsOf_cons]
    exact (foldlM_append_of_some (foldlM_tenure?_of_granted acquired hheld d) _).trans
      (ih (List.nodup_cons.mpr ⟨hnot, hnodup⟩) hafter)
  | look _ ih => exact ih hnodup hheld

end Execution

-- ---------------------------------------------------------------------------
-- What the calls of a run do
-- ---------------------------------------------------------------------------

/-- What `withMastership` gives with a program as its body, and the arbiter after it. -/
inductive Scoped {ρ : Type} (a : Arbiter (Recorder μ)) (d : Domain) (refused : MastershipError → ρ)
    (body : Token → Program [] ρ) : ρ × Arbiter (Recorder μ) → Prop where
  /-- The domain is held, and stays so. The body is not run. -/
  | alreadyHeld {after : Arbiter (Recorder μ)} (has : a.held.has d = true)
      (only : a.acquire d = (.error (.alreadyHeld d), after)) (held : after.held = a.held)
      (adds : Adds a after [] []) : Scoped a d refused body (refused (.alreadyHeld d), after)
  /-- The request fails. The body is not run. -/
  | refused {e : MastershipError} {after : Arbiter (Recorder μ)} (free : a.held.has d = false)
      (only : a.acquire d = (.error e, after)) (held : after.held = a.held)
      (adds : Adds a after [⟨.request, d, .error e⟩] []) :
      Scoped a d refused body (refused e, after)
  /-- The body is run, and the domain is held until it comes to its result. -/
  | ran {inside after : Arbiter (Recorder μ)} {answer : Except MastershipError Unit}
      (free : a.held.has d = false) (first : a.acquire d = (.ok ⟨d⟩, inside))
      (spares : ∀ deed ∈ (body ⟨d⟩).deeds inside, deed.Spares d)
      (settled : ∀ other, Settled other (callsOf ((body ⟨d⟩).deeds inside)))
      (held : after.held = a.held)
      (adds : Adds a after
        (⟨.request, d, .ok ()⟩ :: callsOf ((body ⟨d⟩).deeds inside) ++ [⟨.release, d, answer⟩])
        (reportsOf ((body ⟨d⟩).deeds inside) ++ (failure? d answer).toList)) :
      Scoped a d refused body (((body ⟨d⟩).run inside).1, after)

/-- A call of a run does what it should: a scope keeps its promises, an acquisition is for a free
domain, a release gives its failure to the caller, and a drop reports it. -/
def Deed.Orderly (deed : Deed (Recorder μ)) : Prop :=
  match deed.operation with
  | .enter d refused body =>
    Scoped deed.before d refused body
      (deed.before.withMastership d refused fun t a => (body t).run a)
  | .acquire d => Acquired deed.before d (deed.before.acquire d)
  | .release t => Released deed.before t (deed.before.release t).1 (deed.before.release t).2
  | .leave t | .drop t => Dropped deed.before t (deed.before.drop t)

/-- A scope that is refused its domain does not run its body. -/
theorem Scoped.of_error {ρ : Type} {a b : Arbiter (Recorder μ)} {d : Domain} {e : MastershipError}
    (heq : a.acquire d = (.error e, b)) (acquired : Acquired a d (.error e, b))
    (refused : MastershipError → ρ) (body : Token → Program [] ρ) :
    Scoped a d refused body (a.withMastership d refused fun t a => (body t).run a) := by
  rw [Arbiter.withMastership_of_error heq]
  cases acquired with
  | alreadyHeld hhas hheld hadds => exact .alreadyHeld hhas heq hheld hadds
  | refused hfree _ hheld hadds => exact .refused hfree heq hheld hadds

/-- Any other scope runs its body with the domain and gives the domain back after it. -/
theorem Scoped.of_ok {ρ : Type} {a b : Arbiter (Recorder μ)} {d : Domain}
    (heq : a.acquire d = (.ok ⟨d⟩, b)) (acquired : Acquired a d (.ok ⟨d⟩, b))
    (refused : MastershipError → ρ) {body : Token → Program [] ρ}
    (within : Execution (body ⟨d⟩) b ((body ⟨d⟩).deeds b) ((body ⟨d⟩).run b).1
      ((body ⟨d⟩).run b).2) :
    Scoped a d refused body (a.withMastership d refused fun t a => (body t).run a) := by
  have hd : b.held.has d = true := acquired.has_of_mem (List.forall_mem_nil _) d List.mem_cons_self
  have hspares := within.spares hd List.not_mem_nil
  have hsettled := within.settled List.nodup_nil (List.forall_mem_nil _)
  have hheld := within.held_leave acquired
  have hleave := (drop_spec ((body ⟨d⟩).run b).2 ⟨d⟩).adds
  rw [Arbiter.withMastership_of_ok heq]
  cases acquired with
  | granted hfree _ _ _ hadds =>
    exact .ran hfree heq hspares hsettled hheld ((hadds.trans within.adds).trans hleave)

/-- Every call of a run is orderly. -/
theorem Execution.orderly {own : List Domain} {ρ : Type} {p : Program own ρ}
    {a last : Arbiter (Recorder μ)} {deeds : List (Deed (Recorder μ))} {result : ρ}
    (h : Execution p a deeds result last) : ∀ deed ∈ deeds, deed.Orderly := by
  -- each call has its own lemma; the induction is only over where the calls stand
  induction h with
  | done => exact List.forall_mem_nil _
  | unwind _ ih | drop _ ih => exact List.forall_mem_cons.mpr ⟨drop_spec _ _, ih⟩
  | release _ ih => exact List.forall_mem_cons.mpr ⟨release_spec _ _, ih⟩
  | barred heq acquired _ ih => exact List.forall_mem_cons.mpr ⟨.of_error heq acquired _ _, ih⟩
  | scope heq acquired within _ ihwithin ih =>
    refine List.forall_mem_cons.mpr
      ⟨.of_ok heq acquired _ within, List.forall_mem_append.mpr ⟨ihwithin, ?_⟩⟩
    exact List.forall_mem_cons.mpr ⟨drop_spec _ _, ih⟩
  | @refused _ _ d _ _ _ _ a _ _ _ heq acquired _ ih
    | @granted _ _ d _ _ _ a _ _ _ heq acquired _ ih =>
    have horderly : Acquired a d (a.acquire d) := by
      rw [heq]
      exact acquired
    exact List.forall_mem_cons.mpr ⟨horderly, ih⟩
  | look _ ih => exact ih

/-- **A program leaves the arbiter as it found it.** It makes the calls of its deeds and reports
their failures, and no others; about each domain the calls come out even; scopes are left in the
opposite order of their entries; every call is orderly; and without the record of its calls the run
is the same. -/
theorem Program.leaves_arbiter_as_found {ρ : Type} (p : Program [] ρ) {a : Arbiter (Recorder μ)}
    (ho : a.held.Ordered) :
    (p.run a).2.held = a.held ∧
      Adds a (p.run a).2 (callsOf (p.deeds a)) (reportsOf (p.deeds a)) ∧
      (∀ d, Settled d (callsOf (p.deeds a))) ∧
      (p.deeds a).foldlM Deed.scopes? [] = some [] ∧
      (∀ deed ∈ p.deeds a, deed.Orderly) ∧
      p.run a.forget = ((p.run a).1, (p.run a).2.forget) := by
  have h := p.execution ho
  have hsettled := h.settled List.nodup_nil (List.forall_mem_nil _)
  exact ⟨h.held, h.adds, hsettled, h.scopes [], h.orderly, p.run_forget a⟩

/-- Enters a scope, acquires another domain inside, tries to enter the same scope again, and gives
that result after it has released its token. -/
def reentry : Program [] (Except MastershipError Unit) :=
  .withMastership .rapid .error
    (fun _ =>
      .acquire .cfg
        (.withMastership .rapid .error (fun _ => .done (.ok ())) fun again =>
          .release .cfg List.mem_cons_self fun _ => .done again)
        (fun e => .done (.error e)))
    .done

/-- An arbiter of a controller that takes no domain back. -/
def stubborn : Arbiter (Recorder StandIn) :=
  { manager :=
      { manager :=
          { refusals := [((.release, .cfg), 409, "busy"), ((.release, .rapid), 409, "busy")] } } }

theorem reentry_is_left :
    stubborn.held.Ordered ∧
      (reentry.run stubborn).1 = .error (.alreadyHeld .rapid) ∧
      (reentry.run stubborn).2.held = stubborn.held ∧
      (reentry.run stubborn).2.reports = [(.rapid, .rejected .rapid .release 409 "busy")] ∧
      (reentry.run stubborn).2.manager.calls =
        [⟨.request, .rapid, .ok ()⟩, ⟨.request, .cfg, .ok ()⟩,
          ⟨.release, .cfg, .error (.rejected .cfg .release 409 "busy")⟩,
          ⟨.release, .rapid, .error (.rejected .rapid .release 409 "busy")⟩] ∧
      ∀ deed ∈ reentry.deeds stubborn, deed.Orderly := by
  have hordered : stubborn.held.Ordered := rfl
  obtain ⟨hheld, -, -, -, horderly, -⟩ := Program.leaves_arbiter_as_found reentry hordered
  exact ⟨hordered, rfl, hheld, rfl, rfl, horderly⟩

end RobotWeb.Mastership
