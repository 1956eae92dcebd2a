import Mathlib
import RobotWeb.Mastership.StandIn
import RobotWeb.Proofs.Mastership.Calls

/-!
# Domains do not interfere

The domains share one arbiter, one controller and one reporter, and still each of them goes its own
way: what there is to see of a domain follows from the calls about it and from the answers to these,
whatever is done about the other domains in between.

* `ArbiterCall`, `Arbiter.perform` — calls on an arbiter, one after the other.
* `Arbiter.view`                   — what there is to see of a domain in a run.
* `DomainStep`, `DomainRun`        — what calls on a domain do, told without the other domains.
* `perform_spec`                   — a call takes a step of its domain and leaves the others alone.
* `performAll_spec`                — a run is seen by each domain as a run of its own.
* `DomainRun.unique`               — the calls and the answers settle such a run.
* `domains_do_not_interfere`       — two runs that agree on a domain look the same to it.
-/

namespace RobotWeb.Mastership

-- ---------------------------------------------------------------------------
-- Calls one after the other
-- ---------------------------------------------------------------------------

/-- A call on an arbiter, or the end of a token. The token may be any: one that was given up before,
or that another caller holds. -/
inductive ArbiterCall where
  | acquire (d : Domain)
  | release (t : Token)
  | drop (t : Token)
  deriving DecidableEq

def ArbiterCall.domain : ArbiterCall → Domain
  | acquire d => d
  | release t | drop t => t.domain

/-- What the caller gets back. -/
inductive ArbiterReply where
  | acquired (outcome : Except MastershipError Token)
  | released (outcome : Except MastershipError Unit)
  | dropped

variable {μ ν : Type}

/-- A call that was made, its reply, and the arbiter after it. -/
structure Turn (μ : Type) where
  call : ArbiterCall
  reply : ArbiterReply
  after : Arbiter μ

/-- What there is to see of a domain: the replies to the calls about it, each with whether it was
held afterwards, what was sent to the controller about it, and the failures reported for it. -/
structure View where
  replies : List (ArbiterReply × Bool)
  sent : List WireCall
  reports : List (Domain × MastershipError)

def View.answers (v : View) : List (Except MastershipError Unit) :=
  v.sent.map (·.answer)

/-- The calls about a domain. -/
def callsAbout (d : Domain) (calls : List ArbiterCall) : List ArbiterCall :=
  calls.filter (·.domain = d)

def sentAbout (d : Domain) (calls : List WireCall) : List WireCall :=
  calls.filter (·.domain = d)

def reportsAbout (d : Domain) (reports : List (Domain × MastershipError)) :
    List (Domain × MastershipError) :=
  reports.filter (·.1 = d)

def repliesAbout (d : Domain) (turns : List (Turn μ)) : List (ArbiterReply × Bool) :=
  (turns.filter (·.call.domain = d)).map fun turn => (turn.reply, turn.after.held.has d)

namespace Arbiter

variable [Manager μ]

def perform (a : Arbiter μ) : ArbiterCall → ArbiterReply × Arbiter μ
  | .acquire d => (.acquired (a.acquire d).1, (a.acquire d).2)
  | .release t => (.released (a.release t).1, (a.release t).2)
  | .drop t => (.dropped, a.drop t)

/-- The turns of a run, the first one first. -/
def turns (a : Arbiter μ) : List ArbiterCall → List (Turn μ)
  | [] => []
  | call :: rest =>
    ⟨call, (a.perform call).1, (a.perform call).2⟩ :: (a.perform call).2.turns rest

def performAll (a : Arbiter μ) (calls : List ArbiterCall) : Arbiter μ :=
  calls.foldl (fun a call => (a.perform call).2) a

/-- An arbiter before its first call. -/
def fresh (manager : μ) (reporter : Reporter) : Arbiter (Recorder μ) :=
  { manager := { manager }, reporter }

/-- What there is to see of a domain when these calls are made on the arbiter. -/
def view (d : Domain) (a : Arbiter (Recorder μ)) (calls : List ArbiterCall) : View where
  replies := repliesAbout d (a.turns calls)
  sent := sentAbout d (a.performAll calls).manager.calls
  reports := reportsAbout d (a.performAll calls).reports

end Arbiter

-- ---------------------------------------------------------------------------
-- One domain alone
-- ---------------------------------------------------------------------------

/-- What a call about the domain does, by whether the domain is held: the reply, what is sent, what
is reported, and whether the domain is held afterwards. The answer of the controller is free. -/
inductive DomainStep (d : Domain) : Bool → ArbiterCall → ArbiterReply → List WireCall →
    List (Domain × MastershipError) → Bool → Prop where
  | alreadyHeld :
      DomainStep d true (.acquire d) (.acquired (.error (.alreadyHeld d))) [] [] true
  | refused (e : MastershipError) :
      DomainStep d false (.acquire d) (.acquired (.error e)) [⟨.request, d, .error e⟩] [] false
  | granted :
      DomainStep d false (.acquire d) (.acquired (.ok ⟨d⟩)) [⟨.request, d, .ok ()⟩] [] true
  | released (held : Bool) (answer : Except MastershipError Unit) :
      DomainStep d held (.release ⟨d⟩) (.released answer) [⟨.release, d, answer⟩] [] false
  | dropped (held : Bool) (answer : Except MastershipError Unit) :
      DomainStep d held (.drop ⟨d⟩) .dropped [⟨.release, d, answer⟩]
        (Arbiter.failure? d answer).toList false

/-- What calls about the domain do one after the other. -/
inductive DomainRun (d : Domain) : Bool → List ArbiterCall → View → Prop where
  | nil (held : Bool) : DomainRun d held [] ⟨[], [], []⟩
  | cons {held held' : Bool} {call : ArbiterCall} {calls : List ArbiterCall}
      {reply : ArbiterReply} {sent : List WireCall} {reports : List (Domain × MastershipError)}
      {v : View} (step : DomainStep d held call reply sent reports held')
      (rest : DomainRun d held' calls v) :
      DomainRun d held (call :: calls)
        ⟨(reply, held') :: v.replies, sent ++ v.sent, reports ++ v.reports⟩

namespace DomainStep

variable {d : Domain} {held held' : Bool} {call : ArbiterCall} {reply : ArbiterReply}
  {sent : List WireCall} {reports : List (Domain × MastershipError)}

/-- A step sends nothing about another domain. -/
theorem sentAbout_eq (h : DomainStep d held call reply sent reports held') (other : Domain) :
    sentAbout other sent = if d = other then sent else [] := by
  cases h <;> simp [sentAbout]
  all_goals split <;> simp_all

/-- A step reports nothing about another domain. -/
theorem reportsAbout_eq (h : DomainStep d held call reply sent reports held') (other : Domain) :
    reportsAbout other reports = if d = other then reports else [] := by
  cases h with
  | alreadyHeld | refused | granted | released => simp [reportsAbout]
  | dropped _ answer =>
    cases answer <;> simp [reportsAbout, Arbiter.failure?]
    split <;> simp_all

end DomainStep

-- ---------------------------------------------------------------------------
-- One call
-- ---------------------------------------------------------------------------

namespace Arbiter

variable [Manager μ]

/-- What a call does: it takes a step of its domain, and the other domains stay as they are. -/
structure Performed (a : Arbiter (Recorder μ)) (call : ArbiterCall) (reply : ArbiterReply)
    (after : Arbiter (Recorder μ)) (sent : List WireCall)
    (reports : List (Domain × MastershipError)) : Prop where
  adds : Adds a after sent reports
  step : DomainStep call.domain (a.held.has call.domain) call reply sent reports
    (after.held.has call.domain)
  others : ∀ other, other ≠ call.domain → after.held.has other = a.held.has other
  ordered : after.held.Ordered

/-- What an acquisition calls and reports is about its domain. -/
theorem perform_acquire {a : Arbiter (Recorder μ)} (ho : a.held.Ordered) (d : Domain) :
    ∃ sent reports,
      Performed a (.acquire d) (.acquired (a.acquire d).1) (a.acquire d).2 sent reports := by
  have acquired := acquire_spec ho d
  obtain ⟨⟨outcome, after⟩, heq⟩ : ∃ r, a.acquire d = r := ⟨_, rfl⟩
  rw [heq] at acquired ⊢
  cases acquired with
  | alreadyHeld hhas hheld hadds =>
    -- no call: the domain is held already
    refine ⟨[], [], hadds, ?_, fun other _ => by rw [hheld], hheld ▸ ho⟩
    simp only [ArbiterCall.domain, hheld, hhas]
    exact .alreadyHeld
  | @refused _ e hfree _ hheld hadds =>
    refine ⟨[⟨.request, d, .error e⟩], [], hadds, ?_, fun other _ => by rw [hheld], hheld ▸ ho⟩
    simp only [ArbiterCall.domain, hheld, hfree]
    exact .refused e
  | granted hfree _ hheld _ hadds =>
    have hhas : after.held.has d = true := by simp [hheld, Held.has_insert]
    refine ⟨[⟨.request, d, .ok ()⟩], [], hadds, ?_, fun other hother => ?_, ?_⟩
    · simp only [ArbiterCall.domain, hhas, hfree]
      exact .granted
    · have hother : other ≠ d := hother
      simp [hheld, Held.has_insert, hother]
    · rw [hheld]
      exact Held.Ordered.insert a.held d

/-- What a release calls and reports is about the domain of its token. -/
theorem perform_release {a : Arbiter (Recorder μ)} (ho : a.held.Ordered) (t : Token) :
    ∃ sent reports,
      Performed a (.release t) (.released (a.release t).1) (a.release t).2 sent reports := by
  have released := release_spec a t
  refine ⟨_, _, released.adds, ?_, fun other => has_release_of_ne a, ordered_release ho t⟩
  simp only [ArbiterCall.domain, released.free]
  rw [released.outcome]
  exact .released _ _

/-- What a drop calls and reports is about the domain of its token. -/
theorem perform_drop {a : Arbiter (Recorder μ)} (ho : a.held.Ordered) (t : Token) :
    ∃ sent reports, Performed a (.drop t) .dropped (a.drop t) sent reports := by
  have dropped := drop_spec a t
  refine ⟨_, _, dropped.adds, ?_, fun other => has_drop_of_ne a, ordered_drop ho t⟩
  simp only [ArbiterCall.domain, dropped.free]
  exact .dropped _ _

/-- So every call adds to what there is to see of its own domain, and of no other one. -/
theorem perform_spec {a : Arbiter (Recorder μ)} (ho : a.held.Ordered) (call : ArbiterCall) :
    ∃ sent reports, Performed a call (a.perform call).1 (a.perform call).2 sent reports := by
  cases call with
  | acquire d => exact perform_acquire ho d
  | release t => exact perform_release ho t
  | drop t => exact perform_drop ho t

-- ---------------------------------------------------------------------------
-- A run
-- ---------------------------------------------------------------------------

/-- A run looks to each domain as a run of the calls about it. -/
theorem performAll_spec (d : Domain) (calls : List ArbiterCall) {a : Arbiter (Recorder μ)}
    (ho : a.held.Ordered) :
    ∃ sent reports, Adds a (a.performAll calls) sent reports ∧
      DomainRun d (a.held.has d) (callsAbout d calls)
        ⟨repliesAbout d (a.turns calls), sentAbout d sent, reportsAbout d reports⟩ := by
  induction calls generalizing a with
  | nil => exact ⟨[], [], .refl a, .nil _⟩
  | cons call rest ih =>
    obtain ⟨sent, reports, performed⟩ := perform_spec ho call
    obtain ⟨laterSent, laterReports, hadds, hrun⟩ := ih performed.ordered
    refine ⟨_, _, performed.adds.trans hadds, ?_⟩
    have hsent := performed.step.sentAbout_eq d
    have hreports := performed.step.reportsAbout_eq d
    simp only [sentAbout, reportsAbout, List.filter_append] at hsent hreports hrun ⊢
    -- a call about another domain adds nothing to what this one sees
    by_cases hd : call.domain = d
    · subst hd
      simp only [hsent, hreports, callsAbout, repliesAbout, turns, if_true, decide_true,
        List.filter_cons_of_pos, List.map_cons]
      exact .cons performed.step hrun
    · rw [performed.others d (Ne.symm hd)] at hrun
      simp only [hsent, hreports, callsAbout, repliesAbout, turns, hd, if_false, decide_false,
        Bool.false_eq_true, not_false_eq_true, List.filter_cons_of_neg, List.nil_append]
      exact hrun

end Arbiter

-- ---------------------------------------------------------------------------
-- The same calls and the same answers
-- ---------------------------------------------------------------------------

/-- The two lists are the same as far as both of them go. -/
def Concur {α : Type} (xs ys : List α) : Prop :=
  ∀ (k : Nat) (x y : α), xs[k]? = some x → ys[k]? = some y → x = y

section

variable {α : Type} {xs ys xs' ys' zs : List α}

theorem Concur.refl (xs : List α) : Concur xs xs :=
  fun _ _ _ hx hy => Option.some.inj (hx.symm.trans hy)

/-- Lists that concur do so up to any point. -/
theorem Concur.left (h : Concur (xs ++ xs') (ys ++ ys')) : Concur xs ys := by
  intro k x y hx hy
  have hxk : k < xs.length := (List.getElem?_eq_some_iff.mp hx).1
  have hyk : k < ys.length := (List.getElem?_eq_some_iff.mp hy).1
  exact h k x y (by rwa [List.getElem?_append_left hxk]) (by rwa [List.getElem?_append_left hyk])

/-- What is common to two lists in front does not matter. -/
theorem Concur.right (h : Concur (zs ++ xs) (zs ++ ys)) : Concur xs ys := by
  intro k x y hx hy
  refine h (zs.length + k) x y ?_ ?_
  · rwa [List.getElem?_append_right (by omega), Nat.add_sub_cancel_left]
  · rwa [List.getElem?_append_right (by omega), Nat.add_sub_cancel_left]

/-- Two entries that stand in the same place are equal. -/
theorem Concur.head {x y : α} (h : Concur (x :: xs) (y :: ys)) : x = y :=
  h 0 x y rfl rfl

end

/-- What a step does is settled by the call and the answer to it. -/
theorem DomainStep.unique {d : Domain} {held after after' : Bool} {call : ArbiterCall}
    {reply reply' : ArbiterReply} {sent sent' : List WireCall}
    {reports reports' : List (Domain × MastershipError)}
    (h : DomainStep d held call reply sent reports after)
    (h' : DomainStep d held call reply' sent' reports' after')
    (hanswers : Concur (sent.map (·.answer)) (sent'.map (·.answer))) :
    reply = reply' ∧ sent = sent' ∧ reports = reports' ∧ after = after' := by
  -- the call and whether the domain is held leave at most two steps, which the answer tells apart
  cases h with
  | alreadyHeld =>
    cases h'
    exact ⟨rfl, rfl, rfl, rfl⟩
  | refused e =>
    cases h' with
    | refused e' =>
      obtain rfl := Except.error.inj hanswers.head
      exact ⟨rfl, rfl, rfl, rfl⟩
    | granted => cases hanswers.head
  | granted =>
    cases h' with
    | refused => cases hanswers.head
    | granted => exact ⟨rfl, rfl, rfl, rfl⟩
  | released _ answer =>
    cases h' with
    | released _ answer' =>
      obtain rfl : answer = answer' := hanswers.head
      exact ⟨rfl, rfl, rfl, rfl⟩
  | dropped _ answer =>
    cases h' with
    | dropped _ answer' =>
      obtain rfl : answer = answer' := hanswers.head
      exact ⟨rfl, rfl, rfl, rfl⟩

/-- What a run does is settled by the calls and the answers to them. -/
theorem DomainRun.unique {d : Domain} {held : Bool} {calls : List ArbiterCall} {v v' : View}
    (h : DomainRun d held calls v) (h' : DomainRun d held calls v')
    (hanswers : Concur v.answers v'.answers) : v = v' := by
  induction h generalizing v' with
  | nil =>
    cases h'
    rfl
  | cons step _ ih =>
    cases h' with
    | cons step' rest' =>
      simp only [View.answers, List.map_append] at hanswers
      obtain ⟨rfl, rfl, rfl, rfl⟩ := step.unique step' hanswers.left
      rw [ih rest' hanswers.right]

/-- What there is to see of a domain from the first call on is a run of its own. -/
theorem Arbiter.view_fresh [Manager μ] (d : Domain) (m : μ) (reporter : Reporter)
    (calls : List ArbiterCall) :
    DomainRun d false (callsAbout d calls) ((fresh m reporter).view d calls) := by
  obtain ⟨sent, reports, hadds, hrun⟩ :=
    performAll_spec d calls (a := fresh m reporter) (by rfl)
  have hsent : ((fresh m reporter).performAll calls).manager.calls = sent := hadds.calls
  have hreports : ((fresh m reporter).performAll calls).reports = reports := hadds.reports
  rw [Arbiter.view, hsent, hreports]
  exact hrun

/-- **Domains do not interfere.** Two runs, each on an arbiter of its own, make the same calls about
a domain, and the controllers answer those that they are sent about it in the same way. Then the
replies to these calls, whether the domain is held after each, what is sent about it and what is
reported of it are the same in both runs, whatever they do about the other domains in between. -/
theorem domains_do_not_interfere [Manager μ] [Manager ν] (d : Domain) (m : μ) (n : ν)
    (reporter reporter' : Reporter) {calls calls' : List ArbiterCall}
    (hcalls : callsAbout d calls = callsAbout d calls')
    (hanswers : Concur ((Arbiter.fresh m reporter).view d calls).answers
      ((Arbiter.fresh n reporter').view d calls').answers) :
    (Arbiter.fresh m reporter).view d calls = (Arbiter.fresh n reporter').view d calls' := by
  have hrun := Arbiter.view_fresh d m reporter calls
  have hrun' := Arbiter.view_fresh d n reporter' calls'
  rw [hcalls] at hrun
  exact hrun.unique hrun' hanswers

/-- Both controllers refuse to take one domain back; the second one refuses another domain too. The
first run takes a domain in between and gives it back, the second one takes it earlier, keeps it
longer, and asks in vain for a third. -/
theorem refused_release_looks_the_same :
    let m : StandIn := { refusals := [((.release, .rapid), 409, "busy")] }
    let n : StandIn :=
      { refusals := [((.release, .rapid), 409, "busy"), ((.request, .motion), 403, "taken")] }
    let calls : List ArbiterCall :=
      [.acquire .rapid, .acquire .cfg, .acquire .rapid, .drop ⟨.cfg⟩, .drop ⟨.rapid⟩]
    let calls' : List ArbiterCall :=
      [.acquire .cfg, .acquire .motion, .acquire .rapid, .acquire .cfg, .acquire .rapid,
        .drop ⟨.rapid⟩, .acquire .motion, .release ⟨.cfg⟩]
    callsAbout .rapid calls = callsAbout .rapid calls' ∧
      (Arbiter.fresh m .logging).view .rapid calls =
        (Arbiter.fresh n .collecting).view .rapid calls' ∧
      ((Arbiter.fresh n .collecting).view .rapid calls').reports =
        [(.rapid, .rejected .rapid .release 409 "busy")] := by
  intro m n calls calls'
  let answers : List (Except MastershipError Unit) :=
    [.ok (), .error (.rejected .rapid .release 409 "busy")]
  have hanswers : ((Arbiter.fresh m .logging).view .rapid calls).answers = answers := by
    cbv
  have hanswers' : ((Arbiter.fresh n .collecting).view .rapid calls').answers = answers := by
    cbv
  refine ⟨rfl, domains_do_not_interfere .rapid m n .logging .collecting rfl ?_,
    by decide +kernel⟩
  rw [hanswers, hanswers']
  exact Concur.refl answers

end RobotWeb.Mastership
