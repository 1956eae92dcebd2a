import RobotWeb.Proofs.Mastership.Places

/-!
# What the calls of an arbiter do

One statement for each call of an arbiter: what it gives, which domains are held after it, what it
sends to the controller and what it reports. Later proofs cite these and do not open the calls.

* `Recorder`         — a manager that keeps its calls with their answers.
* `Held.Ordered`     — the held domains are listed as every arbiter lists them.
* `Arbiter.Adds`     — the calls and the reports between two arbiters.
* `acquire_spec`, `release_spec`, `drop_spec` — the calls.
* `Arbiter.forget`   — the arbiter without the record; the calls do the same to it.
-/

namespace RobotWeb.Mastership

-- ---------------------------------------------------------------------------
-- Held domains
-- ---------------------------------------------------------------------------

namespace Held

/-- The domains are in the order of their names, each once. Since `insert` lists them anew, a domain
that is taken and given back leaves the same list only if this holds. -/
def Ordered (h : Held) : Prop :=
  h.domains = Domain.all.filter h.has

def eraseAll (h : Held) (domains : List Domain) : Held :=
  domains.foldl erase h

/-- Held domains are in order when one is put in, since they are listed anew. -/
theorem Ordered.insert (h : Held) (d : Domain) : (h.insert d).Ordered := by
  have hhas : (h.insert d).has = fun other => decide (other = d) || h.has other :=
    funext (has_insert h d)
  rw [Ordered, hhas]
  rfl

/-- Held domains stay in order when one is taken away. -/
theorem Ordered.erase {h : Held} (ho : h.Ordered) (d : Domain) : (h.erase d).Ordered := by
  have hhas : (h.erase d).has = fun other => decide (other ≠ d) && h.has other :=
    funext (has_erase h d)
  have hdomains : (h.erase d).domains = h.domains.filter (· ≠ d) := rfl
  rw [Ordered, hhas, hdomains, ho, List.filter_filter]

/-- Ordered sets with the same domains are equal. -/
theorem Ordered.ext {h h' : Held} (ho : h.Ordered) (ho' : h'.Ordered)
    (hhas : ∀ d, h.has d = h'.has d) : h = h' := by
  have hdomains : h.domains = h'.domains := by rw [ho, ho', funext hhas]
  cases h
  cases h'
  simpa using hdomains

theorem ne_of_has {h : Held} {d other : Domain} (hd : h.has d = true)
    (hfree : h.has other = false) : d ≠ other := by
  rintro rfl
  simp [hd] at hfree

/-- Erasing a domain does not touch the others. -/
theorem has_erase_of_ne (h : Held) {d other : Domain} (hne : other ≠ d) :
    (h.erase d).has other = h.has other := by
  simp [has_erase, hne]

/-- A domain that was free is so again after it was held. -/
theorem Ordered.erase_insert {h : Held} (ho : h.Ordered) {d : Domain} (hfree : h.has d = false) :
    (h.insert d).erase d = h := by
  refine ((Ordered.insert h d).erase d).ext ho fun other => ?_
  rw [has_erase, has_insert]
  by_cases hd : other = d <;> simp [hd, hfree]

theorem eraseAll_cons (h : Held) (d : Domain) (domains : List Domain) :
    h.eraseAll (d :: domains) = (h.erase d).eraseAll domains := rfl

/-- Erasing several domains keeps all others, in their order. -/
theorem domains_eraseAll (h : Held) (domains : List Domain) :
    (h.eraseAll domains).domains = h.domains.filter (· ∉ domains) := by
  induction domains generalizing h with
  | nil => exact (List.filter_eq_self.mpr (by simp)).symm
  | cons d rest ih =>
    rw [eraseAll_cons, ih, erase, List.filter_filter]
    exact List.filter_congr fun other _ => by simp [Bool.and_comm]

/-- It makes no difference whether one of the domains is freed before the others. -/
theorem eraseAll_erase (h : Held) {d : Domain} {domains : List Domain} (hd : d ∈ domains) :
    (h.erase d).eraseAll (domains.erase d) = h.eraseAll domains := by
  have hdomains : ((h.erase d).eraseAll (domains.erase d)).domains =
      (h.eraseAll domains).domains := by
    rw [domains_eraseAll, domains_eraseAll, erase, List.filter_filter]
    refine List.filter_congr fun other _ => ?_
    by_cases he : other = d
    · simp [he, hd]
    · simp [he, List.mem_erase_of_ne he]
  exact congrArg mk hdomains

end Held

-- ---------------------------------------------------------------------------
-- Recorded calls
-- ---------------------------------------------------------------------------

/-- A call to the controller with its answer. -/
structure WireCall where
  action : Action
  domain : Domain
  answer : Except MastershipError Unit

/-- A manager with the calls that were made through it, the first one first. -/
structure Recorder (μ : Type) where
  manager : μ
  calls : List WireCall := []

variable {μ : Type}

instance [Manager μ] : Manager (Recorder μ) where
  request r d :=
    let (answer, manager) := Manager.request r.manager d
    (answer, ⟨manager, r.calls ++ [⟨.request, d, answer⟩]⟩)
  release r d :=
    let (answer, manager) := Manager.release r.manager d
    (answer, ⟨manager, r.calls ++ [⟨.release, d, answer⟩]⟩)
  note r level message := { r with manager := Manager.note r.manager level message }

namespace Arbiter

/-- The failure of a release with the domain that it was about. -/
def failure? (d : Domain) : Except MastershipError Unit → Option (Domain × MastershipError)
  | .ok _ => none
  | .error e => some (d, e)

/-- Between the two arbiters these calls were made and these failures were reported. -/
structure Adds (a a' : Arbiter (Recorder μ)) (calls : List WireCall)
    (reports : List (Domain × MastershipError)) : Prop where
  calls : a'.manager.calls = a.manager.calls ++ calls
  reports : a'.reports = a.reports ++ reports

section

variable {a a' a'' : Arbiter (Recorder μ)} {calls calls' : List WireCall}
  {reports reports' : List (Domain × MastershipError)}

theorem Adds.refl (a : Arbiter (Recorder μ)) : Adds a a [] [] :=
  ⟨by simp, by simp⟩

/-- What was called and reported is put together. -/
theorem Adds.trans (h : Adds a a' calls reports) (h' : Adds a' a'' calls' reports') :
    Adds a a'' (calls ++ calls') (reports ++ reports') :=
  ⟨by rw [h'.calls, h.calls, List.append_assoc], by rw [h'.reports, h.reports, List.append_assoc]⟩

end

variable [Manager μ]

/-- What the controller would answer to a request for the domain. -/
def requestAnswer (a : Arbiter μ) (d : Domain) : Except MastershipError Unit :=
  (a.callRequest d).1

/-- What the controller would answer to a release of the domain. -/
def releaseAnswer (a : Arbiter μ) (d : Domain) : Except MastershipError Unit :=
  (a.callRelease d).1

@[simp] theorem calls_note (a : Arbiter (Recorder μ)) (level : Log.Level) (message : String) :
    (a.note level message).manager.calls = a.manager.calls := rfl

@[simp] theorem reports_note (a : Arbiter μ) (level : Log.Level) (message : String) :
    (a.note level message).reports = a.reports := rfl

/-- Asking the controller for a domain is one call, and reserves nothing by itself. -/
theorem callRequest_spec (a : Arbiter (Recorder μ)) (d : Domain) :
    (a.callRequest d).2.held = a.held ∧
      Adds a (a.callRequest d).2 [⟨.request, d, a.requestAnswer d⟩] [] :=
  ⟨rfl, rfl, (List.append_nil _).symm⟩

/-- Giving a domain back is one call, and frees nothing by itself. -/
theorem callRelease_spec (a : Arbiter (Recorder μ)) (d : Domain) :
    (a.callRelease d).2.held = a.held ∧
      Adds a (a.callRelease d).2 [⟨.release, d, a.releaseAnswer d⟩] [] :=
  ⟨rfl, rfl, (List.append_nil _).symm⟩

-- ---------------------------------------------------------------------------
-- Acquiring
-- ---------------------------------------------------------------------------

/-- What an acquisition gives, and the arbiter after it. -/
inductive Acquired (a : Arbiter (Recorder μ)) (d : Domain) :
    Except MastershipError Token × Arbiter (Recorder μ) → Prop where
  | alreadyHeld {after : Arbiter (Recorder μ)} (has : a.held.has d = true)
      (held : after.held = a.held) (adds : Adds a after [] []) :
      Acquired a d (.error (.alreadyHeld d), after)
  | refused {after : Arbiter (Recorder μ)} {e : MastershipError} (free : a.held.has d = false)
      (answer : a.requestAnswer d = .error e) (held : after.held = a.held)
      (adds : Adds a after [⟨.request, d, .error e⟩] []) : Acquired a d (.error e, after)
  | granted {after : Arbiter (Recorder μ)} (free : a.held.has d = false)
      (answer : a.requestAnswer d = .ok ()) (held : after.held = a.held.insert d)
      (freed : after.held.erase d = a.held) (adds : Adds a after [⟨.request, d, .ok ()⟩] []) :
      Acquired a d (.ok ⟨d⟩, after)

/-- Every acquisition is one of those: by cases on whether the domain is held and on what the
controller answers. -/
theorem acquire_spec {a : Arbiter (Recorder μ)} (ho : a.held.Ordered) (d : Domain) :
    Acquired a d (a.acquire d) := by
  unfold acquire
  cases hr : a.reserve? d with
  | none => exact .alreadyHeld (reserve?_eq_none.mp hr) rfl ⟨by simp, by simp⟩
  | some reserved =>
    obtain ⟨hfree, rfl⟩ := reserve?_eq_some.mp hr
    -- the reservation does not change what the controller answers
    obtain ⟨hheld, hcalls, hreports⟩ := callRequest_spec { a with held := a.held.insert d } d
    obtain ⟨⟨answer, after⟩, hc⟩ :
        ∃ r, callRequest { a with held := a.held.insert d } d = r := ⟨_, rfl⟩
    have hanswer : a.requestAnswer d = answer := congrArg Prod.fst hc
    rw [hc] at hheld hcalls hreports
    simp only [requestAnswer, hc] at hheld hcalls hreports
    simp only [hc]
    cases answer with
    | error e =>
      have hfreed : (after.free d).held = a.held := by
        rw [free, hheld, ho.erase_insert hfree]
      exact .refused hfree hanswer hfreed ⟨hcalls, hreports⟩
    | ok =>
      have hfreed : after.held.erase d = a.held := by rw [hheld, ho.erase_insert hfree]
      exact .granted hfree hanswer hheld hfreed ⟨hcalls, hreports⟩

namespace Acquired

variable {a b : Arbiter (Recorder μ)} {d : Domain}

/-- A refused acquisition leaves the held domains as they were. -/
theorem held_eq {e : MastershipError} (h : Acquired a d (.error e, b)) : b.held = a.held := by
  cases h <;> assumption

/-- The token that is handed out is for the domain that was asked for. -/
theorem token_eq {t : Token} (h : Acquired a d (.ok t, b)) : t = ⟨d⟩ := by
  cases h
  rfl

/-- A domain is handed out only if it was free. -/
theorem free {t : Token} (h : Acquired a d (.ok t, b)) : a.held.has d = false := by
  cases h
  assumption

/-- Taking the domain away again gives back what was held before. -/
theorem held_erase {t : Token} (h : Acquired a d (.ok t, b)) : b.held.erase d = a.held := by
  cases h
  assumption

/-- The domain is held then, and no other one has changed. -/
theorem has_eq {t : Token} (h : Acquired a d (.ok t, b)) (other : Domain) :
    b.held.has other = (decide (other = d) || a.held.has other) := by
  cases h with
  | granted _ _ hheld _ _ => rw [hheld, Held.has_insert]

/-- A domain that is acquired was not among those that are owned already. -/
theorem not_mem {t : Token} {own : List Domain} (h : Acquired a d (.ok t, b))
    (hheld : ∀ other ∈ own, a.held.has other = true) : d ∉ own :=
  fun hd => Held.ne_of_has (hheld d hd) h.free rfl

/-- What a body had before and what it was given are both held. -/
theorem has_of_mem {t : Token} {own : List Domain} (h : Acquired a d (.ok t, b))
    (hheld : ∀ other ∈ own, a.held.has other = true) :
    ∀ other ∈ d :: own, b.held.has other = true := by
  intro other hother
  rw [h.has_eq]
  simpa using (List.mem_cons.mp hother).imp_right (hheld other)

theorem ordered {t : Token} (h : Acquired a d (.ok t, b)) : b.held.Ordered := by
  cases h with
  | granted _ _ hheld _ _ =>
    rw [hheld]
    exact Held.Ordered.insert a.held d

end Acquired

-- ---------------------------------------------------------------------------
-- Ending tokens
-- ---------------------------------------------------------------------------

/-- What a release gives: the caller gets the answer, nothing is reported, and the domain is free
in any case. -/
structure Released (a : Arbiter (Recorder μ)) (t : Token) (outcome : Except MastershipError Unit)
    (after : Arbiter (Recorder μ)) : Prop where
  outcome : outcome = a.releaseAnswer t.domain
  held : after.held = a.held.erase t.domain
  free : after.held.has t.domain = false
  adds : Adds a after [⟨.release, t.domain, a.releaseAnswer t.domain⟩] []

/-- What a drop does: a failed answer is reported, and the domain is free in any case. -/
structure Dropped (a : Arbiter (Recorder μ)) (t : Token) (after : Arbiter (Recorder μ)) : Prop where
  held : after.held = a.held.erase t.domain
  free : after.held.has t.domain = false
  adds : Adds a after [⟨.release, t.domain, a.releaseAnswer t.domain⟩]
    (failure? t.domain (a.releaseAnswer t.domain)).toList

/-- A release makes one call and frees the domain, whatever the controller answers. -/
theorem release_spec (a : Arbiter (Recorder μ)) (t : Token) :
    Released a t (a.release t).1 (a.release t).2 := by
  obtain ⟨hheld, hadds⟩ := callRelease_spec a t.domain
  obtain ⟨⟨answer, after⟩, hc⟩ : ∃ r, a.callRelease t.domain = r := ⟨_, rfl⟩
  have hanswer : a.releaseAnswer t.domain = answer := congrArg Prod.fst hc
  have hfreed : (after.free t.domain).held = a.held.erase t.domain := by
    rw [hc] at hheld
    exact congrArg (Held.erase · t.domain) hheld
  have hfree : (after.free t.domain).held.has t.domain = false := by
    rw [hfreed, Held.has_erase]
    simp
  rw [hc] at hadds
  unfold release
  rw [hc]
  cases answer <;> exact ⟨hanswer.symm, hfreed, hfree, hadds.calls, hadds.reports⟩

theorem report_adds (a : Arbiter (Recorder μ)) (d : Domain) (e : MastershipError) :
    Adds a (a.report d e) [] [(d, e)] := by
  cases hr : a.reporter <;> exact ⟨by simp [report, hr], by simp [report, hr]⟩

/-- A drop makes the call of a release and frees the domain, and it reports the answer if that is a
refusal. -/
theorem drop_spec (a : Arbiter (Recorder μ)) (t : Token) : Dropped a t (a.drop t) := by
  obtain ⟨hanswer, hheld, hfree, hadds⟩ := release_spec a t
  obtain ⟨⟨answer, after⟩, hr⟩ : ∃ r, a.release t = r := ⟨_, rfl⟩
  rw [hr] at hanswer hheld hfree hadds
  unfold drop
  rw [hr]
  -- only a refusal is reported
  cases answer with
  | error e =>
    have hreport : failure? t.domain (a.releaseAnswer t.domain) = some (t.domain, e) := by
      rw [← hanswer]
      rfl
    refine ⟨(held_report after _ _).trans hheld, ?_, ?_⟩
    · rw [held_report]
      exact hfree
    · rw [hreport]
      exact hadds.trans (report_adds after t.domain e)
  | ok =>
    have hreport : failure? t.domain (a.releaseAnswer t.domain) = none := by
      rw [← hanswer]
      rfl
    refine ⟨hheld, hfree, ?_⟩
    rw [hreport]
    exact hadds

/-- A release does not touch other domains. -/
theorem has_release_of_ne (a : Arbiter (Recorder μ)) {t : Token} {d : Domain} (hne : d ≠ t.domain) :
    (a.release t).2.held.has d = a.held.has d := by
  rw [(release_spec a t).held, Held.has_erase_of_ne _ hne]

/-- A drop does not touch them either. -/
theorem has_drop_of_ne (a : Arbiter (Recorder μ)) {t : Token} {d : Domain} (hne : d ≠ t.domain) :
    (a.drop t).held.has d = a.held.has d := by
  rw [(drop_spec a t).held, Held.has_erase_of_ne _ hne]

/-- Releasing a token keeps the held domains in order. -/
theorem ordered_release {a : Arbiter (Recorder μ)} (ho : a.held.Ordered) (t : Token) :
    (a.release t).2.held.Ordered := by
  rw [(release_spec a t).held]
  exact ho.erase t.domain

theorem ordered_drop {a : Arbiter (Recorder μ)} (ho : a.held.Ordered) (t : Token) :
    (a.drop t).held.Ordered := by
  rw [(drop_spec a t).held]
  exact ho.erase t.domain

-- ---------------------------------------------------------------------------
-- Forgetting the record
-- ---------------------------------------------------------------------------

/-- The arbiter without the record of its calls. -/
def forget {μ : Type} (a : Arbiter (Recorder μ)) : Arbiter μ :=
  { manager := a.manager.manager, held := a.held, reporter := a.reporter, reports := a.reports }

/-- What was called and reported so far has no influence on an acquisition. -/
theorem acquire_forget (a : Arbiter (Recorder μ)) (d : Domain) :
    a.forget.acquire d = ((a.acquire d).1, (a.acquire d).2.forget) := by
  cases hhas : a.held.has d with
  | true =>
    simp only [acquire, reserve?, forget, hhas, if_true]
    rfl
  | false =>
    obtain ⟨⟨answer, manager⟩, hm⟩ : ∃ r, Manager.request a.manager.manager d = r := ⟨_, rfl⟩
    simp only [acquire, reserve?, forget, hhas, Bool.false_eq_true, if_false, callRequest,
      Manager.request, hm]
    cases answer <;> rfl

/-- What was called and reported so far has no influence on a release. -/
theorem release_forget (a : Arbiter (Recorder μ)) (t : Token) :
    a.forget.release t = ((a.release t).1, (a.release t).2.forget) := by
  obtain ⟨⟨answer, manager⟩, hm⟩ : ∃ r, Manager.release a.manager.manager t.domain = r := ⟨_, rfl⟩
  simp only [release, callRelease, forget, Manager.release, hm]
  cases answer <;> rfl

/-- What was called and reported so far has no influence on a drop. -/
theorem drop_forget (a : Arbiter (Recorder μ)) (t : Token) :
    a.forget.drop t = (a.drop t).forget := by
  rw [drop, release_forget, drop]
  obtain ⟨⟨answer, b⟩, hr⟩ : ∃ r, a.release t = r := ⟨_, rfl⟩
  rw [hr]
  cases answer with
  | ok => rfl
  | error e =>
    cases hreporter : b.reporter with
    | collecting => simp [report, forget, hreporter]
    | logging =>
      simp only [report, forget, hreporter]
      rfl

end Arbiter

end RobotWeb.Mastership
