import RobotWeb.Mastership.Arbiter

/-!
# Threads that share an arbiter

The calls of an arbiter consist of smaller steps: the held domains are changed under a lock, and the
lock is not held while the controller is asked. Here any number of threads take these steps in any
order. What the controller answers, and what else an answer does to the manager, is free. A token
may be passed to another thread before it is ended.

* `System.Step`       — one step of one thread.
* `System.Reaches`    — any number of steps, by the threads that are allowed to take them.
* `acquire_alone`, `release_alone`, `drop_alone` — a thread that is not interrupted does what the
  call of the arbiter does.
-/

namespace RobotWeb.Mastership

-- ---------------------------------------------------------------------------
-- Threads
-- ---------------------------------------------------------------------------

/-- One holding of a domain, from its reservation until the domain is free again. No two have the
same number. -/
structure Tenure where
  number : Nat
  domain : Domain
  deriving DecidableEq, Repr

inductive Manner where
  | released
  | dropped
  deriving DecidableEq, Repr

/-- What a thread is in the middle of. -/
inductive Activity where
  | idle
  /-- The domain is reserved; the controller will be asked for it. -/
  | reserved (t : Tenure)
  /-- The request is under way. -/
  | requesting (t : Tenure)
  /-- The request has failed; the domain will be freed. -/
  | refused (t : Tenure) (e : MastershipError)
  /-- The release is under way. -/
  | releasing (t : Tenure) (manner : Manner)
  /-- The release has been answered; the domain will be freed. -/
  | released (t : Tenure) (manner : Manner) (outcome : Except MastershipError Unit)
  /-- The domain is free; the failure of its release will be reported. -/
  | reporting (d : Domain) (e : MastershipError)

/-- What a call gave back to a thread; a token that is dropped gives nothing. -/
inductive Outcome where
  | acquired (outcome : Except MastershipError Token)
  | released (outcome : Except MastershipError Unit)
  | dropped

/-- A thread with the tokens that it owns and what its calls gave back, the first one first. -/
structure Thread where
  activity : Activity := .idle
  tokens : List Tenure := []
  outcomes : List Outcome := []

/-- The thread after a call that gave this back. -/
def Thread.done (thread : Thread) (outcome : Outcome) : Thread :=
  { thread with activity := .idle, outcomes := thread.outcomes ++ [outcome] }

/-- What is sent to the controller and heard from it about a tenure. -/
inductive Mark where
  | requestSent
  | requestGranted
  | requestFailed
  | releaseSent
  | releaseAnswered
  deriving DecidableEq, Repr

structure WireEvent where
  tenure : Tenure
  mark : Mark
  deriving DecidableEq, Repr

/-- Threads with the arbiter that they share, the number of tenures so far, and what has gone over
the wire, the first event first. -/
structure System (ι μ : Type) where
  arbiter : Arbiter μ
  threads : ι → Thread
  issued : Nat := 0
  wire : List WireEvent := []

namespace System

variable {ι μ : Type}

/-- Idle threads and an arbiter that holds nothing. -/
def create (manager : μ) (reporter : Reporter) : System ι μ :=
  { arbiter := { manager, reporter }, threads := fun _ => {} }

def mark (s : System ι μ) (t : Tenure) (m : Mark) : System ι μ :=
  { s with wire := s.wire ++ [⟨t, m⟩] }

@[simp] theorem arbiter_mark (s : System ι μ) (t : Tenure) (m : Mark) :
    (s.mark t m).arbiter = s.arbiter := rfl

@[simp] theorem threads_mark (s : System ι μ) (t : Tenure) (m : Mark) :
    (s.mark t m).threads = s.threads := rfl

variable [DecidableEq ι]

def become (s : System ι μ) (i : ι) (thread : Thread) : System ι μ :=
  { s with threads := fun j => if j = i then thread else s.threads j }

@[simp] theorem arbiter_become (s : System ι μ) (i : ι) (thread : Thread) :
    (s.become i thread).arbiter = s.arbiter := rfl

@[simp] theorem issued_become (s : System ι μ) (i : ι) (thread : Thread) :
    (s.become i thread).issued = s.issued := rfl

@[simp] theorem wire_become (s : System ι μ) (i : ι) (thread : Thread) :
    (s.become i thread).wire = s.wire := rfl

@[simp] theorem threads_become_self (s : System ι μ) (i : ι) (thread : Thread) :
    (s.become i thread).threads i = thread := by
  simp [become]

theorem activity_become (s : System ι μ) (i : ι) (thread : Thread) :
    ((s.become i thread).threads i).activity = thread.activity := by
  simp

/-- What one thread does leaves the others as they are. -/
theorem threads_become_of_ne (s : System ι μ) {i j : ι} (h : j ≠ i) (thread : Thread) :
    (s.become i thread).threads j = s.threads j := by
  simp [become, h]

-- ---------------------------------------------------------------------------
-- Steps
-- ---------------------------------------------------------------------------

/-- What a thread does in one step. -/
inductive Move (ι : Type) where
  /-- Reserves a domain for a new tenure, unless it is held. -/
  | acquire (d : Domain)
  /-- Sends the request for the reserved domain. -/
  | send
  /-- Hears the answer to the call that is under way. -/
  | hear
  | free
  /-- Sends the release for a token. -/
  | finish (t : Tenure) (manner : Manner)
  /-- Hands a failed release to the reporter. -/
  | report
  | pass (t : Tenure) (receiver : ι)

variable [Manager μ]

/-- One step of thread `i`. Each changes the shared state at most once. -/
inductive Step (i : ι) : Move ι → System ι μ → System ι μ → Prop where
  | reserve {s : System ι μ} {d : Domain} {arbiter : Arbiter μ}
      (hidle : (s.threads i).activity = .idle) (hfree : s.arbiter.reserve? d = some arbiter) :
      Step i (.acquire d) s
        ({ s with arbiter, issued := s.issued + 1 }.become i
          { s.threads i with activity := .reserved ⟨s.issued, d⟩ })
  | lose {s : System ι μ} {d : Domain}
      (hidle : (s.threads i).activity = .idle) (hheld : s.arbiter.reserve? d = none) :
      Step i (.acquire d) s
        ({ s with arbiter := s.arbiter.note .warn "mastership already held" }.become i
          ((s.threads i).done (.acquired (.error (.alreadyHeld d)))))
  | sendRequest {s : System ι μ} {t : Tenure} (h : (s.threads i).activity = .reserved t) :
      Step i .send s
        ((s.mark t .requestSent).become i { s.threads i with activity := .requesting t })
  | grant {s : System ι μ} {t : Tenure} (manager : μ)
      (h : (s.threads i).activity = .requesting t) :
      Step i .hear s
        (({ s with
            arbiter := { s.arbiter with manager }.note .info "mastership acquired" }.mark t
              .requestGranted).become i
          { (s.threads i).done (.acquired (.ok ⟨t.domain⟩)) with
            tokens := t :: (s.threads i).tokens })
  | refuse {s : System ι μ} {t : Tenure} (manager : μ) (e : MastershipError)
      (h : (s.threads i).activity = .requesting t) :
      Step i .hear s
        (({ s with arbiter := { s.arbiter with manager } }.mark t .requestFailed).become i
          { s.threads i with activity := .refused t e })
  | giveUp {s : System ι μ} {t : Tenure} {e : MastershipError}
      (h : (s.threads i).activity = .refused t e) :
      Step i .free s
        ({ s with
            arbiter := (s.arbiter.free t.domain).note .warn "mastership request failed" }.become i
          ((s.threads i).done (.acquired (.error e))))
  | sendRelease {s : System ι μ} {t : Tenure} (manner : Manner)
      (hidle : (s.threads i).activity = .idle) (ht : t ∈ (s.threads i).tokens) :
      Step i (.finish t manner) s
        ((s.mark t .releaseSent).become i
          { s.threads i with
            activity := .releasing t manner
            tokens := (s.threads i).tokens.erase t })
  | answerRelease {s : System ι μ} {t : Tenure} {manner : Manner} (manager : μ)
      (outcome : Except MastershipError Unit) (h : (s.threads i).activity = .releasing t manner) :
      Step i .hear s
        (({ s with arbiter := { s.arbiter with manager } }.mark t .releaseAnswered).become i
          { s.threads i with activity := .released t manner outcome })
  | leaveReleased {s : System ι μ} {t : Tenure}
      (h : (s.threads i).activity = .released t .released (.ok ())) :
      Step i .free s
        ({ s with
            arbiter := (s.arbiter.free t.domain).note .info "mastership released" }.become i
          ((s.threads i).done (.released (.ok ()))))
  | leaveReleasedInVain {s : System ι μ} {t : Tenure} {e : MastershipError}
      (h : (s.threads i).activity = .released t .released (.error e)) :
      Step i .free s
        ({ s with arbiter := s.arbiter.free t.domain }.become i
          ((s.threads i).done (.released (.error e))))
  | leaveDropped {s : System ι μ} {t : Tenure}
      (h : (s.threads i).activity = .released t .dropped (.ok ())) :
      Step i .free s
        ({ s with
            arbiter := (s.arbiter.free t.domain).note .info "mastership released" }.become i
          ((s.threads i).done .dropped))
  | leaveDroppedInVain {s : System ι μ} {t : Tenure} {e : MastershipError}
      (h : (s.threads i).activity = .released t .dropped (.error e)) :
      Step i .free s
        ({ s with arbiter := s.arbiter.free t.domain }.become i
          { s.threads i with activity := .reporting t.domain e })
  | report {s : System ι μ} {d : Domain} {e : MastershipError}
      (h : (s.threads i).activity = .reporting d e) :
      Step i .report s
        ({ s with arbiter := s.arbiter.report d e }.become i ((s.threads i).done .dropped))
  | pass {s : System ι μ} {t : Tenure} {j : ι} (hidle : (s.threads i).activity = .idle)
      (ht : t ∈ (s.threads i).tokens) (hj : j ≠ i) :
      Step i (.pass t j) s
        ((s.become i { s.threads i with tokens := (s.threads i).tokens.erase t }).become j
          { s.threads j with tokens := t :: (s.threads j).tokens })

/-- Any number of steps, each by a thread of which `who` holds. -/
inductive Reaches (who : ι → Prop) : System ι μ → System ι μ → Prop where
  | refl (s : System ι μ) : Reaches who s s
  | step {s s' s'' : System ι μ} {i : ι} {move : Move ι} (h : Reaches who s s') (hi : who i)
      (hs : Step i move s' s'') : Reaches who s s''

-- ---------------------------------------------------------------------------
-- A thread that is not interrupted
-- ---------------------------------------------------------------------------

/-- Thread `i` alone went from one system to the other, is idle again and was given `outcome`. -/
structure Alone (i : ι) (s s' : System ι μ) (outcome : Outcome) : Prop where
  reaches : Reaches (· = i) s s'
  idle : (s'.threads i).activity = .idle
  outcomes : (s'.threads i).outcomes = (s.threads i).outcomes ++ [outcome]
  others : ∀ j, j ≠ i → s'.threads j = s.threads j

/-- Steps of one thread after which it is idle again are a call without interruption. -/
theorem Alone.of_become {s s' : System ι μ} {i : ι} {thread : Thread} {outcome : Outcome}
    (hreaches : Reaches (· = i) s (s'.become i thread)) (hidle : thread.activity = .idle)
    (houtcomes : thread.outcomes = (s.threads i).outcomes ++ [outcome])
    (hothers : ∀ j, j ≠ i → s'.threads j = s.threads j) :
    Alone i s (s'.become i thread) outcome where
  reaches := hreaches
  idle := by rw [activity_become, hidle]
  outcomes := by rw [threads_become_self, houtcomes]
  others j hj := by rw [threads_become_of_ne _ hj, hothers j hj]

/-- The steps of an acquisition without interruption are the call of the arbiter. -/
theorem acquire_alone {s : System ι μ} {i : ι} (hidle : (s.threads i).activity = .idle)
    (d : Domain) :
    ∃ s', Alone i s s' (.acquired (s.arbiter.acquire d).1) ∧
      s'.arbiter = (s.arbiter.acquire d).2 := by
  cases hr : s.arbiter.reserve? d with
  | none =>
    refine ⟨_, .of_become (.step (.refl s) rfl (.lose hidle hr)) rfl ?_ ?_, ?_⟩
    · simp [Thread.done, Arbiter.acquire, hr]
    · exact fun _ _ => rfl
    · simp [Arbiter.acquire, hr]
  | some reserved =>
    -- both ways go on from the system in which the request is under way
    have hrequesting : Reaches (· = i) s _ :=
      .step (.step (.refl s) rfl (.reserve hidle hr)) rfl (.sendRequest (activity_become _ i _))
    obtain ⟨⟨outcome, manager⟩, hm⟩ : ∃ r, Manager.request reserved.manager d = r := ⟨_, rfl⟩
    cases outcome with
    | error e =>
      have hrefused : Reaches (· = i) s _ :=
        .step hrequesting rfl (.refuse manager e (activity_become _ i _))
      refine ⟨_, .of_become (.step hrefused rfl (.giveUp (activity_become _ i _))) rfl ?_ ?_, ?_⟩
      · simp [Thread.done, Arbiter.acquire, Arbiter.callRequest, hr, hm]
      · intro j hj
        simp [threads_become_of_ne _ hj]
      · simp [Arbiter.acquire, Arbiter.callRequest, hr, hm]
    | ok =>
      refine ⟨_, .of_become (.step hrequesting rfl (.grant manager (activity_become _ i _))) rfl
        ?_ ?_, ?_⟩
      · simp [Thread.done, Arbiter.acquire, Arbiter.callRequest, hr, hm]
      · intro j hj
        simp [threads_become_of_ne _ hj]
      · simp [Arbiter.acquire, Arbiter.callRequest, hr, hm]

/-- The steps in which a token is released without interruption are the call of the arbiter. -/
theorem release_alone {s : System ι μ} {i : ι} {t : Tenure}
    (hidle : (s.threads i).activity = .idle) (ht : t ∈ (s.threads i).tokens) :
    ∃ s', Alone i s s' (.released (s.arbiter.release ⟨t.domain⟩).1) ∧
      s'.arbiter = (s.arbiter.release ⟨t.domain⟩).2 := by
  have hreleasing : Reaches (· = i) s _ :=
    .step (.refl s) rfl (.sendRelease .released hidle ht)
  obtain ⟨⟨outcome, manager⟩, hm⟩ : ∃ r, Manager.release s.arbiter.manager t.domain = r :=
    ⟨_, rfl⟩
  have hanswered : Reaches (· = i) s _ :=
    .step hreleasing rfl (.answerRelease manager outcome (activity_become _ i _))
  cases outcome with
  | error e =>
    refine ⟨_, .of_become (.step hanswered rfl (.leaveReleasedInVain (activity_become _ i _))) rfl
      ?_ ?_, ?_⟩
    · simp [Thread.done, Arbiter.release, Arbiter.callRelease, hm]
    · intro j hj
      simp [threads_become_of_ne _ hj]
    · simp [Arbiter.release, Arbiter.callRelease, hm]
  | ok =>
    refine ⟨_, .of_become (.step hanswered rfl (.leaveReleased (activity_become _ i _))) rfl
      ?_ ?_, ?_⟩
    · simp [Thread.done, Arbiter.release, Arbiter.callRelease, hm]
    · intro j hj
      simp [threads_become_of_ne _ hj]
    · simp [Arbiter.release, Arbiter.callRelease, hm]

/-- The steps in which a token is dropped without interruption are the call of the arbiter. -/
theorem drop_alone {s : System ι μ} {i : ι} {t : Tenure}
    (hidle : (s.threads i).activity = .idle) (ht : t ∈ (s.threads i).tokens) :
    ∃ s', Alone i s s' .dropped ∧ s'.arbiter = s.arbiter.drop ⟨t.domain⟩ := by
  have hreleasing : Reaches (· = i) s _ :=
    .step (.refl s) rfl (.sendRelease .dropped hidle ht)
  obtain ⟨⟨outcome, manager⟩, hm⟩ : ∃ r, Manager.release s.arbiter.manager t.domain = r :=
    ⟨_, rfl⟩
  have hanswered : Reaches (· = i) s _ :=
    .step hreleasing rfl (.answerRelease manager outcome (activity_become _ i _))
  cases outcome with
  | error e =>
    -- a refusal is reported in a step of its own, after the domain is free
    have hfreed : Reaches (· = i) s _ :=
      .step hanswered rfl (.leaveDroppedInVain (activity_become _ i _))
    refine ⟨_, .of_become (.step hfreed rfl (.report (activity_become _ i _))) rfl ?_ ?_, ?_⟩
    · simp [Thread.done]
    · intro j hj
      simp [threads_become_of_ne _ hj]
    · simp [Arbiter.drop, Arbiter.release, Arbiter.callRelease, hm]
  | ok =>
    refine ⟨_, .of_become (.step hanswered rfl (.leaveDropped (activity_become _ i _))) rfl
      ?_ ?_, ?_⟩
    · simp [Thread.done]
    · intro j hj
      simp [threads_become_of_ne _ hj]
    · simp [Arbiter.drop, Arbiter.release, Arbiter.callRelease, hm]

end System

end RobotWeb.Mastership
