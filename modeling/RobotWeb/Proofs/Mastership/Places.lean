import RobotWeb.Proofs.Mastership.Threads

/-!
# Where a domain is

From the step that reserves a domain to the step that frees it, its tenure has a place: a thread
that works on it or owns its token.

* `Stage`, `Course`, `Place` — how far a tenure is, how it went, and both together.
* `System.Effect`            — what a step does to the places, the held domains and the wire.
* `System.Step.effect`       — every step does one of these.
-/

namespace RobotWeb.Mastership

open List (Perm)

-- ---------------------------------------------------------------------------
-- Places
-- ---------------------------------------------------------------------------

/-- How far a tenure is, from its reservation until the domain is free again. -/
inductive Stage where
  | reserved
  | requesting
  | refused
  | granted
  | releasing
  | released
  deriving DecidableEq, Repr

/-- What has gone over the wire about a tenure. -/
def Stage.marks : Stage → List Mark
  | .reserved => []
  | .requesting => [.requestSent]
  | .refused => [.requestSent, .requestFailed]
  | .granted => [.requestSent, .requestGranted]
  | .releasing => [.requestSent, .requestGranted, .releaseSent]
  | .released => [.requestSent, .requestGranted, .releaseSent, .releaseAnswered]

/-- How a tenure went that is over. -/
inductive Course where
  | failed
  | completed
  deriving DecidableEq, Repr

/-- What went over the wire: a failed request, or a granted request and one release. -/
def Course.marks : Course → List Mark
  | .failed => [.requestSent, .requestFailed]
  | .completed => [.requestSent, .requestGranted, .releaseSent, .releaseAnswered]

/-- A tenure that is not over, with its stage. -/
structure Place where
  tenure : Tenure
  stage : Stage
  deriving DecidableEq, Repr

def Tenure.events (t : Tenure) (marks : List Mark) : List WireEvent :=
  marks.map fun mark => ⟨t, mark⟩

/-- The tenure that a thread is in the middle of. -/
def Activity.place? : Activity → Option Place
  | .idle | .reporting _ _ => none
  | .reserved t => some ⟨t, .reserved⟩
  | .requesting t => some ⟨t, .requesting⟩
  | .refused t _ => some ⟨t, .refused⟩
  | .releasing t _ => some ⟨t, .releasing⟩
  | .released t _ _ => some ⟨t, .released⟩

def Thread.places (thread : Thread) : List Place :=
  thread.activity.place?.toList ++ thread.tokens.map fun t => ⟨t, .granted⟩

/-- An idle thread is in one place for each of its tokens. -/
theorem Thread.perm_places_erase (thread : Thread) {t : Tenure} (ht : t ∈ thread.tokens)
    (hidle : thread.activity = .idle) :
    Perm thread.places (⟨t, .granted⟩ :: (thread.tokens.erase t).map fun u => ⟨u, .granted⟩) := by
  rw [places, hidle]
  exact (List.perm_cons_erase ht).map fun u => Place.mk u .granted

theorem Thread.places_of_some {thread : Thread} {p : Place}
    (h : thread.activity.place? = some p) :
    thread.places = p :: thread.tokens.map fun t => ⟨t, .granted⟩ := by
  rw [places, h]
  rfl

theorem Thread.places_of_none {thread : Thread} (h : thread.activity.place? = none) :
    thread.places = thread.tokens.map fun t => ⟨t, .granted⟩ := by
  rw [places, h]
  rfl

namespace Arbiter

variable {μ : Type}

@[simp] theorem held_note [Manager μ] (a : Arbiter μ) (level : Log.Level) (message : String) :
    (a.note level message).held = a.held := rfl

@[simp] theorem held_report [Manager μ] (a : Arbiter μ) (d : Domain) (e : MastershipError) :
    (a.report d e).held = a.held := by
  cases hr : a.reporter <;> simp [report, hr]

/-- A domain is reserved if it is free. -/
theorem reserve?_eq_some {a b : Arbiter μ} {d : Domain} :
    a.reserve? d = some b ↔ a.held.has d = false ∧ { a with held := a.held.insert d } = b := by
  unfold reserve?
  split <;> simp_all

/-- It is not reserved if it is held. -/
theorem reserve?_eq_none {a : Arbiter μ} {d : Domain} :
    a.reserve? d = none ↔ a.held.has d = true := by
  unfold reserve?
  split <;> simp_all

end Arbiter

namespace System

variable {ι μ : Type}

def wireOf (s : System ι μ) (d : Domain) : List WireEvent :=
  s.wire.filter (·.tenure.domain = d)

def At (s : System ι μ) (i : ι) (t : Tenure) (stage : Stage) : Prop :=
  ⟨t, stage⟩ ∈ (s.threads i).places

-- ---------------------------------------------------------------------------
-- What a step does
-- ---------------------------------------------------------------------------

/-- What a step of thread `i` does to the places, the held domains and the wire. -/
inductive Effect (i : ι) (s s' : System ι μ) : Prop where
  /-- A domain that was not held is held for a new tenure. -/
  | opened (d : Domain) (hfree : s.arbiter.held.has d = false)
      (hheld : ∀ e, s'.arbiter.held.has e = (decide (e = d) || s.arbiter.held.has e))
      (hissued : s'.issued = s.issued + 1) (hwire : s'.wire = s.wire)
      (hplaces : Perm (s'.threads i).places
        (⟨⟨s.issued, d⟩, .reserved⟩ :: (s.threads i).places))
      (hothers : ∀ k, k ≠ i → (s'.threads k).places = (s.threads k).places)
  /-- A tenure enters its next stage, with what goes over the wire. -/
  | advanced (t : Tenure) (stage stage' : Stage) (m : Mark) (rest : List Place)
      (hmarks : stage'.marks = stage.marks ++ [m])
      (hheld : s'.arbiter.held = s.arbiter.held)
      (hissued : s'.issued = s.issued) (hwire : s'.wire = s.wire ++ [⟨t, m⟩])
      (hplaces : Perm (s.threads i).places (⟨t, stage⟩ :: rest))
      (hplaces' : Perm (s'.threads i).places (⟨t, stage'⟩ :: rest))
      (hothers : ∀ k, k ≠ i → (s'.threads k).places = (s.threads k).places)
  /-- A tenure is over and its domain free. -/
  | ended (t : Tenure) (stage : Stage) (course : Course) (hmarks : stage.marks = course.marks)
      (hheld : ∀ e, s'.arbiter.held.has e = (decide (e ≠ t.domain) && s.arbiter.held.has e))
      (hissued : s'.issued = s.issued) (hwire : s'.wire = s.wire)
      (hplaces : Perm (s.threads i).places (⟨t, stage⟩ :: (s'.threads i).places))
      (hothers : ∀ k, k ≠ i → (s'.threads k).places = (s.threads k).places)
  /-- A token goes to another thread. -/
  | passed (t : Tenure) (j : ι) (hj : j ≠ i) (harbiter : s'.arbiter = s.arbiter)
      (hissued : s'.issued = s.issued) (hwire : s'.wire = s.wire)
      (hplaces : Perm (s.threads i).places (⟨t, .granted⟩ :: (s'.threads i).places))
      (hplaces' : Perm (s'.threads j).places (⟨t, .granted⟩ :: (s.threads j).places))
      (hothers : ∀ k, k ≠ i → k ≠ j → (s'.threads k).places = (s.threads k).places)
  /-- Nothing that matters. -/
  | stayed (hheld : s'.arbiter.held = s.arbiter.held) (hissued : s'.issued = s.issued)
      (hwire : s'.wire = s.wire) (hplaces : ∀ k, (s'.threads k).places = (s.threads k).places)

variable [DecidableEq ι]

/-- What one thread does leaves the places of the others. -/
theorem places_become_of_ne (s : System ι μ) {i k : ι} (h : k ≠ i) (thread : Thread) :
    ((s.become i thread).threads k).places = (s.threads k).places := by
  rw [threads_become_of_ne s h]

variable [Manager μ]

/-- Every step has one of the effects. -/
theorem Step.effect {i : ι} {move : Move ι} {s s' : System ι μ} (h : Step i move s s') :
    Effect i s s' := by
  -- one case for each step; the four ways to leave a scope after the answer have one effect
  cases h with
  | @reserve _ d arbiter hidle hreserved =>
    obtain ⟨hfree, rfl⟩ := Arbiter.reserve?_eq_some.mp hreserved
    refine .opened d hfree (fun e => Held.has_insert _ d e) rfl rfl ?_ fun k hk => ?_
    · simp [Thread.places, Activity.place?, hidle]
    · exact places_become_of_ne _ hk _
  | lose hidle hheld =>
    refine .stayed (by simp) rfl rfl fun k => ?_
    by_cases hk : k = i
    · subst hk
      simp [Thread.places, Thread.done, hidle]
    · exact places_become_of_ne _ hk _
  | @sendRequest _ t h =>
    refine .advanced t .reserved .requesting .requestSent _ rfl rfl rfl rfl
      (.of_eq (Thread.places_of_some (by rw [h]; rfl))) ?_ fun k hk => ?_
    · rw [threads_become_self, Thread.places_of_some rfl]
    · exact places_become_of_ne _ hk _
  | @grant _ t manager h =>
    refine .advanced t .requesting .granted .requestGranted _ rfl rfl rfl rfl
      (.of_eq (Thread.places_of_some (by rw [h]; rfl))) ?_ fun k hk => ?_
    · rw [threads_become_self, Thread.places_of_none rfl, List.map_cons]
    · exact places_become_of_ne _ hk _
  | @refuse _ t manager e h =>
    refine .advanced t .requesting .refused .requestFailed _ rfl rfl rfl rfl
      (.of_eq (Thread.places_of_some (by rw [h]; rfl))) ?_ fun k hk => ?_
    · rw [threads_become_self, Thread.places_of_some rfl]
    · exact places_become_of_ne _ hk _
  | @giveUp _ t e h =>
    refine .ended t .refused .failed rfl (fun d => Held.has_erase _ t.domain d) rfl rfl ?_
      fun k hk => ?_
    · simp [Thread.places, Thread.done, Activity.place?, h]
    · exact places_become_of_ne _ hk _
  | @sendRelease _ t manner hidle ht =>
    refine .advanced t .granted .releasing .releaseSent _ rfl rfl rfl rfl
      ((s.threads i).perm_places_erase ht hidle) ?_ fun k hk => ?_
    · rw [threads_become_self, Thread.places_of_some rfl]
    · exact places_become_of_ne _ hk _
  | @answerRelease _ t manner manager outcome h =>
    refine .advanced t .releasing .released .releaseAnswered _ rfl rfl rfl rfl
      (.of_eq (Thread.places_of_some (by rw [h]; rfl))) ?_ fun k hk => ?_
    · rw [threads_become_self, Thread.places_of_some rfl]
    · exact places_become_of_ne _ hk _
  | @leaveReleased _ t h | @leaveReleasedInVain _ t e h | @leaveDropped _ t h
    | @leaveDroppedInVain _ t e h =>
    refine .ended t .released .completed rfl (fun d => Held.has_erase _ t.domain d) rfl rfl ?_
      fun k hk => ?_
    · simp [Thread.places, Thread.done, Activity.place?, h]
    · exact places_become_of_ne _ hk _
  | report h =>
    refine .stayed (by simp) rfl rfl fun k => ?_
    by_cases hk : k = i
    · subst hk
      rw [threads_become_self, Thread.places_of_none rfl,
        Thread.places_of_none (by rw [h]; rfl), Thread.done]
    · exact places_become_of_ne _ hk _
  | @pass _ t j hidle ht hj =>
    -- only here two threads change: the one that had the token and the one that gets it
    refine .passed t j hj rfl rfl rfl ?_ ?_ fun k hk hkj => ?_
    · have hnone : (s.threads i).activity.place? = none := by rw [hidle]; rfl
      have hafter := @Thread.places_of_none
        { s.threads i with tokens := (s.threads i).tokens.erase t } hnone
      rw [places_become_of_ne _ hj.symm, threads_become_self, hafter]
      exact (s.threads i).perm_places_erase ht hidle
    · rw [threads_become_self]
      exact List.perm_middle
    · rw [places_become_of_ne _ hkj, places_become_of_ne _ hk]

end System

end RobotWeb.Mastership
