import RobotWeb.Mastership.StandIn
import RobotWeb.Proofs.Mastership.Ledger

/-!
# One holder for each domain

Whatever the order of the steps and the answers of the controller, a domain is in one place at a
time. The calls about it follow each other on the wire, and a release is sent once for each request
that was granted, and for no other.

* `System.Exclusive`             — what holds after every step.
* `System.Kept.exclusive`        — it follows from the ledgers.
* `System.one_holder_per_domain` — so it holds in every run, and a request for a domain that is held
  is refused at once.
-/

namespace RobotWeb.Mastership

open List (Perm)

-- ---------------------------------------------------------------------------
-- The marks of one tenure
-- ---------------------------------------------------------------------------

def marksIn (t : Tenure) (events : List WireEvent) : List Mark :=
  (events.filter (·.tenure = t)).map (·.mark)

theorem marksIn_append (t : Tenure) (xs ys : List WireEvent) :
    marksIn t (xs ++ ys) = marksIn t xs ++ marksIn t ys := by
  simp [marksIn]

/-- The events of a tenure have its marks. -/
theorem marksIn_events (t : Tenure) (marks : List Mark) : marksIn t (t.events marks) = marks := by
  simp [marksIn, Tenure.events, List.filter_map, Function.comp_def]

/-- The events of another tenure have none of its marks. -/
theorem marksIn_events_of_ne {t u : Tenure} (h : u ≠ t) (marks : List Mark) :
    marksIn t (u.events marks) = [] := by
  simp [marksIn, Tenure.events, List.filter_map, Function.comp_def, h]

theorem marksIn_pastEvents_of_not_mem {t : Tenure} {past : List (Tenure × Course)}
    (h : t ∉ past.map Prod.fst) : marksIn t (pastEvents past) = [] := by
  induction past with
  | nil => rfl
  | cons entry past ih =>
    obtain ⟨u, course⟩ := entry
    rw [List.map_cons, List.mem_cons, not_or] at h
    rw [pastEvents, List.flatMap_cons, ← pastEvents, marksIn_append,
      marksIn_events_of_ne (Ne.symm h.1), ih h.2, List.append_nil]

/-- The marks of a tenure that is over are those of its course, since no other one has its number.
-/
theorem marksIn_pastEvents_of_mem {t : Tenure} {course : Course}
    {past : List (Tenure × Course)} (hdistinct : (past.map Prod.fst).Nodup)
    (h : (t, course) ∈ past) : marksIn t (pastEvents past) = course.marks := by
  induction past with
  | nil => cases h
  | cons entry past ih =>
    rw [List.map_cons, List.nodup_cons] at hdistinct
    rw [pastEvents, List.flatMap_cons, ← pastEvents, marksIn_append]
    rcases List.mem_cons.mp h with rfl | h
    · rw [marksIn_events, marksIn_pastEvents_of_not_mem hdistinct.1, List.append_nil]
    · have hne : entry.1 ≠ t := fun he =>
        hdistinct.1 (List.mem_map.mpr ⟨(t, course), h, he.symm⟩)
      rw [marksIn_events_of_ne hne, ih hdistinct.2 h, List.nil_append]

namespace System

variable {ι μ : Type}

/-- The marks of a tenure show in the events of its domain. -/
theorem marksIn_wireOf (s : System ι μ) (t : Tenure) :
    marksIn t (s.wireOf t.domain) = marksIn t s.wire := by
  rw [marksIn, wireOf, List.filter_filter, marksIn]
  congr 1
  refine List.filter_congr fun event _ => ?_
  by_cases h : event.tenure = t <;> simp [h]

-- ---------------------------------------------------------------------------
-- Exclusion
-- ---------------------------------------------------------------------------

/-- Each domain is in one place, and the wire shows it. -/
structure Exclusive (s : System ι μ) : Prop where
  /-- No domain is at two threads, or at one thread in two ways. -/
  one : ∀ i j t u stage stage', s.At i t stage → s.At j u stage' → t.domain = u.domain →
    i = j ∧ t = u ∧ stage = stage'
  /-- No thread has a place twice. -/
  once : ∀ i, (s.threads i).places.Nodup
  /-- The domains that are held are those that some thread has. -/
  held : ∀ d, s.arbiter.held.has d = true ↔ ∃ i t stage, s.At i t stage ∧ t.domain = d
  /-- The tenures of a domain follow each other, and only the last one may be unfinished. -/
  wire : ∀ d, ∃ past : List (Tenure × Course), (past.map Prod.fst).Nodup ∧
    (s.arbiter.held.has d = false ∧ s.wireOf d = pastEvents past ∨
      ∃ i t stage, s.At i t stage ∧ t.domain = d ∧ t ∉ past.map Prod.fst ∧
        s.wireOf d = pastEvents past ++ t.events stage.marks)
  /-- What went over the wire for a tenure is what its stage says. -/
  pending : ∀ i t stage, s.At i t stage → marksIn t s.wire = stage.marks
  /-- A tenure that is over had a failed request, or a granted request and one release. -/
  settled : ∀ t, (∀ i stage, ¬ s.At i t stage) →
    marksIn t s.wire = [] ∨ ∃ course : Course, marksIn t s.wire = course.marks

variable [DecidableEq ι] {s : System ι μ} {l : Ledger ι}

/-- The ledger of a domain says where its tenure is. -/
theorem Kept.at_iff {i : ι} {t : Tenure} {stage : Stage} (hk : Kept s t.domain l) :
    s.At i t stage ↔ l.current? = some (i, ⟨t, stage⟩) := by
  constructor
  · intro h
    exact (hk.current?_of_perm (List.perm_cons_erase h)).1
  · intro hcurrent
    have hplaces := hk.places i
    rw [Ledger.placesOf_self hcurrent, List.perm_singleton] at hplaces
    have hmem : (⟨t, stage⟩ : Place) ∈ (s.threads i).placesIn t.domain := by simp [hplaces]
    exact List.mem_of_mem_filter hmem

/-- No thread has a tenure twice. -/
theorem Kept.count_le_one {p : Place} (hk : Kept s p.tenure.domain l) (i : ι) :
    (s.threads i).places.count p ≤ 1 := by
  by_cases h : p ∈ (s.threads i).places
  -- with one place taken away, no other one of the domain is left
  · have hperm := List.perm_cons_erase h
    have hrest := (hk.current?_of_perm hperm).2
    have hgone : p ∉ (s.threads i).places.erase p := fun hmem => by
      have hfound : p ∈ ((s.threads i).places.erase p).filter
          (·.tenure.domain = p.tenure.domain) := List.mem_filter.mpr ⟨hmem, by simp⟩
      rw [hrest] at hfound
      cases hfound
    have hcount : (s.threads i).places.count p = 1 := by
      rw [hperm.count_eq, List.count_cons_self, List.count_eq_zero_of_not_mem hgone]
    omega
  · have hcount : (s.threads i).places.count p = 0 := List.count_eq_zero_of_not_mem h
    omega

/-- What the ledgers say about the system without being mentioned. -/
theorem Kept.exclusive (hk : ∀ d, ∃ l, Kept s d l) : s.Exclusive where
  one := by
    intro i j t u stage stage' ht hu hd
    obtain ⟨l, hk⟩ := hk t.domain
    have hthere := hk.at_iff.mp ht
    rw [hd] at hk
    have hhere := hk.at_iff.mp hu
    rw [hthere] at hhere
    simpa using hhere
  once := by
    intro i
    refine List.nodup_iff_count_le_one.mpr fun p => ?_
    obtain ⟨l, hk⟩ := hk p.tenure.domain
    exact hk.count_le_one i
  held := by
    intro d
    obtain ⟨l, hl⟩ := hk d
    rw [hl.held, Option.isSome_iff_exists]
    constructor
    · rintro ⟨⟨i, t, stage⟩, hcurrent⟩
      have hd : t.domain = d := hl.domain_of_current hcurrent
      subst hd
      exact ⟨i, t, stage, hl.at_iff.mpr hcurrent, rfl⟩
    · rintro ⟨i, t, stage, hat, rfl⟩
      exact ⟨_, hl.at_iff.mp hat⟩
  wire := by
    intro d
    obtain ⟨l, hl⟩ := hk d
    have hdistinct := hl.distinct
    refine ⟨l.past, ?_⟩
    cases hcurrent : l.current? with
    | none =>
      rw [Ledger.tenures_of_none hcurrent] at hdistinct
      refine ⟨hdistinct, .inl ⟨?_, ?_⟩⟩
      · rw [hl.held, hcurrent]
        rfl
      · rw [hl.wire, Ledger.events_of_none hcurrent]
    | some current =>
      obtain ⟨i, t, stage⟩ := current
      rw [Ledger.tenures_of_some hcurrent, List.nodup_append] at hdistinct
      have hd : t.domain = d := hl.domain_of_current hcurrent
      subst hd
      refine ⟨hdistinct.1, .inr ⟨i, t, stage, hl.at_iff.mpr hcurrent, rfl, fun hmem => ?_, ?_⟩⟩
      · exact hdistinct.2.2 t hmem t (List.mem_singleton_self t) rfl
      · rw [hl.wire, Ledger.events_of_some hcurrent]
  pending := by
    intro i t stage hat
    obtain ⟨l, hl⟩ := hk t.domain
    have hcurrent := hl.at_iff.mp hat
    have hdistinct := hl.distinct
    rw [Ledger.tenures_of_some hcurrent, List.nodup_append] at hdistinct
    have hnew : t ∉ l.past.map Prod.fst := fun hmem =>
      hdistinct.2.2 t hmem t (List.mem_singleton_self t) rfl
    rw [← marksIn_wireOf, hl.wire, Ledger.events_of_some hcurrent, marksIn_append,
      marksIn_pastEvents_of_not_mem hnew, marksIn_events, List.nil_append]
  settled := by
    intro t hover
    obtain ⟨l, hl⟩ := hk t.domain
    rw [← marksIn_wireOf, hl.wire]
    -- what is current is another tenure, so that only the past counts
    have hpast : marksIn t l.events = marksIn t (pastEvents l.past) := by
      cases hcurrent : l.current? with
      | none => rw [Ledger.events_of_none hcurrent]
      | some current =>
        obtain ⟨i, u, stage⟩ := current
        have hne : u ≠ t := by
          rintro rfl
          exact hover i stage (hl.at_iff.mpr hcurrent)
        rw [Ledger.events_of_some hcurrent, marksIn_append, marksIn_events_of_ne hne,
          List.append_nil]
    rw [hpast]
    by_cases hmem : t ∈ l.past.map Prod.fst
    · obtain ⟨⟨u, course⟩, hentry, rfl⟩ := List.mem_map.mp hmem
      have hdistinct := hl.distinct
      rw [Ledger.tenures, List.nodup_append] at hdistinct
      exact .inr ⟨course, marksIn_pastEvents_of_mem hdistinct.1 hentry⟩
    · exact .inl (marksIn_pastEvents_of_not_mem hmem)

-- ---------------------------------------------------------------------------
-- Runs
-- ---------------------------------------------------------------------------

/-- Thread `i` was refused because the domain is held: it heard so, nothing was sent, and nothing
was reserved or freed. -/
structure Loses (i : ι) (d : Domain) (s s' : System ι μ) : Prop where
  idle : (s'.threads i).activity = .idle
  outcomes : (s'.threads i).outcomes =
    (s.threads i).outcomes ++ [.acquired (.error (.alreadyHeld d))]
  wire : s'.wire = s.wire
  held : s'.arbiter.held = s.arbiter.held
  places : ∀ k, (s'.threads k).places = (s.threads k).places

/-- The only step that asks for a held domain is the one that is refused. -/
theorem loses_of_step [Manager μ] {s s' : System ι μ} {i : ι} {d : Domain}
    (hheld : s.arbiter.held.has d = true) (hs : Step i (.acquire d) s s') : Loses i d s s' := by
  cases hs with
  | reserve hidle hreserved =>
    -- a reservation takes a domain that is free
    have hfree := (Arbiter.reserve?_eq_some.mp hreserved).1
    rw [hheld] at hfree
    cases hfree
  | lose hidle hheld =>
    refine ⟨?_, ?_, rfl, rfl, fun k => ?_⟩
    · simp [Thread.done]
    · simp [Thread.done]
    · by_cases hk : k = i
      · subst hk
        simp [Thread.places, Thread.done, hidle]
      · exact places_become_of_ne _ hk _

/-- **Every domain has one holder at a time**, whatever the threads do in whatever order, and
whatever the controller answers. A thread that asks for a domain that is held can go on, and is
refused. The steps of a thread are those of the arbiter's calls: one that is not interrupted does
what the call does. -/
theorem one_holder_per_domain [Manager μ] {manager : μ} {reporter : Reporter} {s : System ι μ}
    (h : Reaches (fun _ => True) (create manager reporter) s) :
    s.Exclusive ∧
    (∀ i d, (s.threads i).activity = .idle → s.arbiter.held.has d = true →
      (∃ s', Step i (.acquire d) s s') ∧ ∀ s', Step i (.acquire d) s s' → Loses i d s s') ∧
    ∀ i, (s.threads i).activity = .idle →
      (∀ d, ∃ s', Alone i s s' (.acquired (s.arbiter.acquire d).1) ∧
        s'.arbiter = (s.arbiter.acquire d).2) ∧
      ∀ t ∈ (s.threads i).tokens,
        (∃ s', Alone i s s' (.released (s.arbiter.release ⟨t.domain⟩).1) ∧
          s'.arbiter = (s.arbiter.release ⟨t.domain⟩).2) ∧
        ∃ s', Alone i s s' .dropped ∧ s'.arbiter = s.arbiter.drop ⟨t.domain⟩ := by
  -- exclusion of each domain is read off its ledger
  have hkept : ∀ d, ∃ l, Kept s d l := fun d =>
    kept_of_reaches h ⟨{}, kept_create manager reporter d⟩
  refine ⟨Kept.exclusive hkept, fun i d hidle hheld => ⟨?_, fun s' hs => ?_⟩, fun i hidle =>
    ⟨acquire_alone hidle, fun t ht => ⟨release_alone hidle ht, drop_alone hidle ht⟩⟩⟩
  · exact ⟨_, .lose hidle (Arbiter.reserve?_eq_none.mpr hheld)⟩
  · exact loses_of_step hheld hs

/-- One of two threads has a domain while the other asks for it. -/
theorem rapid_has_one_holder :
    ∃ s : System Bool StandIn, Reaches (fun _ => True) (create {} .collecting) s ∧
      s.At false ⟨0, .rapid⟩ .granted ∧ s.Exclusive ∧
      ∃ s', Step true (.acquire .rapid) s s' ∧ Loses true .rapid s s' := by
  have hrequesting : Reaches (fun _ => True) (create {} .collecting : System Bool StandIn) _ :=
    .step (.step (.refl _) trivial (.reserve (i := false) (d := .rapid) rfl rfl)) trivial
      (.sendRequest (activity_become _ false _))
  have hgranted := hrequesting.step trivial
    (.grant (StandIn.mk [] [(.request, .rapid)] []) (activity_become _ false _))
  obtain ⟨hexclusive, hloses, -⟩ := one_holder_per_domain hgranted
  obtain ⟨⟨s', hs⟩, hall⟩ := hloses true .rapid rfl rfl
  exact ⟨_, hgranted, List.Mem.head _, hexclusive, s', hs, hall s' hs⟩

end System

end RobotWeb.Mastership
