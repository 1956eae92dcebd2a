import Mathlib.Data.List.Nodup
import RobotWeb.Proofs.Mastership.Places

/-!
# Ledgers of domains

For each domain a ledger can be kept of the tenures that are over and of the one that is not. It
agrees with the places of all threads, with what the arbiter holds and with the wire.

* `System.Kept`            — a ledger agrees with the system.
* `System.Kept.step`       — a step keeps a ledger for each domain.
* `System.kept_of_reaches` — so does a run.
-/

namespace RobotWeb.Mastership

open List (Perm)

-- ---------------------------------------------------------------------------
-- Ledgers
-- ---------------------------------------------------------------------------

/-- What became of a domain: the tenures that are over, the first one first, and the one that is
not, with the thread that it is at. -/
structure Ledger (ι : Type) where
  past : List (Tenure × Course) := []
  current? : Option (ι × Place) := none

/-- The events of tenures that are over. -/
def pastEvents (past : List (Tenure × Course)) : List WireEvent :=
  past.flatMap fun (t, course) => t.events course.marks

def Thread.placesIn (thread : Thread) (d : Domain) : List Place :=
  thread.places.filter (·.tenure.domain = d)

/-- A place counts for its own domain. -/
theorem Thread.placesIn_of_perm {thread : Thread} {p : Place} {rest : List Place}
    (h : Perm thread.places (p :: rest)) :
    Perm (thread.placesIn p.tenure.domain)
      (p :: rest.filter (·.tenure.domain = p.tenure.domain)) := by
  have hfilter := h.filter (·.tenure.domain = p.tenure.domain)
  rwa [List.filter_cons_of_pos (by simp)] at hfilter

/-- Only its places count for a thread. -/
theorem Thread.placesIn_congr {thread thread' : Thread} (h : thread'.places = thread.places)
    (d : Domain) : thread'.placesIn d = thread.placesIn d := by
  rw [placesIn, h, ← placesIn]

/-- It does not count for another one. -/
theorem Thread.placesIn_of_perm_of_ne {thread : Thread} {p : Place} {rest : List Place}
    {d : Domain} (h : Perm thread.places (p :: rest)) (hd : p.tenure.domain ≠ d) :
    Perm (thread.placesIn d) (rest.filter (·.tenure.domain = d)) := by
  have hfilter := h.filter (·.tenure.domain = d)
  rwa [List.filter_cons_of_neg (by simpa using hd)] at hfilter

namespace Ledger

variable {ι : Type}

def events (l : Ledger ι) : List WireEvent :=
  pastEvents l.past ++
    match l.current? with
    | some (_, p) => p.tenure.events p.stage.marks
    | none => []

def tenures (l : Ledger ι) : List Tenure :=
  l.past.map (·.1) ++ (l.current?.map (·.2.tenure)).toList

/-- The ledger after a tenure has come to this place of this thread. -/
def moving (l : Ledger ι) (i : ι) (p : Place) : Ledger ι :=
  { l with current? := some (i, p) }

def ending (l : Ledger ι) (t : Tenure) (course : Course) : Ledger ι :=
  { past := l.past ++ [(t, course)], current? := none }

theorem events_of_none {l : Ledger ι} (h : l.current? = none) : l.events = pastEvents l.past := by
  simp [events, h]

theorem events_of_some {l : Ledger ι} {i : ι} {p : Place} (h : l.current? = some (i, p)) :
    l.events = pastEvents l.past ++ p.tenure.events p.stage.marks := by
  rw [events, h]

theorem tenures_of_none {l : Ledger ι} (h : l.current? = none) :
    l.tenures = l.past.map (·.1) := by
  simp [tenures, h]

theorem tenures_of_some {l : Ledger ι} {i : ι} {p : Place} (h : l.current? = some (i, p)) :
    l.tenures = l.past.map (·.1) ++ [p.tenure] := by
  simp [tenures, h]

/-- Ending a tenure adds nothing to the wire. -/
theorem events_ending {l : Ledger ι} {i : ι} {t : Tenure} {stage : Stage} {course : Course}
    (h : l.current? = some (i, ⟨t, stage⟩)) (hmarks : stage.marks = course.marks) :
    (l.ending t course).events = l.events := by
  rw [events_of_none rfl, events_of_some h, ending, hmarks]
  simp [pastEvents]

/-- A tenure that ends stays in the ledger. -/
theorem tenures_ending {l : Ledger ι} {i : ι} {t : Tenure} {stage : Stage} (course : Course)
    (h : l.current? = some (i, ⟨t, stage⟩)) : (l.ending t course).tenures = l.tenures := by
  rw [tenures_of_none rfl, tenures_of_some h, ending]
  simp

variable [DecidableEq ι]

def placesOf (l : Ledger ι) (k : ι) : List Place :=
  match l.current? with
  | some (owner, p) => if owner = k then [p] else []
  | none => []

theorem placesOf_of_none {l : Ledger ι} (h : l.current? = none) (k : ι) : l.placesOf k = [] := by
  rw [placesOf, h]

/-- The current tenure is at its thread. -/
theorem placesOf_self {l : Ledger ι} {i : ι} {p : Place} (h : l.current? = some (i, p)) :
    l.placesOf i = [p] := by
  simp [placesOf, h]

/-- It is at no other thread. -/
theorem placesOf_of_ne {l : Ledger ι} {i k : ι} {p : Place} (h : l.current? = some (i, p))
    (hk : k ≠ i) : l.placesOf k = [] := by
  simp [placesOf, h, hk.symm]

/-- A thread with a place has no other, and the ledger names both. -/
theorem current?_of_perm {l : Ledger ι} {k : ι} {p : Place} {rest : List Place}
    (h : Perm (p :: rest) (l.placesOf k)) : l.current? = some (k, p) ∧ rest = [] := by
  unfold placesOf at h
  split at h
  · rename_i owner q hcurrent
    by_cases howner : owner = k
    · rw [if_pos howner, List.perm_singleton, List.cons.injEq] at h
      obtain ⟨rfl, hrest⟩ := h
      exact ⟨by rw [hcurrent, howner], hrest⟩
    · rw [if_neg howner] at h
      exact absurd h.length_eq (by simp)
  · exact absurd h.length_eq (by simp)

end Ledger

namespace System

variable {ι μ : Type}

/-- The same events are the same about each domain. -/
theorem wireOf_congr {s s' : System ι μ} (hwire : s'.wire = s.wire) (d : Domain) :
    s'.wireOf d = s.wireOf d := by
  rw [wireOf, hwire, ← wireOf]

/-- What is sent about a domain does not show in the events of another one. -/
theorem wireOf_append_of_ne {s s' : System ι μ} {d : Domain} {t : Tenure} {m : Mark}
    (hwire : s'.wire = s.wire ++ [⟨t, m⟩]) (hd : t.domain ≠ d) : s'.wireOf d = s.wireOf d := by
  rw [wireOf, hwire, List.filter_append, List.filter_cons_of_neg (by simpa using hd)]
  simp [wireOf]

variable [DecidableEq ι]

/-- A ledger agrees with the system about a domain. -/
structure Kept (s : System ι μ) (d : Domain) (l : Ledger ι) : Prop where
  held : s.arbiter.held.has d = l.current?.isSome
  places : ∀ k, Perm ((s.threads k).placesIn d) (l.placesOf k)
  wire : s.wireOf d = l.events
  known : ∀ t ∈ l.tenures, t.domain = d ∧ t.number < s.issued
  distinct : l.tenures.Nodup

/-- In the beginning the ledgers are empty. -/
theorem kept_create (manager : μ) (reporter : Reporter) (d : Domain) :
    Kept (create manager reporter : System ι μ) d {} where
  held := rfl
  places := fun _ => .nil
  wire := rfl
  known := by simp [Ledger.tenures]
  distinct := by simp [Ledger.tenures]

section Steps

variable {s s' : System ι μ} {d : Domain} {l : Ledger ι} {i : ι}

/-- The ledger of a domain that a step is not about stays as it is. -/
theorem Kept.frame (hk : Kept s d l) (hheld : s'.arbiter.held.has d = s.arbiter.held.has d)
    (hplaces : ∀ k, Perm ((s'.threads k).placesIn d) ((s.threads k).placesIn d))
    (hwire : s'.wireOf d = s.wireOf d) (hissued : s.issued ≤ s'.issued) : Kept s' d l where
  held := hheld.trans hk.held
  places := fun k => (hplaces k).trans (hk.places k)
  wire := hwire.trans hk.wire
  known := fun t ht => ⟨(hk.known t ht).1, by have := (hk.known t ht).2; omega⟩
  distinct := hk.distinct

/-- The current tenure of a ledger is one of its domain. -/
theorem Kept.domain_of_current {p : Place} (hk : Kept s d l) (h : l.current? = some (i, p)) :
    p.tenure.domain = d := by
  refine (hk.known p.tenure ?_).1
  simp [Ledger.tenures_of_some h]

/-- If the others keep their places, those in a domain are the same as soon as one thread has the
same. -/
theorem placesIn_of_others (hself : Perm ((s'.threads i).placesIn d) ((s.threads i).placesIn d))
    (hothers : ∀ k, k ≠ i → (s'.threads k).places = (s.threads k).places) (k : ι) :
    Perm ((s'.threads k).placesIn d) ((s.threads k).placesIn d) := by
  by_cases hki : k = i
  · subst hki
    exact hself
  · exact .of_eq (Thread.placesIn_congr (hothers k hki) d)

/-- Where the ledger has the tenure of a place. -/
theorem Kept.current?_of_perm {p : Place} {rest : List Place} (hk : Kept s p.tenure.domain l)
    (h : Perm (s.threads i).places (p :: rest)) :
    l.current? = some (i, p) ∧ rest.filter (·.tenure.domain = p.tenure.domain) = [] :=
  Ledger.current?_of_perm ((Thread.placesIn_of_perm h).symm.trans (hk.places i))

/-- A reservation opens a tenure, where the domain was free. -/
theorem Kept.opened {t : Tenure} (hk : Kept s t.domain l) (hnumber : t.number = s.issued)
    (hfree : s.arbiter.held.has t.domain = false) (hheld : s'.arbiter.held.has t.domain = true)
    (hissued : s'.issued = s.issued + 1) (hwire : s'.wire = s.wire)
    (hplaces : Perm (s'.threads i).places (⟨t, .reserved⟩ :: (s.threads i).places))
    (hothers : ∀ k, k ≠ i → (s'.threads k).places = (s.threads k).places) :
    Kept s' t.domain (l.moving i ⟨t, .reserved⟩) := by
  -- the domain was free, so that no tenure was open in the ledger and no thread had a place in it
  have hnone : l.current? = none := by
    rw [← Option.not_isSome_iff_eq_none, ← hk.held, hfree]
    simp
  have htenures : (l.moving i ⟨t, .reserved⟩).tenures = l.tenures ++ [t] := by
    rw [Ledger.tenures_of_some rfl, Ledger.tenures_of_none hnone, Ledger.moving]
  refine ⟨hheld, fun k => ?_, ?_, fun u hu => ?_, ?_⟩
  · by_cases hki : k = i
    · subst hki
      have hempty := hk.places k
      rw [Ledger.placesOf_of_none hnone] at hempty
      rw [Ledger.placesOf_self rfl]
      exact (Thread.placesIn_of_perm hplaces).trans (hempty.cons _)
    · have hempty := hk.places k
      rw [Ledger.placesOf_of_none hnone] at hempty
      rw [Ledger.placesOf_of_ne rfl hki, Thread.placesIn_congr (hothers k hki)]
      exact hempty
  · rw [Ledger.events_of_some rfl, wireOf_congr hwire, hk.wire, Ledger.events_of_none hnone]
    simp [Tenure.events, Stage.marks, Ledger.moving]
  · rw [htenures, List.mem_append, List.mem_singleton] at hu
    rcases hu with hu | rfl
    · have := hk.known u hu
      exact ⟨this.1, by omega⟩
    · exact ⟨rfl, by omega⟩
  -- the number of the new tenure has not been issued before
  · rw [htenures, List.nodup_append]
    refine ⟨hk.distinct, by simp, fun u hu v hv huv => ?_⟩
    obtain rfl := List.mem_singleton.mp hv
    have := (hk.known u hu).2
    rw [huv] at this
    omega

/-- A tenure that is not over may change its stage and its thread. -/
theorem Kept.moved {t : Tenure} {stage stage' : Stage} {marks : List Mark} {j : ι}
    (hk : Kept s t.domain l) (hcurrent : l.current? = some (i, ⟨t, stage⟩))
    (hmarks : stage'.marks = stage.marks ++ marks) (hheld : s'.arbiter.held = s.arbiter.held)
    (hissued : s'.issued = s.issued)
    (hwire : s'.wireOf t.domain = s.wireOf t.domain ++ t.events marks)
    (hplaces : ∀ k, Perm ((s'.threads k).placesIn t.domain)
      ((l.moving j ⟨t, stage'⟩).placesOf k)) :
    Kept s' t.domain (l.moving j ⟨t, stage'⟩) := by
  -- the same tenures as before: only where the current one stands is new
  have htenures : (l.moving j ⟨t, stage'⟩).tenures = l.tenures := by
    rw [Ledger.tenures_of_some rfl, Ledger.tenures_of_some hcurrent, Ledger.moving]
  refine ⟨?_, hplaces, ?_, fun u hu => ?_, ?_⟩
  · rw [hheld, hk.held, hcurrent]
    rfl
  · rw [hwire, hk.wire, Ledger.events_of_some hcurrent, Ledger.events_of_some rfl]
    simp [Tenure.events, hmarks, Ledger.moving]
  · rw [htenures] at hu
    rw [hissued]
    exact hk.known u hu
  · rw [htenures]
    exact hk.distinct

/-- A mark on the wire takes the current tenure to its next stage. -/
theorem Kept.advanced {t : Tenure} {stage stage' : Stage} {m : Mark} {rest : List Place}
    (hk : Kept s t.domain l) (hmarks : stage'.marks = stage.marks ++ [m])
    (hheld : s'.arbiter.held = s.arbiter.held) (hissued : s'.issued = s.issued)
    (hwire : s'.wire = s.wire ++ [⟨t, m⟩])
    (hplaces : Perm (s.threads i).places (⟨t, stage⟩ :: rest))
    (hplaces' : Perm (s'.threads i).places (⟨t, stage'⟩ :: rest))
    (hothers : ∀ k, k ≠ i → (s'.threads k).places = (s.threads k).places) :
    Kept s' t.domain (l.moving i ⟨t, stage'⟩) := by
  obtain ⟨hcurrent, hrest⟩ := hk.current?_of_perm hplaces
  have hevents : s'.wireOf t.domain = s.wireOf t.domain ++ t.events [m] := by
    rw [wireOf, hwire, List.filter_append, ← wireOf]
    simp [Tenure.events]
  refine hk.moved hcurrent hmarks hheld hissued hevents fun k => ?_
  -- the one place of the domain changes its stage and stays with its thread
  by_cases hki : k = i
  · subst hki
    rw [Ledger.placesOf_self rfl]
    have hafter := Thread.placesIn_of_perm hplaces'
    rwa [hrest] at hafter
  · rw [Ledger.placesOf_of_ne rfl hki, Thread.placesIn_congr (hothers k hki),
      ← Ledger.placesOf_of_ne hcurrent hki]
    exact hk.places k

/-- A token that is passed on takes its tenure to another thread. -/
theorem Kept.passed {t : Tenure} {j : ι} (hk : Kept s t.domain l) (hj : j ≠ i)
    (harbiter : s'.arbiter = s.arbiter) (hissued : s'.issued = s.issued)
    (hwire : s'.wire = s.wire)
    (hplaces : Perm (s.threads i).places (⟨t, .granted⟩ :: (s'.threads i).places))
    (hplaces' : Perm (s'.threads j).places (⟨t, .granted⟩ :: (s.threads j).places))
    (hothers : ∀ k, k ≠ i → k ≠ j → (s'.threads k).places = (s.threads k).places) :
    Kept s' t.domain (l.moving j ⟨t, .granted⟩) := by
  obtain ⟨hcurrent, hrest⟩ := hk.current?_of_perm hplaces
  have hevents : s'.wireOf t.domain = s.wireOf t.domain ++ t.events [] := by
    rw [wireOf_congr hwire]
    simp [Tenure.events]
  refine hk.moved hcurrent (List.append_nil _).symm (by rw [harbiter]) hissued hevents
    fun k => ?_
  -- the thread that gets the token, the one that had it, and the others
  by_cases hkj : k = j
  · subst hkj
    have hempty := hk.places k
    rw [Ledger.placesOf_of_ne hcurrent hj] at hempty
    rw [Ledger.placesOf_self rfl]
    exact (Thread.placesIn_of_perm hplaces').trans (hempty.cons _)
  · rw [Ledger.placesOf_of_ne rfl hkj]
    by_cases hki : k = i
    · subst hki
      exact .of_eq hrest
    · rw [Thread.placesIn_congr (hothers k hki hkj), ← Ledger.placesOf_of_ne hcurrent hki]
      exact hk.places k

/-- A tenure that ends makes its domain free and its course part of the past. -/
theorem Kept.ended {t : Tenure} {stage : Stage} {course : Course} (hk : Kept s t.domain l)
    (hmarks : stage.marks = course.marks) (hheld : s'.arbiter.held.has t.domain = false)
    (hissued : s'.issued = s.issued) (hwire : s'.wire = s.wire)
    (hplaces : Perm (s.threads i).places (⟨t, stage⟩ :: (s'.threads i).places))
    (hothers : ∀ k, k ≠ i → (s'.threads k).places = (s.threads k).places) :
    Kept s' t.domain (l.ending t course) := by
  -- the place that goes was that of the current tenure, and the only one of the domain
  obtain ⟨hcurrent, hrest⟩ := hk.current?_of_perm hplaces
  refine ⟨hheld, fun k => ?_, ?_, fun u hu => ?_, ?_⟩
  · rw [Ledger.placesOf_of_none rfl]
    by_cases hki : k = i
    · subst hki
      exact .of_eq hrest
    · rw [Thread.placesIn_congr (hothers k hki), ← Ledger.placesOf_of_ne hcurrent hki]
      exact hk.places k
  · rw [Ledger.events_ending hcurrent hmarks, wireOf_congr hwire]
    exact hk.wire
  · rw [Ledger.tenures_ending course hcurrent] at hu
    rw [hissued]
    exact hk.known u hu
  · rw [Ledger.tenures_ending course hcurrent]
    exact hk.distinct

variable [Manager μ] {move : Move ι}

/-- A step keeps a ledger for each domain. -/
theorem Kept.step (hk : Kept s d l) (hs : Step i move s s') : ∃ l', Kept s' d l' := by
  -- each effect is about one domain: the ledger of that one moves on, that of any other is framed
  cases hs.effect with
  | opened e hfree hheld hissued hwire hplaces hothers =>
    by_cases hd : e = d
    · subst hd
      exact ⟨_, Kept.opened (t := ⟨s.issued, e⟩) hk rfl hfree (by simp [hheld]) hissued hwire
        hplaces hothers⟩
    · have hself := Thread.placesIn_of_perm_of_ne hplaces hd
      exact ⟨l, hk.frame (by simp [hheld, Ne.symm hd]) (placesIn_of_others hself hothers)
        (wireOf_congr hwire d) (by omega)⟩
  | advanced t stage stage' m rest hmarks hheld hissued hwire hplaces hplaces' hothers =>
    by_cases hd : t.domain = d
    · subst hd
      exact ⟨_, hk.advanced hmarks hheld hissued hwire hplaces hplaces' hothers⟩
    · have hself := (Thread.placesIn_of_perm_of_ne hplaces' hd).trans
        (Thread.placesIn_of_perm_of_ne hplaces hd).symm
      exact ⟨l, hk.frame (by rw [hheld]) (placesIn_of_others hself hothers)
        (wireOf_append_of_ne hwire hd) (by omega)⟩
  | ended t stage course hmarks hheld hissued hwire hplaces hothers =>
    by_cases hd : t.domain = d
    · subst hd
      exact ⟨_, hk.ended hmarks (by simp [hheld]) hissued hwire hplaces hothers⟩
    · have hself := (Thread.placesIn_of_perm_of_ne hplaces hd).symm
      exact ⟨l, hk.frame (by simp [hheld, Ne.symm hd]) (placesIn_of_others hself hothers)
        (wireOf_congr hwire d) (by omega)⟩
  | passed t j hj harbiter hissued hwire hplaces hplaces' hothers =>
    by_cases hd : t.domain = d
    · subst hd
      exact ⟨_, hk.passed hj harbiter hissued hwire hplaces hplaces' hothers⟩
    · refine ⟨l, hk.frame (by rw [harbiter]) (fun k => ?_) (wireOf_congr hwire d) (by omega)⟩
      by_cases hki : k = i
      · subst hki
        exact (Thread.placesIn_of_perm_of_ne hplaces hd).symm
      · by_cases hkj : k = j
        · subst hkj
          exact Thread.placesIn_of_perm_of_ne hplaces' hd
        · exact .of_eq (Thread.placesIn_congr (hothers k hki hkj) d)
  | stayed hheld hissued hwire hplaces =>
    exact ⟨l, hk.frame (by rw [hheld]) (fun k => .of_eq (Thread.placesIn_congr (hplaces k) d))
      (wireOf_congr hwire d) (by omega)⟩

/-- In every run there is a ledger for each domain. -/
theorem kept_of_reaches {who : ι → Prop} {s₀ : System ι μ} (h : Reaches who s₀ s)
    (h₀ : ∃ l, Kept s₀ d l) : ∃ l, Kept s d l := by
  induction h with
  | refl => exact h₀
  | step _ _ hs ih =>
    obtain ⟨l, hk⟩ := ih
    exact hk.step hs

end Steps

end System

end RobotWeb.Mastership
