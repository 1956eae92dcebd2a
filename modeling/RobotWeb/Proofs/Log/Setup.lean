import RobotWeb.Log.Setup
import Mathlib.Data.List.Basic

/-!
# The log is installed once

A process sets its log up by calls, each in a mode that the caller gives or that the environment
chooses, and each with the environment as it is by then. A call offers a filter if its mode shows
anything and its directives can be read. The first filter that is offered is installed, and no other
call changes anything.

* `Call.Chooses`, `Call.Offers` — the mode of a call, and its filter.
* `Call.Returns`              — what a call returns, by whether a filter was offered before.
* `Setup.perform_spec`        — one call, with the filter that it offers.
* `Setup.performAll_snd`      — calls one after the other.
* `log_is_installed_once`     — any calls in a fresh process.
-/

namespace RobotWeb.Log

/-- A call that sets the log up, with the environment that it finds. Without a mode of its own the
environment chooses one. -/
structure Call where
  env : Environment
  mode? : Option Mode := none

namespace Call

/-- The mode of the call: the one that it gives, or the one that the environment names, or a silent
one. -/
inductive Chooses : Call → Mode → Prop where
  | given {env : Environment} (mode : Mode) : Chooses ⟨env, some mode⟩ mode
  | unset {env : Environment} (h : env.mode = .unset) : Chooses ⟨env, none⟩ .silent
  | named {env : Environment} {value : String} {mode : Mode} (h : env.mode = .text value)
      (hname : Mode.canonical value = mode.name) : Chooses ⟨env, none⟩ mode

/-- The mode shows something, and its directives are read as the filter. -/
def Offers (c : Call) (f : Filter) : Prop :=
  ∃ mode level, c.Chooses mode ∧ mode.defaultLevel? = some level ∧
    Filter.read? (directives c.env level) = some f

/-- What the call returns, if a filter was `offered` before or if none was. -/
inductive Returns (offered : Prop) : Call → Except SetupError Unit → Prop where
  | silent {c : Call} (h : c.Chooses .silent) : Returns offered c (.ok ())
  | first {c : Call} {f : Filter} (h : c.Offers f) (hnone : ¬ offered) : Returns offered c (.ok ())
  | late {c : Call} {f : Filter} (h : c.Offers f) (hsome : offered) :
      Returns offered c (.error .alreadyInstalled)
  | unread {c : Call} {mode : Mode} {level : String} (h : c.Chooses mode)
      (hlevel : mode.defaultLevel? = some level)
      (hread : Filter.read? (directives c.env level) = none) :
      Returns offered c (.error (.invalidFilter (directives c.env level)))
  | unknown {env : Environment} {value : String} (h : env.mode = .text value)
      (hname : ∀ mode : Mode, Mode.canonical value ≠ mode.name) :
      Returns offered ⟨env, none⟩ (.error (.unknownMode (Mode.canonical value)))
  | notText {env : Environment} (h : env.mode = .notText) :
      Returns offered ⟨env, none⟩ (.error .modeNotText)

/-- The mode of the call, or why there is none. -/
def mode (c : Call) : Except SetupError Mode :=
  match c.mode? with
  | some mode => .ok mode
  | none => chosenMode c.env

/-- The filter that the call offers. -/
def offered? (c : Call) : Option Filter :=
  match c.mode with
  | .error _ => none
  | .ok mode => mode.defaultLevel?.bind fun level => Filter.read? (directives c.env level)

end Call

namespace Setup

/-- One call: what it returns, and the log after it. -/
def perform (s : Setup) (c : Call) : Except SetupError Unit × Setup :=
  match c.mode? with
  | some mode => s.start c.env mode
  | none => s.startChosen c.env

/-- Calls one after the other: what they return, the first one first, and the log after them. -/
def performAll (s : Setup) : List Call → List (Except SetupError Unit) × Setup
  | [] => ([], s)
  | call :: rest =>
    let (outcome, next) := s.perform call
    let (outcomes, last) := next.performAll rest
    (outcome :: outcomes, last)

end Setup

-- ---------------------------------------------------------------------------
-- Modes and filters of calls
-- ---------------------------------------------------------------------------

namespace Mode

/-- Only the silent mode has no level. -/
theorem defaultLevel?_eq_none {mode : Mode} : mode.defaultLevel? = none ↔ mode = .silent := by
  cases mode <;> simp [defaultLevel?]

/-- A mode is read by its name. -/
theorem named?_eq_some {name : String} {mode : Mode} :
    named? name = some mode ↔ name = mode.name := by
  constructor
  · intro h
    have hfound := List.find?_some (p := fun mode : Mode => mode.name == name) h
    exact (beq_iff_eq.mp hfound).symm
  · rintro rfl
    cases mode <;> rfl

/-- A text that is not the name of a mode is not read. -/
theorem named?_eq_none {name : String} : named? name = none ↔ ∀ mode : Mode, name ≠ mode.name := by
  simp only [Option.eq_none_iff_forall_ne_some, ne_eq, named?_eq_some]

end Mode

namespace Call

variable {c : Call} {f : Filter} {mode : Mode} {offered : Prop}

/-- The mode that is found is the one that is chosen, and an error tells why there is none. -/
theorem mode_cases (c : Call) :
    (∃ mode, c.mode = .ok mode ∧ c.Chooses mode) ∨
      ∃ e, c.mode = .error e ∧ ∀ offered, c.Returns offered (.error e) := by
  obtain ⟨env, _ | given⟩ := c
  · cases henv : env.mode with
    | unset => exact .inl ⟨_, by simp only [mode, chosenMode, henv], .unset henv⟩
    | notText => exact .inr ⟨_, by simp only [mode, chosenMode, henv], fun _ => .notText henv⟩
    | text value =>
      cases hname : Mode.named? (Mode.canonical value) with
      | some mode =>
        exact .inl ⟨_, by simp only [Call.mode, chosenMode, henv, hname],
          .named henv (Mode.named?_eq_some.mp hname)⟩
      | none =>
        exact .inr ⟨_, by simp only [Call.mode, chosenMode, henv, hname],
          fun _ => .unknown henv (Mode.named?_eq_none.mp hname)⟩
  · exact .inl ⟨given, rfl, .given given⟩

/-- A call chooses the mode that it names or finds in its environment. -/
theorem chooses_iff : c.Chooses mode ↔ c.mode = .ok mode := by
  constructor
  · intro h
    cases h with
    | given => rfl
    | unset h => simp only [Call.mode, chosenMode, h]
    | named h hname => simp only [Call.mode, chosenMode, h, Mode.named?_eq_some.mpr hname]
  · intro h
    rcases c.mode_cases with ⟨mode', hmode, hchooses⟩ | ⟨e, he, -⟩
    · obtain rfl : mode' = mode := Except.ok.inj (hmode.symm.trans h)
      exact hchooses
    · cases h.symm.trans he

/-- Without a mode the call tells why there is none. -/
theorem returns_of_error {e : SetupError} (h : c.mode = .error e) :
    c.Returns offered (.error e) := by
  rcases c.mode_cases with ⟨mode, hmode, -⟩ | ⟨e', he, hreturns⟩
  · cases h.symm.trans hmode
  · obtain rfl : e' = e := Except.error.inj (he.symm.trans h)
    exact hreturns offered

/-- A call offers the filter that it would install. -/
theorem offers_iff : c.Offers f ↔ c.offered? = some f := by
  constructor
  · rintro ⟨mode, level, hmode, hlevel, hread⟩
    simp only [offered?, chooses_iff.mp hmode, hlevel, Option.bind_some, hread]
  · intro h
    unfold offered? at h
    split at h
    · cases h
    · rename_i mode hmode
      obtain ⟨level, hlevel, hread⟩ := Option.bind_eq_some_iff.mp h
      exact ⟨mode, level, chooses_iff.mpr hmode, hlevel, hread⟩

end Call

namespace Setup

variable {s : Setup} {c : Call} {offered : Prop} {outcome : Except SetupError Unit}

/-- A call starts in the mode that it chooses, or fails because it chooses none. -/
theorem perform_eq (s : Setup) (c : Call) :
    s.perform c = match c.mode with
      | .error e => (.error e, s)
      | .ok mode => s.start c.env mode := by
  obtain ⟨env, _ | mode⟩ := c
  · rfl
  · rfl

/-- In the silent mode nothing is done, whether a log is installed or not. -/
theorem perform_of_silent (s : Setup) (h : c.Chooses .silent) : s.perform c = (.ok (), s) := by
  rw [perform_eq, Call.chooses_iff.mp h]
  rfl

/-- Directives that cannot be read are refused before anything is installed. -/
theorem perform_of_unread {mode : Mode} {level : String} (s : Setup) (h : c.Chooses mode)
    (hlevel : mode.defaultLevel? = some level)
    (hread : Filter.read? (directives c.env level) = none) :
    s.perform c = (.error (.invalidFilter (directives c.env level)), s) := by
  rw [perform_eq, Call.chooses_iff.mp h]
  simp only [start, hlevel, hread]

/-- A filter that can be read is installed. -/
theorem perform_of_offer {f : Filter} (s : Setup) (h : c.Offers f) : s.perform c = s.install f := by
  obtain ⟨mode, level, hmode, hlevel, hread⟩ := h
  rw [perform_eq, Call.chooses_iff.mp hmode]
  simp only [start, hlevel, hread]

/-- The log is installed once: a second filter is refused. -/
theorem install_of_installed {f : Filter} (h : s.isInstalled = true) :
    s.install f = (.error .alreadyInstalled, s) :=
  if_pos h

theorem install_of_fresh {f : Filter} (h : ¬ s.isInstalled = true) :
    s.install f = (.ok (), ⟨some f⟩) :=
  if_neg h

/-- What a call returns is what its mode, its directives and the log say. -/
theorem perform_of_returns (h : c.Returns (s.isInstalled = true) outcome) :
    (s.perform c).1 = outcome := by
  cases h with
  | silent h => rw [s.perform_of_silent h]
  | first h hnone => rw [s.perform_of_offer h, install_of_fresh hnone]
  | late h hsome => rw [s.perform_of_offer h, install_of_installed hsome]
  | unread h hlevel hread => rw [s.perform_of_unread h hlevel hread]
  | unknown h hname =>
    simp only [perform, startChosen, chosenMode, h, Mode.named?_eq_none.mpr hname]
  | notText h => simp only [perform, startChosen, chosenMode, h]

/-- A call installs the filter that it offers unless there is one, and changes nothing else. -/
theorem perform_spec (s : Setup) (c : Call) :
    c.Returns (s.isInstalled = true) (s.perform c).1 ∧
      (s.perform c).2 = ⟨s.filter?.or c.offered?⟩ := by
  -- in the order of the checks: the mode, whether it is silent, the directives, an earlier log
  cases hmode : c.mode with
  | error e =>
    have hoffered : c.offered? = none := by simp only [Call.offered?, hmode]
    have hperform : s.perform c = (.error e, s) := by rw [perform_eq, hmode]
    rw [hperform, hoffered, Option.or_none]
    exact ⟨Call.returns_of_error hmode, rfl⟩
  | ok mode =>
    have hchooses := Call.chooses_iff.mpr hmode
    cases hlevel : mode.defaultLevel? with
    | none =>
      obtain rfl := Mode.defaultLevel?_eq_none.mp hlevel
      have hoffered : c.offered? = none := by simp only [Call.offered?, hmode]; rfl
      rw [s.perform_of_silent hchooses, hoffered, Option.or_none]
      exact ⟨.silent hchooses, rfl⟩
    | some level =>
      have hoffered : c.offered? = Filter.read? (directives c.env level) := by
        simp only [Call.offered?, hmode, hlevel, Option.bind_some]
      cases hread : Filter.read? (directives c.env level) with
      | none =>
        rw [s.perform_of_unread hchooses hlevel hread, hoffered, hread, Option.or_none]
        exact ⟨.unread hchooses hlevel hread, rfl⟩
      | some f =>
        have hoffers : c.Offers f := ⟨mode, level, hchooses, hlevel, hread⟩
        rw [s.perform_of_offer hoffers, hoffered, hread]
        by_cases hs : s.isInstalled = true
        · rw [install_of_installed hs]
          obtain ⟨g, hg⟩ := Option.isSome_iff_exists.mp hs
          exact ⟨.late hoffers hs, by rw [hg, Option.some_or, ← hg]⟩
        · rw [install_of_fresh hs]
          have hnone : s.filter? = none := by simpa [isInstalled] using hs
          exact ⟨.first hoffers hs, by rw [hnone, Option.none_or]⟩

theorem performAll_cons (s : Setup) (call : Call) (calls : List Call) :
    s.performAll (call :: calls) =
      ((s.perform call).1 :: ((s.perform call).2.performAll calls).1,
        ((s.perform call).2.performAll calls).2) :=
  rfl

/-- Calls are put together. -/
theorem performAll_append (s : Setup) (calls more : List Call) :
    s.performAll (calls ++ more) =
      ((s.performAll calls).1 ++ ((s.performAll calls).2.performAll more).1,
        ((s.performAll calls).2.performAll more).2) := by
  induction calls generalizing s with
  | nil => rfl
  | cons call calls ih => simp only [List.cons_append, performAll_cons, ih]

/-- Every call returns. -/
theorem performAll_length (s : Setup) (calls : List Call) :
    (s.performAll calls).1.length = calls.length := by
  induction calls generalizing s with
  | nil => rfl
  | cons call calls ih => rw [performAll_cons, List.length_cons, ih, List.length_cons]

/-- Calls install the first filter that one of them offers, unless there is one. -/
theorem performAll_snd (s : Setup) (calls : List Call) :
    (s.performAll calls).2 = ⟨s.filter?.or (calls.findSome? Call.offered?)⟩ := by
  induction calls generalizing s with
  | nil => rw [List.findSome?_nil, Option.or_none]; rfl
  | cons call calls ih =>
    rw [performAll_cons, ih, (s.perform_spec call).2, Option.or_assoc, List.findSome?_cons]
    cases call.offered? <;> rfl

/-- What calls return in a fresh process. -/
def returned (calls : List Call) : List (Except SetupError Unit) :=
  (({} : Setup).performAll calls).1

/-- The log of a fresh process after some calls. -/
def after (calls : List Call) : Setup :=
  (({} : Setup).performAll calls).2

/-- The filter is that of the first call that has offered one. -/
theorem filter?_after (calls : List Call) :
    (after calls).filter? = calls.findSome? Call.offered? := by
  rw [after, performAll_snd]
  rfl

/-- A log is installed if any call has offered a filter. -/
theorem isInstalled_after {calls : List Call} :
    (after calls).isInstalled = true ↔ ∃ call ∈ calls, ∃ f, call.Offers f := by
  rw [isInstalled, filter?_after, List.findSome?_isSome_iff]
  simp only [Option.isSome_iff_exists, Call.offers_iff]

/-- What calls leave is where later ones begin. -/
theorem after_append (calls more : List Call) :
    after (calls ++ more) = ((after calls).performAll more).2 := by
  rw [after, performAll_append]
  rfl

/-- A log that is installed stays as it is. -/
theorem after_append_of_installed {calls : List Call} (h : (after calls).isInstalled = true)
    (more : List Call) : after (calls ++ more) = after calls := by
  obtain ⟨f, hf⟩ := Option.isSome_iff_exists.mp h
  rw [after_append, performAll_snd, hf, Option.some_or, ← hf]

/-- What a call returns depends on the calls before it only. -/
theorem returned_getElem? (before : List Call) (call : Call) (rest : List Call) :
    (returned (before ++ call :: rest))[before.length]? =
      some ((after before).perform call).1 := by
  rw [returned, performAll_append, ← performAll_length {} before,
    List.getElem?_append_right (Nat.le_refl _), Nat.sub_self]
  rfl

/-- The rule says what a call returns, given whether an earlier one has offered a filter. -/
theorem returns_iff {before : List Call} {call : Call} :
    call.Returns (∃ earlier ∈ before, ∃ f, earlier.Offers f) outcome ↔
      outcome = ((after before).perform call).1 := by
  have hoffered : (∃ earlier ∈ before, ∃ f, earlier.Offers f) ↔ (after before).isInstalled = true :=
    isInstalled_after.symm
  rw [hoffered]
  exact ⟨fun h => (perform_of_returns h).symm, fun h => h ▸ (perform_spec _ call).1⟩

/-- The log is as it was, or the call has installed the first filter that is offered. -/
theorem after_append_call (before : List Call) (call : Call) :
    after (before ++ [call]) = after before ∨
      ∃ f, call.Offers f ∧ (∀ earlier ∈ before, ∀ g, ¬ earlier.Offers g) ∧
        ((after before).perform call).1 = .ok () ∧ after (before ++ [call]) = ⟨some f⟩ := by
  by_cases hs : (after before).isInstalled = true
  · exact .inl (after_append_of_installed hs [call])
  · cases hoffered : call.offered? with
    | none =>
      have hnext := (perform_spec (after before) call).2
      rw [hoffered, Option.or_none] at hnext
      exact .inl ((after_append before [call]).trans hnext)
    | some f =>
      have hoffers := Call.offers_iff.mpr hoffered
      have hperform := ((after before).perform_of_offer hoffers).trans (install_of_fresh hs)
      rw [isInstalled_after] at hs
      refine .inr ⟨f, hoffers, fun earlier hmem g hg => hs ⟨earlier, hmem, g, hg⟩,
        congrArg Prod.fst hperform, (after_append before [call]).trans ?_⟩
      exact congrArg Prod.snd hperform

end Setup

/-- A call that succeeds is silent, or it is the first one that offers a filter. -/
theorem Call.Returns.offers {c : Call} {offered : Prop} (h : c.Returns offered (.ok ()))
    (hmode : ¬ c.Chooses .silent) : (∃ f, c.Offers f) ∧ ¬ offered := by
  cases h with
  | silent h => exact absurd h hmode
  | first h hnone => exact ⟨⟨_, h⟩, hnone⟩

open Setup in
/-- **The log is installed once.** In a fresh process any calls may set the log up, each in the
environment that it finds. The log is installed by the first call that shows something and whose
directives can be read, with the filter of that call, and stays as it is. That call and every silent
one return without an error. Any other fails: for its directives if they cannot be read, because a
log is installed if they can, and for the text of its mode if it names none. No call but the first
that offers a filter changes anything, and no other call that shows something succeeds. -/
theorem log_is_installed_once (calls : List Call) :
    (∀ f, (after calls).filter? = some f ↔ ∃ before call rest, calls = before ++ call :: rest ∧
      call.Offers f ∧ ∀ earlier ∈ before, ∀ g, ¬ earlier.Offers g) ∧
    ((after calls).isInstalled = true ↔ ∃ call ∈ calls, ∃ f, call.Offers f) ∧
    (∀ more, (after calls).isInstalled = true → after (calls ++ more) = after calls) ∧
    (returned calls).length = calls.length ∧
    (∀ before call rest, calls = before ++ call :: rest →
      ∃ outcome, (returned calls)[before.length]? = some outcome ∧
        (∀ outcome', call.Returns (∃ earlier ∈ before, ∃ f, earlier.Offers f) outcome' ↔
          outcome' = outcome) ∧
        (after (before ++ [call]) = after before ∨
          ∃ f, call.Offers f ∧ (∀ earlier ∈ before, ∀ g, ¬ earlier.Offers g) ∧
            outcome = .ok () ∧ after (before ++ [call]) = ⟨some f⟩)) ∧
    ∀ before first between second rest, calls = before ++ first :: (between ++ second :: rest) →
      ¬ first.Chooses .silent → ¬ second.Chooses .silent →
      (returned calls)[before.length]? = some (.ok ()) →
      (returned calls)[(before ++ first :: between).length]? ≠ some (.ok ()) := by
  refine ⟨fun f => ?_, isInstalled_after, fun more h => after_append_of_installed h more,
    performAll_length _ _, ?_, ?_⟩
  · simp only [filter?_after, List.findSome?_eq_some_iff, Call.offers_iff,
      Option.eq_none_iff_forall_ne_some, ne_eq]
  · rintro before call rest rfl
    exact ⟨_, returned_getElem? before call rest, fun _ => returns_iff,
      after_append_call before call⟩
  -- a call that shows something and succeeds offers a filter, which keeps the second from being
  -- first
  · rintro before first between second rest rfl hfirst hsecond hok hok'
    rw [returned_getElem?, Option.some_inj] at hok
    obtain ⟨hoffers, -⟩ := (returns_iff.mpr hok.symm).offers hfirst
    rw [← List.cons_append, ← List.append_assoc, returned_getElem?, Option.some_inj] at hok'
    obtain ⟨-, hnone⟩ := (returns_iff.mpr hok'.symm).offers hsecond
    exact hnone ⟨first, by simp, hoffers⟩

/-- A silent call, directives that cannot be read, the call that installs the log, a late one, and
a mode that does not exist. -/
example :
    let calls : List Call := [⟨{}, none⟩, ⟨{ target := .text "=" }, some .json⟩,
      ⟨{ mode := .text " Debug " }, none⟩, ⟨{}, some .json⟩, ⟨{ mode := .text "quiet" }, none⟩]
    Setup.returned calls = [.ok (), .error (.invalidFilter "==info"), .ok (),
      .error .alreadyInstalled, .error (.unknownMode "quiet")] ∧
      (Setup.after calls).filter? = some ⟨[{ verbosity := some .debug }]⟩ := by
  decide +kernel

end RobotWeb.Log
