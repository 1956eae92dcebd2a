import RobotWeb.Proofs.Stream.Fragments

/-!
# Walks, turn by turn

A walk makes turns: each takes the element on top off the stack and pushes the children of it, from
the last one to the first, so that the first one is on top afterwards. A call makes turns until it
meets an element with a fragment, or until the stack is empty. What a walk has still to visit is
what its stack expands to in document order, whatever the tree is and whether or not it was
checked, and that is what the calls to come find their fragments in.

* `Walk.Turns`          — the elements that a walk visits, turn by turn.
* `Walk.ask`            — one call, with the walk after it also when nothing was found.
* `Turns.remaining`     — each turn takes one element from what remains.
* `ask_turns`           — the turns that a call makes.
* `answer_eq`           — the answer of each call.
* `walk_finds_items`    — the calls on the walk over any tree.
-/

namespace RobotWeb.Stream

open Markup (Element)

namespace Walk

-- ---------------------------------------------------------------------------
-- Turns
-- ---------------------------------------------------------------------------

/-- The stack after pushing elements one by one; the last one of them is on top. -/
def pushAll (stack elements : List Element) : List Element :=
  elements.foldl (fun stack e => e :: stack) stack

/-- The walk visits these elements, the first one first. Each turn takes the top of the stack off
and pushes its children, beginning with the last one. -/
inductive Turns : Walk → List Element → Walk → Prop where
  | rest (w : Walk) : Turns w [] w
  | turn {e : Element} {stack visited : List Element} {left : Walk}
      (later : Turns ⟨pushAll stack e.childElements.reverse⟩ visited left) :
      Turns ⟨e :: stack⟩ (e :: visited) left

/-- Pushed from the last one to the first, elements stand on the stack in their order. -/
theorem pushAll_reverse (stack elements : List Element) :
    pushAll stack elements.reverse = elements ++ stack := by
  rw [pushAll, List.foldl_reverse, List.foldr_cons_eq_append']

/-- Children that are pushed in reverse stand in their order on the stack. -/
theorem mk_pushAll (e : Element) (stack : List Element) :
    Walk.mk (pushAll stack e.childElements.reverse) = below e stack := by
  rw [pushAll_reverse, below]

variable {w left last : Walk} {visited later : List Element}

/-- What is visited is taken from the front of what remains. -/
theorem Turns.remaining (h : w.Turns visited left) :
    w.remaining = visited ++ left.remaining := by
  induction h with
  | rest => rfl
  | turn _ ih => rw [remaining_below, ← mk_pushAll, ih, List.cons_append]

/-- Turns are put together. -/
theorem Turns.append (h : w.Turns visited left) (h' : left.Turns later last) :
    w.Turns (visited ++ later) last := by
  induction h with
  | rest => exact h'
  | turn _ ih => exact .turn (ih h')

/-- Turn after turn, a walk comes to an end, after as many turns as elements remain. -/
theorem turns_remaining (w : Walk) : w.Turns w.remaining ⟨[]⟩ := by
  obtain ⟨stack⟩ := w
  -- by induction on how much remains, which the children of an element on top are part of
  generalize hn : (Walk.mk stack).remaining.length = n
  induction n generalizing stack with
  | zero =>
    cases stack with
    | nil => exact .rest _
    | cons e stack => simp [remaining_below] at hn
  | succ n ih =>
    cases stack with
    | nil => simp [Walk.remaining] at hn
    | cons e stack =>
      rw [remaining_below, List.length_cons] at hn
      rw [remaining_below]
      refine .turn ?_
      rw [mk_pushAll]
      exact ih _ (Nat.succ.inj hn)

/-- The elements that are still to come are those that the stack expands to. -/
theorem turns_end_iff : w.Turns visited ⟨[]⟩ ↔ visited = w.remaining := by
  refine ⟨fun h => ?_, fun h => h ▸ w.turns_remaining⟩
  have hremaining := h.remaining
  simpa [Walk.remaining] using hremaining.symm

-- ---------------------------------------------------------------------------
-- Calls
-- ---------------------------------------------------------------------------

/-- One call on the walk: the next fragment, if there is one, and the walk after it. When none is
found, the stack has been emptied. -/
def ask (w : Walk) : Option Fragment × Walk :=
  match w.next? with
  | some (f, left) => (some f, left)
  | none => (none, ⟨[]⟩)

/-- The walk after the first calls. -/
def afterCalls (w : Walk) : Nat → Walk
  | 0 => w
  | n + 1 => (w.afterCalls n).ask.2

/-- What a call gives that follows `n` others. -/
def answer (w : Walk) (n : Nat) : Option Fragment :=
  (w.afterCalls n).ask.1

/-- The turns that belong to a call with this answer: all but the last one meet nothing that has a
fragment, and the last one meets the answer; without an answer there is no such last one. -/
def Meet (visited : List Element) : Option Fragment → Prop
  | none => visited.filterMap fragmentAt? = []
  | some f => ∃ passed e, visited = passed ++ [e] ∧ passed.filterMap fragmentAt? = [] ∧
      fragmentAt? e = some f

/-- Of the elements that one call visits, at most the last one has a fragment. -/
theorem Meet.filterMap {found : Option Fragment} (h : Meet visited found) :
    visited.filterMap fragmentAt? = found.toList := by
  cases found with
  | none => exact h
  | some f =>
    obtain ⟨passed, e, rfl, hpassed, he⟩ := h
    simp [hpassed, he]

theorem Meet.cons {found : Option Fragment} {e : Element} (he : fragmentAt? e = none)
    (h : Meet visited found) : Meet (e :: visited) found := by
  cases found with
  | none => exact (List.filterMap_cons_none he).trans h
  | some f =>
    obtain ⟨passed, last, rfl, hpassed, hlast⟩ := h
    exact ⟨e :: passed, last, rfl, (List.filterMap_cons_none he).trans hpassed, hlast⟩

theorem ask_nil : (Walk.mk []).ask = (none, ⟨[]⟩) := by
  rw [ask, next?_nil]

/-- A call ends at the first element with a fragment. -/
theorem ask_cons_of_some {e : Element} {f : Fragment} (h : fragmentAt? e = some f)
    (stack : List Element) : (Walk.mk (e :: stack)).ask = (some f, below e stack) := by
  rw [ask, next?_cons, h]

/-- It passes any other element and goes on below it. -/
theorem ask_cons_of_none {e : Element} (h : fragmentAt? e = none) (stack : List Element) :
    (Walk.mk (e :: stack)).ask = (below e stack).ask := by
  rw [ask, next?_cons, h]
  rfl

/-- A call makes turns until it meets its answer, or until nothing is left. -/
theorem ask_turns (w : Walk) :
    ∃ visited, w.Turns visited w.ask.2 ∧ Meet visited w.ask.1 ∧
      (w.ask.1 = none → w.ask.2.stack = []) := by
  have hend := w.turns_remaining
  generalize w.remaining = visited at hend
  generalize hlast : Walk.mk [] = last at hend
  -- over the turns that would empty the stack, of which a call makes those up to its answer
  induction hend with
  | rest w =>
    subst hlast
    rw [ask_nil]
    exact ⟨[], .rest _, rfl, fun _ => rfl⟩
  | @turn e stack _ _ _ ih =>
    rw [mk_pushAll] at ih
    cases he : fragmentAt? e with
    | none =>
      obtain ⟨visited, hturns, hmeet, hempty⟩ := ih hlast
      rw [ask_cons_of_none he]
      exact ⟨e :: visited, .turn (mk_pushAll e stack ▸ hturns), hmeet.cons he, hempty⟩
    | some f =>
      rw [ask_cons_of_some he]
      exact ⟨[e], .turn (mk_pushAll e stack ▸ .rest _), ⟨[], e, rfl, rfl, he⟩, nofun⟩

/-- A call takes its answer from the front of the fragments to come. -/
theorem ask_remaining (w : Walk) :
    w.remaining.filterMap fragmentAt? =
      w.ask.1.toList ++ w.ask.2.remaining.filterMap fragmentAt? := by
  obtain ⟨visited, hturns, hmeet, -⟩ := w.ask_turns
  rw [hturns.remaining, List.filterMap_append, hmeet.filterMap]

/-- A call gives the first fragment of what remains. -/
theorem ask_fst (w : Walk) : w.ask.1 = (w.remaining.filterMap fragmentAt?)[0]? := by
  obtain ⟨_, _, _, hempty⟩ := w.ask_turns
  rw [w.ask_remaining]
  cases hfound : w.ask.1 with
  | some f => rfl
  | none => simp [Walk.remaining, hempty hfound]

/-- The fragments that remain after some calls are the ones behind those that were found. -/
theorem remaining_afterCalls (w : Walk) (n : Nat) :
    (w.afterCalls n).remaining.filterMap fragmentAt? =
      (w.remaining.filterMap fragmentAt?).drop n := by
  induction n with
  | zero => rfl
  | succ n ih =>
    have hremaining := (w.afterCalls n).ask_remaining
    obtain ⟨_, _, _, hempty⟩ := (w.afterCalls n).ask_turns
    rw [afterCalls, ← List.drop_drop, ← ih, hremaining]
    cases hfound : (w.afterCalls n).ask.1 with
    | some f => rfl
    | none => simp [Walk.remaining, hempty hfound]

/-- Each call gives the fragment that comes next in document order. -/
theorem answer_eq (w : Walk) (n : Nat) :
    w.answer n = (w.remaining.filterMap fragmentAt?)[n]? := by
  rw [answer, ask_fst, remaining_afterCalls, List.getElem?_drop, Nat.add_zero]

end Walk

-- ---------------------------------------------------------------------------
-- The walk over a tree
-- ---------------------------------------------------------------------------

/-- The fragments in a tree are those of its list items. -/
theorem filterMap_fragmentAt? (root : Element) :
    root.preorder.filterMap fragmentAt? =
      (root.withName itemName).filterMap fun item => (Fragment.ofElement item).toOption := by
  rw [Element.withName_eq, List.filterMap_filter]
  simp only [beq_iff_eq]
  rfl

/-- **A walk finds what a search finds.** Over any tree, checked or not, the calls on a walk give
one after the other the fragments of the list items that the search by name gathers and that have
one, and then nothing any more, however often it is asked. After any number of calls, the elements
to come until the stack is empty are those that the stack expands to, from its top to its bottom
and each tree in document order. A call visits elements up to the next one with a fragment, and if
there is none, up to the last one. -/
theorem walk_finds_items (root : Element) (size : Nat) :
    let walk := (ParsedFrame.mk (some root) size).walk
    let found := (root.withName itemName).filterMap fun item => (Fragment.ofElement item).toOption
    (∀ n, walk.answer n = found[n]?) ∧
    (∀ n, walk.answer n = none → ∀ k, n ≤ k → walk.answer k = none) ∧
    (∀ n visited, (walk.afterCalls n).Turns visited ⟨[]⟩ ↔
      visited = (walk.afterCalls n).stack.flatMap Element.preorder) ∧
    ∀ n, ∃ visited, (walk.afterCalls n).Turns visited (walk.afterCalls (n + 1)) ∧
      Walk.Meet visited (walk.answer n) ∧
      (walk.answer n = none → (walk.afterCalls (n + 1)).stack = []) := by
  intro walk found
  -- what remains at first is the document order of the tree
  have hremaining : walk.remaining = root.preorder := by
    simp [walk, ParsedFrame.walk, Walk.remaining]
  have hanswer (n : Nat) : walk.answer n = found[n]? := by
    rw [Walk.answer_eq, hremaining, filterMap_fragmentAt?]
  refine ⟨hanswer, fun n hn k hk => ?_, fun n visited => Walk.turns_end_iff,
    fun n => (walk.afterCalls n).ask_turns⟩
  rw [hanswer, List.getElem?_eq_none_iff] at hn ⊢
  exact Nat.le_trans hn hk

/-- An item without a link is passed over, and the one inside of it is found. -/
theorem unlinked_item_is_passed :
    let inner : Element := ⟨"li", [], [.element ⟨"a", [("href", "/rw/elog/1/7")], []⟩]⟩
    let root : Element := ⟨"ul", [], [.element ⟨"li", [], [.text "7", .element inner]⟩]⟩
    let walk := (ParsedFrame.mk (some root) 0).walk
    walk.answer 0 = some ⟨inner, "", "/rw/elog/1/7"⟩ ∧ walk.answer 1 = none ∧
      walk.answer 2 = none := by
  intro inner root walk
  obtain ⟨hanswer, hend, -⟩ := walk_finds_items root 0
  have hone : walk.answer 1 = none := (hanswer 1).trans rfl
  exact ⟨(hanswer 0).trans rfl, hone, hend 1 hone 2 (by decide)⟩

end RobotWeb.Stream
