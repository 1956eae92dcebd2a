import RobotWeb.Markup.Document

/-!
# Documents read within a number of pieces

Reading goes on until the source is used up. Where a bound for the number of pieces is known, the
same can be computed by recursion on that bound.

* `Draft.readAll_of_readWithin` — a bound that is not exceeded does not matter.
* `exists_parse`                — what is checked of a document that is read so.
-/

namespace RobotWeb.Markup

namespace Draft

/-- The draft after the rest of the document, if no more than `bound` pieces have to be read. -/
def readWithin (d : Draft) (f : Feed) : (bound : Nat) → Option (Except Malformed Draft)
  | 0 => none
  | bound + 1 =>
    match d.piece f.source with
    | .error e => some (if f.source.chars.isEmpty then .ok d else .error e)
    | .ok (p, rest) =>
      match (f.advance rest.val).push p.expansion with
      | .error e => some (.error e)
      | .ok left => p.draft.readWithin left bound

/-- A bound that is not exceeded does not matter: by induction on the bound, one piece at a time. -/
theorem readAll_of_readWithin {d : Draft} {f : Feed} {bound : Nat}
    {outcome : Except Malformed Draft} (h : d.readWithin f bound = some outcome) :
    d.readAll f = outcome := by
  induction bound generalizing d f with
  | zero => cases h
  | succ bound ih =>
    rw [readAll]
    rw [readWithin] at h
    cases hpiece : d.piece f.source with
    | error e =>
      simp only [hpiece] at h ⊢
      exact Option.some.inj h
    | ok read =>
      obtain ⟨p, rest⟩ := read
      simp only [hpiece] at h ⊢
      split
      · rename_i e he
        simp only [he] at h
        exact Option.some.inj h
      · rename_i left hleft
        simp only [hleft] at h
        exact ih h

end Draft

/-- A document without a declaration is read from its first character. -/
theorem parse_of_undeclared {content : String} (hmark : content.toList.head? ≠ some '\uFEFF')
    (hdeclaration : Text.dropMarker? "<?xml".toList content.toList = none) :
    parse content =
      Draft.readAll { dialect := { version := .v10 } } ⟨⟨.content, content.toList⟩, 0, 0⟩ >>=
        Draft.root := by
  -- the first characters are neither a byte order mark nor the beginning of a declaration
  have hbehind : (⟨.content, content.toList⟩ : Source).behind? "<?xml".toList
      (.instruction false) = none := by
    unfold Source.behind?
    split
    · rfl
    · rename_i rest hrest
      rw [show Text.dropMarker? "<?xml".toList content.toList = some rest from hrest]
        at hdeclaration
      cases hdeclaration
  unfold parse
  split
  rename_i marked cs hcut
  split at hcut
  · rename_i rest hcontent
    rw [hcontent] at hmark
    exact absurd rfl hmark
  · obtain ⟨rfl, rfl⟩ := Prod.mk.inj hcut
    simp only [readDeclaration, hbehind]
    rfl

/-- What is checked of a document that is read within the bound holds of its root. -/
theorem exists_parse {content : String} {check : Element → Bool} (bound : Nat)
    (hmark : content.toList.head? ≠ some '\uFEFF')
    (hdeclaration : Text.dropMarker? "<?xml".toList content.toList = none)
    (h : ((Draft.readWithin { dialect := { version := .v10 } } ⟨⟨.content, content.toList⟩, 0, 0⟩
      bound).bind fun outcome => (outcome >>= Draft.root).toOption).any check = true) :
    ∃ root, parse content = .ok root ∧ check root = true := by
  obtain ⟨root, hfound, hcheck⟩ := (Option.any_eq_true _ _).mp h
  obtain ⟨outcome, hread, hroot⟩ := Option.bind_eq_some_iff.mp hfound
  refine ⟨root, ?_, hcheck⟩
  rw [parse_of_undeclared hmark hdeclaration, Draft.readAll_of_readWithin hread]
  cases hdraft : outcome >>= Draft.root with
  | error e =>
    rw [hdraft] at hroot
    cases hroot
  | ok found =>
    rw [hdraft] at hroot
    exact congrArg Except.ok (Option.some.inj hroot)

end RobotWeb.Markup
