import RobotWeb.Text.Split

/-!
# Cuts of joined texts

A text that was joined with a separator is cut again at that separator, if the separator does not
occur on the side that the cut looks at.

* `splitFirst?_join`, `splitLast?_join`      — cuts at the first and at the last separator.
* `splitOn_join`                             — cuts at every separator.
* `splitBy_concat`, `splitBy_append_last`    — cuts of texts that end in a separator, or in none.
* `splitAround_join`, `splitAround_intercalate` — cuts at a separator of several characters.
* `FirstCut`, `after?_eq_some_iff`           — the cut behind the first marker.
-/

namespace RobotWeb.Text

/-- What was joined is cut again, if the separator does not occur before. -/
theorem splitFirst?_join {sep : Char} {before : List Char} (h : sep ∉ before)
    (after : List Char) : splitFirst? sep (before ++ sep :: after) = some (before, after) := by
  induction before with
  | nil => simp [splitFirst?]
  | cons c before ih =>
    rw [List.mem_cons, not_or] at h
    simp [splitFirst?, Ne.symm h.1, ih h.2]

/-- What was joined is cut again from its end, if the separator does not occur behind. -/
theorem splitLast?_join {sep : Char} {after : List Char} (h : sep ∉ after)
    (before : List Char) : splitLast? sep (before ++ sep :: after) = some (before, after) := by
  induction before with
  | nil => simp [splitLast?, splitLast?_eq_none.mpr h]
  | cons c before ih => simp [splitLast?, ih]

/-- Without a separator there is one piece. -/
theorem splitOn_of_not_mem {sep : Char} {piece : List Char} (h : sep ∉ piece) :
    splitOn sep piece = [piece] := by
  induction piece with
  | nil => rfl
  | cons c piece ih =>
    rw [List.mem_cons, not_or] at h
    have hrest : splitBy (· == sep) piece = [piece] := ih h.2
    simp [splitOn, splitBy, Ne.symm h.1, hrest]

/-- The first piece ends at the first separator. -/
theorem splitOn_join {sep : Char} {piece : List Char} (h : sep ∉ piece) (rest : List Char) :
    splitOn sep (piece ++ sep :: rest) = piece :: splitOn sep rest := by
  induction piece with
  | nil => simp [splitOn, splitBy]
  | cons c piece ih =>
    rw [List.mem_cons, not_or] at h
    have hrest : splitBy (· == sep) (piece ++ sep :: rest) = piece :: splitOn sep rest := ih h.2
    simp [splitOn, splitBy, Ne.symm h.1, hrest]

/-- A character that does not separate belongs to the first piece. -/
theorem splitBy_cons_of_neg {p : Char → Bool} {c : Char} (hc : p c = false) {cs piece : List Char}
    {pieces : List (List Char)} (h : splitBy p cs = piece :: pieces) :
    splitBy p (c :: cs) = (c :: piece) :: pieces := by
  rw [splitBy, if_neg (by simp [hc]), h]

/-- After a separator at the end there is one more piece, which is empty. -/
theorem splitBy_concat {p : Char → Bool} {sep : Char} (hsep : p sep = true) (cs : List Char) :
    splitBy p (cs ++ [sep]) = splitBy p cs ++ [[]] := by
  induction cs with
  | nil => simp [splitBy, hsep]
  | cons c cs ih =>
    cases hc : p c with
    | true => simp [splitBy, hc, ih]
    | false =>
      obtain ⟨piece, pieces, hcs⟩ := List.exists_cons_of_ne_nil (splitBy_ne_nil p cs)
      rw [hcs] at ih
      rw [List.cons_append, splitBy_cons_of_neg hc ih, splitBy_cons_of_neg hc hcs]
      rfl

/-- A text without separators belongs to the last piece. -/
theorem splitBy_append_last {p : Char → Bool} {last : List Char}
    (hlast : ∀ c ∈ last, p c = false) (cs : List Char) :
    ∃ pieces part, splitBy p (cs ++ last) = pieces ++ [part ++ last] := by
  induction cs with
  | nil =>
    refine ⟨[], [], ?_⟩
    induction last with
    | nil => rfl
    | cons c last ih =>
      obtain ⟨hc, hlast⟩ := List.forall_mem_cons.mp hlast
      exact splitBy_cons_of_neg hc (ih hlast)
  | cons c cs ih =>
    obtain ⟨pieces, part, hsplit⟩ := ih
    cases hc : p c with
    | true => exact ⟨[] :: pieces, part, by simp [splitBy, hc, hsplit]⟩
    | false =>
      -- the character belongs to the first piece, which may be the last one as well
      cases pieces with
      | nil => exact ⟨[], c :: part, splitBy_cons_of_neg hc hsplit⟩
      | cons piece pieces => exact ⟨(c :: piece) :: pieces, part, splitBy_cons_of_neg hc hsplit⟩

-- ---------------------------------------------------------------------------
-- The first marker
-- ---------------------------------------------------------------------------

/-- The marker stands in the text between these two parts, and at no earlier place. -/
structure FirstCut (marker text before after : List Char) : Prop where
  join : text = before ++ marker ++ after
  first : ∀ left right, text = left ++ marker ++ right → before.length ≤ left.length

/-- The parts around the first marker are determined by the text. -/
theorem FirstCut.unique {marker text before before' after after' : List Char}
    (h : FirstCut marker text before after) (h' : FirstCut marker text before' after') :
    before = before' ∧ after = after' := by
  have hlength : before.length = before'.length :=
    Nat.le_antisymm (h.first _ _ h'.join) (h'.first _ _ h.join)
  have hjoin : before ++ (marker ++ after) = before' ++ (marker ++ after') := by
    rw [← List.append_assoc, ← List.append_assoc, ← h.join, h'.join]
  obtain ⟨rfl, hrest⟩ := List.append_inj hjoin hlength
  exact ⟨rfl, List.append_cancel_left hrest⟩

/-- A text without a marker at its start is cut where the text behind its first character is. -/
theorem FirstCut.cons {marker text before after : List Char} {c : Char}
    (h : FirstCut marker text before after) (hstart : dropMarker? marker (c :: text) = none) :
    FirstCut marker (c :: text) (c :: before) after := by
  refine ⟨by simp [h.join], fun left right hjoin => ?_⟩
  cases left with
  | nil =>
    have hmarker : dropMarker? marker (c :: text) = some right := dropMarker?_eq_some.mpr hjoin
    rw [hmarker] at hstart
    cases hstart
  | cons d left =>
    obtain ⟨-, htext⟩ := List.cons.inj hjoin
    exact Nat.succ_le_succ (h.first left right htext)

/-- What the cut gives stands behind the first marker. -/
theorem firstCut_of_after? {marker text after : List Char} (h : after? marker text = some after) :
    ∃ before, FirstCut marker text before after := by
  induction text with
  | nil =>
    rw [after?, dropMarker?_eq_some] at h
    exact ⟨[], h, fun _ _ _ => Nat.zero_le _⟩
  | cons c text ih =>
    rw [after?] at h
    split at h
    · rename_i rest hrest
      obtain rfl := Option.some.inj h
      exact ⟨[], dropMarker?_eq_some.mp hrest, fun _ _ _ => Nat.zero_le _⟩
    · rename_i hstart
      obtain ⟨before, hcut⟩ := ih h
      exact ⟨c :: before, hcut.cons hstart⟩

/-- A text with a marker is cut. -/
theorem exists_after? (marker before after : List Char) :
    ∃ rest, after? marker (before ++ marker ++ after) = some rest := by
  induction before with
  | nil =>
    have hstart : dropMarker? marker (marker ++ after) = some after := dropMarker?_eq_some.mpr rfl
    rw [List.nil_append]
    cases hjoined : marker ++ after with
    | nil =>
      rw [hjoined] at hstart
      exact ⟨after, hstart⟩
    | cons c cs =>
      rw [hjoined] at hstart
      exact ⟨after, by rw [after?, hstart]⟩
  | cons c before ih =>
    rw [List.cons_append, List.cons_append, after?]
    split
    · exact ⟨_, rfl⟩
    · exact ih

/-- The text is cut behind the first marker. -/
theorem after?_eq_some_iff {marker text after : List Char} :
    after? marker text = some after ↔ ∃ before, FirstCut marker text before after := by
  refine ⟨firstCut_of_after?, fun ⟨before, hcut⟩ => ?_⟩
  obtain ⟨rest, hrest⟩ := exists_after? marker before after
  rw [← hcut.join] at hrest
  obtain ⟨before', hcut'⟩ := firstCut_of_after? hrest
  rw [hrest, (hcut.unique hcut').2]

/-- The pieces between the occurrences of `marker` from left to right; `skip` characters at the
start belong to the last one that was found. -/
def splitAroundFrom (marker : List Char) (skip : Nat) : List Char → List (List Char)
  | [] => [[]]
  | c :: cs =>
    match skip with
    | skip + 1 => splitAroundFrom marker skip cs
    | 0 =>
      if marker.isPrefixOf (c :: cs) then [] :: splitAroundFrom marker (marker.length - 1) cs
      else
        match splitAroundFrom marker 0 cs with
        | [] => [[c]]
        | piece :: pieces => (c :: piece) :: pieces

/-- The pieces between the occurrences of `marker`. -/
def splitAround (marker cs : List Char) : List (List Char) :=
  splitAroundFrom marker 0 cs

/-- The characters of a marker that was found are skipped. -/
theorem splitAroundFrom_skip (marker done rest : List Char) :
    splitAroundFrom marker done.length (done ++ rest) = splitAround marker rest := by
  induction done with
  | nil => rfl
  | cons c done ih => exact ih

/-- A character that does not begin the marker belongs to the first piece. -/
theorem splitAround_cons_of_ne {m c : Char} (h : c ≠ m) {ms cs piece : List Char}
    {pieces : List (List Char)} (hcs : splitAround (m :: ms) cs = piece :: pieces) :
    splitAround (m :: ms) (c :: cs) = (c :: piece) :: pieces := by
  have hprefix : (m :: ms).isPrefixOf (c :: cs) = false := by simp [List.isPrefixOf, Ne.symm h]
  rw [splitAround] at hcs
  simp [splitAround, splitAroundFrom, hprefix, hcs]

/-- A text without the first character of the marker is one piece. -/
theorem splitAround_of_not_mem {m : Char} {ms piece : List Char} (h : m ∉ piece) :
    splitAround (m :: ms) piece = [piece] := by
  induction piece with
  | nil => rfl
  | cons c piece ih =>
    rw [List.mem_cons, not_or] at h
    exact splitAround_cons_of_ne (Ne.symm h.1) (ih h.2)

/-- The first piece ends where the marker is found first. -/
theorem splitAround_join {m : Char} {ms piece : List Char} (h : m ∉ piece) (rest : List Char) :
    splitAround (m :: ms) (piece ++ (m :: ms) ++ rest) = piece :: splitAround (m :: ms) rest := by
  induction piece with
  | nil =>
    have hstarts : (m :: ms).isPrefixOf (m :: ms ++ rest) = true :=
      List.isPrefixOf_iff_prefix.mpr (List.prefix_append _ _)
    rw [List.nil_append, splitAround, List.cons_append, splitAroundFrom]
    rw [List.cons_append] at hstarts
    simp [hstarts, splitAroundFrom_skip]
  | cons c piece ih =>
    rw [List.mem_cons, not_or] at h
    exact splitAround_cons_of_ne (Ne.symm h.1) (ih h.2)

/-- Pieces that are joined with a marker are cut at it again. -/
theorem splitAround_intercalate {m : Char} {ms piece : List Char} {pieces : List (List Char)}
    (h : ∀ p ∈ piece :: pieces, m ∉ p) :
    splitAround (m :: ms) ((m :: ms).intercalate (piece :: pieces)) = piece :: pieces := by
  induction pieces generalizing piece with
  | nil => simpa using splitAround_of_not_mem (h piece List.mem_cons_self)
  | cons next pieces ih =>
    have hrest := ih fun p hp => h p (List.mem_cons_of_mem _ hp)
    rw [List.intercalate_cons_cons, splitAround_join (h piece List.mem_cons_self), hrest]

/-- Two texts that are joined with a separator are equal only part by part, if the separator does
not occur in their first parts. -/
theorem join_injective {sep : Char} {before before' after after' : List Char}
    (h : sep ∉ before) (h' : sep ∉ before')
    (heq : before ++ sep :: after = before' ++ sep :: after') :
    before = before' ∧ after = after' := by
  have hcut := congrArg (splitFirst? sep) heq
  rw [splitFirst?_join h, splitFirst?_join h'] at hcut
  simpa using hcut

end RobotWeb.Text
