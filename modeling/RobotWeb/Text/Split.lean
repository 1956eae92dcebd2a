/-!
# Splitting texts at separators

Cuts of a character list at the first or last occurrence of a separator character, at every
occurrence, and after the first occurrence of a marker text. Every cut comes with the equation
that puts the pieces together again.
-/

namespace RobotWeb.Text

/-- The characters before and after the first `sep`. -/
def splitFirst? (sep : Char) : List Char → Option (List Char × List Char)
  | [] => none
  | c :: cs =>
    if c = sep then some ([], cs)
    else (splitFirst? sep cs).map fun (before, after) => (c :: before, after)

/-- The characters before and after the last `sep`. -/
def splitLast? (sep : Char) : List Char → Option (List Char × List Char)
  | [] => none
  | c :: cs =>
    match splitLast? sep cs with
    | some (before, after) => some (c :: before, after)
    | none => if c = sep then some ([], cs) else none

/-- The pieces between the characters satisfying `p`; there is always one more piece than
separators. -/
def splitBy (p : Char → Bool) : List Char → List (List Char)
  | [] => [[]]
  | c :: cs =>
    if p c then [] :: splitBy p cs
    else
      match splitBy p cs with
      | [] => [[c]]
      | piece :: pieces => (c :: piece) :: pieces

/-- The pieces between the occurrences of `sep`. -/
def splitOn (sep : Char) (cs : List Char) : List (List Char) :=
  splitBy (· == sep) cs

/-- What follows `marker` at the start of the text. -/
def dropMarker? : (marker : List Char) → List Char → Option (List Char)
  | [], cs => some cs
  | _ :: _, [] => none
  | m :: marker, c :: cs => if m = c then dropMarker? marker cs else none

/-- What follows the first occurrence of `marker`. -/
def after? (marker : List Char) : List Char → Option (List Char)
  | [] => dropMarker? marker []
  | c :: cs =>
    match dropMarker? marker (c :: cs) with
    | some rest => some rest
    | none => after? marker cs

-- ---------------------------------------------------------------------------
-- Putting the pieces together again
-- ---------------------------------------------------------------------------

/-- The first cut is at a separator that none comes before. -/
theorem splitFirst?_eq_some {sep : Char} {cs before after : List Char}
    (h : splitFirst? sep cs = some (before, after)) :
    cs = before ++ sep :: after ∧ sep ∉ before := by
  induction cs generalizing before with
  | nil => simp [splitFirst?] at h
  | cons c cs ih =>
    simp only [splitFirst?] at h
    split at h
    · rename_i hc
      simp only [Option.some.injEq, Prod.mk.injEq] at h
      obtain ⟨rfl, rfl⟩ := h
      exact ⟨by simp [hc], by simp⟩
    · rename_i hc
      simp only [Option.map_eq_some_iff, Prod.mk.injEq, Prod.exists] at h
      obtain ⟨b, a, hs, rfl, rfl⟩ := h
      obtain ⟨h₁, h₂⟩ := ih hs
      exact ⟨by simp [← h₁], by simp [h₂, Ne.symm hc]⟩

theorem splitFirst?_eq_none {sep : Char} {cs : List Char} :
    splitFirst? sep cs = none ↔ sep ∉ cs := by
  induction cs with
  | nil => simp [splitFirst?]
  | cons c cs ih =>
    simp only [splitFirst?]
    split
    · rename_i hc
      simp [hc]
    · rename_i hc
      simp [ih, Ne.symm hc]

theorem splitLast?_eq_none {sep : Char} {cs : List Char} :
    splitLast? sep cs = none ↔ sep ∉ cs := by
  induction cs with
  | nil => simp [splitLast?]
  | cons c cs ih =>
    simp only [splitLast?]
    split
    · rename_i b a hs
      have : ¬ splitLast? sep cs = none := by simp [hs]
      simp only [reduceCtorEq, List.mem_cons, not_or, false_iff, not_and]
      exact fun _ hn => this (ih.mpr hn)
    · rename_i hn
      have := ih.mp hn
      split
      · rename_i hc
        simp [hc]
      · rename_i hc
        simp [this, Ne.symm hc]

/-- The last cut is at a separator that none comes behind. -/
theorem splitLast?_eq_some {sep : Char} {cs before after : List Char}
    (h : splitLast? sep cs = some (before, after)) :
    cs = before ++ sep :: after ∧ sep ∉ after := by
  induction cs generalizing before with
  | nil => simp [splitLast?] at h
  | cons c cs ih =>
    simp only [splitLast?] at h
    split at h
    · rename_i b a hs
      simp only [Option.some.injEq, Prod.mk.injEq] at h
      obtain ⟨rfl, rfl⟩ := h
      obtain ⟨h₁, h₂⟩ := ih hs
      exact ⟨by simp [← h₁], h₂⟩
    · rename_i hn
      split at h
      · rename_i hc
        simp only [Option.some.injEq, Prod.mk.injEq] at h
        obtain ⟨rfl, rfl⟩ := h
        exact ⟨by simp [hc], splitLast?_eq_none.mp hn⟩
      · simp at h

theorem splitBy_ne_nil (p : Char → Bool) (cs : List Char) : splitBy p cs ≠ [] := by
  cases cs with
  | nil => simp [splitBy]
  | cons c cs =>
    simp only [splitBy]
    split
    · simp
    · split <;> simp

/-- A marker is dropped where the text begins with it. -/
theorem dropMarker?_eq_some {marker cs rest : List Char} :
    dropMarker? marker cs = some rest ↔ cs = marker ++ rest := by
  induction marker generalizing cs with
  | nil => simp [dropMarker?, eq_comm]
  | cons m marker ih =>
    cases cs with
    | nil => simp [dropMarker?]
    | cons c cs =>
      simp only [dropMarker?, List.cons_append, List.cons.injEq]
      split
      · rename_i hm
        simp [ih, hm]
      · rename_i hm
        simp [Ne.symm hm]

end RobotWeb.Text
