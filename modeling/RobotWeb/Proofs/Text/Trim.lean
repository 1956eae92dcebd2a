import Mathlib.Data.List.DropRight
import RobotWeb.Text.Blank

/-!
# Trimmed texts

Trimming looks at the ends of a text only: it stops at the first character that stays, from either
side, and trimming what is trimmed already changes nothing more.

* `trimBy_append_cons`   — a trim around a character that stays.
* `trimBy_dropWhile`, `trimBy_trimEndBy` — a trim after a trim of one end.
* `trimEndBy_eq_iff`     — what is left of a text whose end is trimmed.
* `trim_padded`          — blank characters around a text do not count.
* `not_isBlank_of_end`   — what a trim leaves neither begins nor ends with one.
* `trim_eq_empty`        — nothing is left of a text that is blank.
-/

namespace RobotWeb.Text

variable {p : Char → Bool}

theorem trimBy_eq (p : Char → Bool) (cs : List Char) :
    trimBy p cs = trimEndBy p (cs.dropWhile p) := rfl

/-- A character that stays keeps all that stands behind it. -/
theorem dropWhile_append_cons {c : Char} (hc : p c = false) (before after : List Char) :
    (before ++ c :: after).dropWhile p = before.dropWhile p ++ c :: after := by
  have hstay : (c :: after).dropWhile p = c :: after := by simp [hc]
  rw [List.dropWhile_append, hstay]
  split
  · rename_i h
    rw [List.isEmpty_iff.mp h, List.nil_append]
  · rfl

/-- A trim goes no further than a character that stays. -/
theorem trimBy_append_cons {c : Char} (hc : p c = false) (before after : List Char) :
    trimBy p (before ++ c :: after) = before.dropWhile p ++ c :: trimEndBy p after := by
  simp [trimBy, trimEndBy, dropWhile_append_cons hc]

/-- A last character that stays keeps all that stands before it. -/
theorem trimEndBy_concat {c : Char} (hc : p c = false) (cs : List Char) :
    trimEndBy p (cs ++ [c]) = cs ++ [c] := by
  simp [trimEndBy, hc]

theorem trimBy_dropWhile (p : Char → Bool) (cs : List Char) :
    trimBy p (cs.dropWhile p) = trimBy p cs := by
  rw [trimBy, List.dropWhile_idempotent, trimBy]

theorem trimEndBy_cons (p : Char → Bool) (c : Char) (cs : List Char) :
    trimEndBy p (c :: cs) =
      if trimEndBy p cs = [] then if p c then [] else [c] else c :: trimEndBy p cs := by
  simp only [trimEndBy, List.reverse_cons, List.dropWhile_append, List.reverse_eq_nil_iff,
    List.isEmpty_iff]
  split
  · rw [List.dropWhile_cons]
    split <;> rfl
  · simp

/-- The ends may be trimmed in either order. -/
theorem dropWhile_trimEndBy (p : Char → Bool) (cs : List Char) :
    (trimEndBy p cs).dropWhile p = trimEndBy p (cs.dropWhile p) := by
  induction cs with
  | nil => rfl
  | cons c cs ih =>
    by_cases hc : p c = true
    · rw [List.dropWhile_cons_of_pos hc, trimEndBy_cons, ← ih]
      split
      · rename_i h
        simp [h]
      · rw [List.dropWhile_cons_of_pos hc]
    · rw [List.dropWhile_cons_of_neg hc, trimEndBy_cons]
      split <;> simp [hc]

/-- Trimming the end first changes nothing. -/
theorem trimBy_trimEndBy (p : Char → Bool) (cs : List Char) :
    trimBy p (trimEndBy p cs) = trimBy p cs := by
  have htwice : trimEndBy p (trimEndBy p (cs.dropWhile p)) = trimEndBy p (cs.dropWhile p) :=
    List.rdropWhile_idempotent p _
  rw [trimBy_eq, dropWhile_trimEndBy, htwice, trimBy_eq]

-- ---------------------------------------------------------------------------
-- What is trimmed off
-- ---------------------------------------------------------------------------

/-- What satisfies `p` at the end does not count. -/
theorem trimEndBy_append {tail : List Char} (h : ∀ c ∈ tail, p c = true) (cs : List Char) :
    trimEndBy p (cs ++ tail) = trimEndBy p cs := by
  rw [trimEndBy, List.reverse_append, List.dropWhile_append_of_pos fun c hc =>
    h c (List.mem_reverse.mp hc), trimEndBy]

/-- What is left ends in a character that stays, and only others follow it. -/
theorem trimEndBy_eq_iff {cs stem : List Char} :
    trimEndBy p cs = stem ↔
      ∃ tail, cs = stem ++ tail ∧ (∀ c ∈ tail, p c = true) ∧
        ∀ c, stem.getLast? = some c → p c = false := by
  constructor
  · rintro rfl
    refine ⟨cs.rtakeWhile p, List.rdropWhile_append_rtakeWhile.symm,
      fun c hc => List.mem_rtakeWhile_imp hc, fun c hc => ?_⟩
    -- what has a last character is not empty
    have hne : cs.rdropWhile p ≠ [] := by
      intro hnil
      rw [show trimEndBy p cs = [] from hnil] at hc
      cases hc
    have hlast := List.rdropWhile_last_not p cs hne
    rw [show trimEndBy p cs = cs.rdropWhile p from rfl, List.getLast?_eq_some_getLast hne] at hc
    obtain rfl := Option.some.inj hc
    simpa using hlast
  · rintro ⟨tail, rfl, htail, hstem⟩
    rw [trimEndBy_append htail]
    rcases List.eq_nil_or_concat' stem with rfl | ⟨init, c, rfl⟩
    · rfl
    · exact trimEndBy_concat (hstem c List.getLast?_concat) init

/-- What satisfies `p` at either end does not count. -/
theorem trimBy_padded {before after : List Char} (hbefore : ∀ c ∈ before, p c = true)
    (hafter : ∀ c ∈ after, p c = true) (cs : List Char) :
    trimBy p (before ++ cs ++ after) = trimBy p cs := by
  rw [List.append_assoc, ← trimBy_dropWhile, List.dropWhile_append_of_pos hbefore,
    trimBy_dropWhile, ← trimBy_trimEndBy, trimEndBy_append hafter, trimBy_trimEndBy]

/-- What has nothing to trim is not changed. -/
theorem trimBy_eq_self {cs : List Char} (h : ∀ c ∈ cs, p c = false) : trimBy p cs = cs := by
  have hstay (ds : List Char) (hds : ∀ c ∈ ds, p c = false) : ds.dropWhile p = ds := by
    cases ds with
    | nil => rfl
    | cons d ds => rw [List.dropWhile_cons_of_neg (by simp [hds d List.mem_cons_self])]
  rw [trimBy, hstay cs h, hstay cs.reverse fun c hc => h c (List.mem_reverse.mp hc),
    List.reverse_reverse]

/-- Blank characters around a trimmed text are trimmed off. -/
theorem trim_padded {before after : List Char} {text : String} (htext : trim text = text)
    (hbefore : ∀ c ∈ before, isBlank c = true) (hafter : ∀ c ∈ after, isBlank c = true) :
    trim (String.ofList before ++ text ++ String.ofList after) = text := by
  have hjoin : (String.ofList before ++ text ++ String.ofList after).toList =
      before ++ text.toList ++ after := by
    simp only [String.toList_append, String.toList_ofList]
  rw [trim, hjoin, trimBy_padded hbefore hafter]
  exact htext

/-- Trimming once is enough. -/
theorem trimBy_trimBy (p : Char → Bool) (cs : List Char) :
    trimBy p (trimBy p cs) = trimBy p cs := by
  rw [trimBy_eq p cs, trimBy_trimEndBy, trimBy_dropWhile, trimBy_eq]

/-- A trimmed text is not changed any more. -/
theorem trim_trim (s : String) : trim (trim s) = trim s := by
  rw [trim, trim, String.toList_ofList, trimBy_trimBy]

/-- Nothing is left exactly if everything is trimmed off. -/
theorem trimBy_eq_nil {cs : List Char} : trimBy p cs = [] ↔ ∀ c ∈ cs, p c = true := by
  constructor
  · intro hnil c hc
    by_contra hp
    obtain ⟨before, after, rfl⟩ := List.append_of_mem hc
    rw [trimBy_append_cons (by simpa using hp)] at hnil
    simp at hnil
  · intro h
    rw [trimBy_eq, List.dropWhile_eq_nil_iff.mpr h]
    rfl

/-- A text is blank if a trim leaves nothing of it. -/
theorem trim_eq_empty {s : String} : trim s = "" ↔ isBlankText s = true := by
  have hblank : isBlankText s = true ↔ ∀ c ∈ s.toList, isBlank c = true := List.all_eq_true
  rw [hblank, ← trimBy_eq_nil, trim, ← String.toList_inj, String.toList_ofList, String.toList_empty]

/-- The first and the last character that a trim leaves are none that it takes off. -/
theorem not_of_end_trimBy {cs : List Char} {c : Char}
    (h : (trimBy p cs).head? = some c ∨ (trimBy p cs).getLast? = some c) : p c = false := by
  rcases h with hfirst | hlast
  · have hstay : (trimBy p cs).dropWhile p = trimBy p cs := by
      rw [trimBy_eq, dropWhile_trimEndBy, List.dropWhile_idempotent]
    have hnot := List.head?_dropWhile_not p (trimBy p cs)
    rw [hstay, hfirst] at hnot
    exact hnot
  · obtain ⟨-, -, -, hstem⟩ := trimEndBy_eq_iff.mp (trimBy_eq p cs).symm
    exact hstem c hlast

/-- A trimmed text neither begins nor ends with a blank. -/
theorem not_isBlank_of_end {s : String} {c : Char}
    (h : (trim s).toList.head? = some c ∨ (trim s).toList.getLast? = some c) :
    isBlank c = false := by
  rw [trim, String.toList_ofList] at h
  exact not_of_end_trimBy h

/-- A trim leaves nothing in that was not there. -/
theorem mem_of_mem_trimBy {cs : List Char} {c : Char} (h : c ∈ trimBy p cs) : c ∈ cs := by
  rw [trimBy, List.mem_reverse] at h
  exact List.dropWhile_subset p (List.mem_reverse.mp (List.dropWhile_subset p h))

end RobotWeb.Text
