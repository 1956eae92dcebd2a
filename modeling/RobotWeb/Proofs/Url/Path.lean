import RobotWeb.Proofs.Text.Split
import RobotWeb.Proofs.Text.Trim
import RobotWeb.Url.Parser

/-!
# Paths that are more than a root

A path that ends in a name and a slash has a segment for that name, whatever comes before it. A path
that begins with a slash and a name leads somewhere from every base that has segments.

* `isHere_of_colon`, `isParent_of_colon` — a piece with a colon is a name.
* `follow_ne_root`                       — a name with a slash after it is not the root.
* `join_rooted`                          — which bases such a path is resolved against.
-/

namespace RobotWeb

namespace Url

variable {cs piece : List Char}

theorem ne_ofList_of_mem {c : Char} {name : String} (hc : c.toLower = c) (h : c ∈ cs)
    (hname : c ∉ name.toList) :
    String.ofList (cs.map Char.toLower) ≠ name := by
  rintro rfl
  exact hname (by simpa using ⟨c, h, hc⟩)

/-- A piece with a colon is a name. -/
theorem isHere_of_colon (h : ':' ∈ piece) : isHere piece = false := by
  have hne {name : String} (hname : ':' ∉ name.toList) := ne_ofList_of_mem (by decide) h hname
  simp [isHere, hne]

/-- A piece with a colon is no step to the parent. -/
theorem isParent_of_colon (h : ':' ∈ piece) : isParent piece = false := by
  have hne {name : String} (hname : ':' ∉ name.toList) := ne_ofList_of_mem (by decide) h hname
  simp [isParent, hne]

namespace Trail

/-- The last two pieces of a path are added to what the others have led to. -/
theorem addAll_append_two (kind : SchemeKind) (t : Trail) (pieces : List (List Char))
    (before last : List Char) :
    ∃ t' : Trail, t.addAll kind (pieces ++ [before, last]) = t'.addAll kind [before, last] := by
  induction pieces generalizing t with
  | nil => exact ⟨t, rfl⟩
  | cons piece pieces ih =>
    have hmore : (pieces ++ [before, last]).isEmpty = false := by cases pieces <;> rfl
    obtain ⟨t', h⟩ := ih (t.add kind piece false)
    exact ⟨t', by rw [List.cons_append, addAll, hmore, h]⟩

theorem addText_ne_nil (t : Trail) (piece : List Char) : t.addText .web piece ≠ [] := by
  unfold addText
  rw [if_neg (by simp)]
  cases t <;> simp [extend]

/-- A name that a slash ends is a segment of its own, and another one follows it. -/
theorem two_le_addAll (t : Trail) (h : ':' ∈ piece) : 2 ≤ (t.addAll .web [piece, []]).length := by
  have hpiece : t.add .web piece false = "" :: (t.prepare .web).addText .web piece := by
    have hne : piece.isEmpty = false := by cases piece <;> simp at h ⊢
    simp [add, isHere_of_colon h, isParent_of_colon h, hne]
  have hlast (t' : Trail) :
      add .web ("" :: t') [] true = ("" ++ escaped isReservedInPath []) :: t' := rfl
  have hpos := List.length_pos_iff.mpr (addText_ne_nil (t.prepare .web) piece)
  simp only [addAll, List.isEmpty_cons, List.isEmpty_nil, hpiece, hlast, List.length_cons]
  omega

end Trail

/-- A path that ends in a name with a colon and a slash after it is not the root. -/
theorem follow_ne_root (cs : List Char) (hcolon : ':' ∈ piece)
    (hslash : ∀ c ∈ piece, isSlash c = false) :
    Trail.root.follow .web (cs ++ piece ++ ['/']) ≠ [""] := by
  intro h
  have hseparator :
      (fun c : Char => c == '/' || (c == '\\' && SchemeKind.web.isSpecial)) = isSlash := by
    funext c
    simp [isSlash, SchemeKind.isSpecial]
  obtain ⟨pieces, part, hsplit⟩ := Text.splitBy_append_last hslash cs
  obtain ⟨t, ht⟩ := Trail.addAll_append_two .web .root pieces (part ++ piece) []
  -- a piece with a colon is neither a dot nor two, so that it is put on the trail and stays there
  have hlong : 2 ≤ (t.addAll .web [part ++ piece, []]).length :=
    t.two_le_addAll (List.mem_append_right _ hcolon)
  unfold Trail.follow at h
  dsimp only at h
  rw [hseparator, Text.splitBy_concat rfl, hsplit, List.append_assoc, List.singleton_append,
    ht] at h
  have hlength := congrArg List.length h
  rw [List.length_reverse, List.length_singleton] at hlength
  omega

/-- A path after an authority is followed from the root. -/
theorem pathAfterAuthority_of_slash {slash : Char} (h : isSlash slash = true) (cs : List Char) :
    pathAfterAuthority .web (slash :: cs) = Trail.root.follow .web cs := by
  rw [isSlash, Bool.or_eq_true, beq_iff_eq, beq_iff_eq] at h
  rcases h with rfl | rfl <;> rfl

-- ---------------------------------------------------------------------------
-- Paths of references
-- ---------------------------------------------------------------------------

section Rooted

variable {base : Url} {text : String}

/-- A reference that begins with one slash and a letter keeps both, whatever follows. -/
theorem significant_rooted (htext : text.toList = '/' :: 's' :: cs) :
    ∃ rest, significant text = '/' :: 's' :: rest := by
  rw [significant, htext, ← List.singleton_append, Text.trimBy_append_cons (by decide)]
  exact ⟨_, rfl⟩

/-- Such a reference is resolved against every base with segments, and against no other one. -/
theorem join_rooted (htext : text.toList = '/' :: 's' :: cs) :
    (∃ url, base.join text = .ok url) ↔ ∃ segments, base.path = .segments segments := by
  obtain ⟨rest, hsignificant⟩ := significant_rooted htext
  obtain ⟨body, hbody⟩ : ∃ body, (Pieces.cut ('/' :: 's' :: rest)).body = '/' :: 's' :: body :=
    ⟨_, rfl⟩
  have hscheme : scheme? ('/' :: 's' :: rest) = none := rfl
  unfold join read
  rw [hsignificant]
  simp only [hscheme]
  -- a reference that begins with a slash takes the place of the path of the base
  cases base.path with
  | flat text => simp
  | segments list =>
    refine iff_of_true ?_ ⟨list, rfl⟩
    dsimp only
    split
    · unfold Pieces.file
      rw [hbody]
      exact ⟨_, rfl⟩
    · unfold Pieces.relativeTo
      rw [hbody]
      exact ⟨_, rfl⟩

end Rooted

end Url

end RobotWeb
