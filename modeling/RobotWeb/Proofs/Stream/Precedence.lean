import RobotWeb.Proofs.Stream.Addressing

/-!
# What the order of registration decides

The order in which resources are registered decides nothing but which of several resources with one
URI comes first. All that a router makes of a frame is told by the first resource of each URI that a
fragment of the frame is addressed to.

* `Router.deliverFrame_congr`    — routers that find the same resources deliver the same.
* `Router.first_iff_mem`         — without a shared URI, there is no order.
* `Router.resolve?_of_behind`    — a resource behind one with its URI is never found.
* `Router.resolve?_of_ne`        — a resource is not found by another URI.
* `Router.first_registered_decides` — permutations, repeated and foreign resources.
-/

namespace RobotWeb.Stream.Router

variable {η : Type}

-- ---------------------------------------------------------------------------
-- Routers that find the same resources
-- ---------------------------------------------------------------------------

/-- A fragment is decoded by the resource that its URI is resolved to, and by nothing else of the
router. -/
theorem decode_congr {r s : Router} {f : Fragment}
    (h : r.resolve? f.resourceUri = s.resolve? f.resourceUri) : r.decode f = s.decode f := by
  unfold decode
  rw [h]

/-- So routers that resolve alike decode alike. -/
theorem decodeAll_congr {r s : Router} {fragments : List Fragment}
    (h : ∀ f ∈ fragments, r.resolve? f.resourceUri = s.resolve? f.resourceUri) :
    r.decodeAll fragments = s.decodeAll fragments := by
  induction fragments with
  | nil => rfl
  | cons f rest ih =>
    have hfirst : r.decode f = s.decode f := decode_congr (h f List.mem_cons_self)
    have hrest := ih fun g hg => h g (List.mem_cons_of_mem f hg)
    unfold decodeAll
    rw [hfirst, hrest]

/-- Routers that find the same resources for the fragments of a frame deliver it alike. -/
theorem deliverFrame_congr {r s : Router} {frame : ParsedFrame}
    (h : ∀ f ∈ frame.fragments, r.resolve? f.resourceUri = s.resolve? f.resourceUri)
    (handle : Handler η) (state : η) :
    r.deliverFrame handle state frame = s.deliverFrame handle state frame := by
  unfold deliverFrame
  rw [decodeAll_congr h]

-- ---------------------------------------------------------------------------
-- Changes to the registered resources
-- ---------------------------------------------------------------------------

/-- If no two resources share a URI, the first one with a URI is the one that has it. -/
theorem first_iff_mem {resources : List Resource} (h : (resources.map Resource.uri).Nodup)
    {uri : String} {resource : Resource} :
    First resources uri resource ↔ resource ∈ resources ∧ resource.uri = uri := by
  constructor
  · rintro ⟨before, after, rfl, huri, -⟩
    exact ⟨by simp, huri⟩
  · rintro ⟨hmem, huri⟩
    obtain ⟨before, after, rfl⟩ := List.append_of_mem hmem
    refine ⟨before, after, rfl, huri, ?_⟩
    intro other hother heq
    rw [List.map_append, List.map_cons, List.nodup_append] at h
    obtain ⟨-, -, hdisjoint⟩ := h
    exact hdisjoint other.uri (List.mem_map_of_mem hother) resource.uri List.mem_cons_self
      (heq.trans huri.symm)

/-- Resources that are first for the same URIs are found alike. -/
theorem resolve?_of_first {xs ys : List Resource} {uri : String}
    (h : ∀ resource, First xs uri resource ↔ First ys uri resource) :
    (Router.mk xs).resolve? uri = (Router.mk ys).resolve? uri := by
  apply Option.ext
  intro resource
  rw [resolve?_eq_some, resolve?_eq_some]
  exact h resource

/-- The order of resources does not matter as long as no two have the same URI. -/
theorem resolve?_of_perm {xs ys : List Resource} (hperm : xs.Perm ys)
    (hnodup : (xs.map Resource.uri).Nodup) (uri : String) :
    (Router.mk xs).resolve? uri = (Router.mk ys).resolve? uri := by
  have hnodup' : (ys.map Resource.uri).Nodup := (hperm.map Resource.uri).nodup_iff.mp hnodup
  apply resolve?_of_first
  intro resource
  rw [first_iff_mem hnodup, first_iff_mem hnodup', hperm.mem_iff]

/-- A resource behind another one with its URI is never found. -/
theorem resolve?_of_behind {before after : List Resource} {resource : Resource}
    (h : resource.uri ∈ before.map Resource.uri) (uri : String) :
    (Router.mk (before ++ resource :: after)).resolve? uri =
      (Router.mk (before ++ after)).resolve? uri := by
  rw [resolve?_eq, resolve?_eq, List.find?_append, List.find?_append]
  cases hfront : before.find? (·.uri == uri) with
  | some found => rfl
  | none =>
    have hne : resource.uri ≠ uri := by
      intro heq
      obtain ⟨other, hother, hshared⟩ := List.mem_map.mp h
      have hnone := List.find?_eq_none.mp hfront other hother
      exact hnone (by simp [hshared, heq])
    rw [List.find?_cons_of_neg (by simpa using hne)]

/-- A resource with another URI does not matter. -/
theorem resolve?_of_ne {resource : Resource} {uri : String} (h : resource.uri ≠ uri)
    (before after : List Resource) :
    (Router.mk (before ++ resource :: after)).resolve? uri =
      (Router.mk (before ++ after)).resolve? uri := by
  rw [resolve?_eq, resolve?_eq, List.find?_append, List.find?_append,
    List.find?_cons_of_neg (by simpa using h)]

-- ---------------------------------------------------------------------------
-- Frames
-- ---------------------------------------------------------------------------

/-- The two lists of resources make the same of the frame: it has the same count or the same error,
and every subscriber is handed the same events in the same order. -/
def Alike (frame : ParsedFrame) (xs ys : List Resource) : Prop :=
  ∀ {η : Type} (handle : Handler η) (state : η),
    (Router.mk xs).deliverFrame handle state frame = (Router.mk ys).deliverFrame handle state frame

/-- **The first resource of each URI decides.** Lists of resources in which the same resource comes
first for each URI make the same of every frame. So a list without a shared URI may be permuted; a
resource may be registered anywhere behind one with its URI; and one whose URI no fragment of the
frame is addressed to may be registered, or left out, anywhere. -/
theorem first_registered_decides (frame : ParsedFrame) :
    (∀ xs ys, (∀ uri resource, First xs uri resource ↔ First ys uri resource) →
      Alike frame xs ys) ∧
    (∀ xs ys, xs.Perm ys → (xs.map Resource.uri).Nodup → Alike frame xs ys) ∧
    (∀ before after resource, resource.uri ∈ before.map Resource.uri →
      Alike frame (before ++ resource :: after) (before ++ after)) ∧
    ∀ before after resource, (∀ f ∈ frame.fragments, f.resourceUri ≠ resource.uri) →
      Alike frame (before ++ resource :: after) (before ++ after) := by
  refine ⟨?_, ?_, ?_, ?_⟩
  · intro xs ys h η handle state
    exact deliverFrame_congr (fun f _ => resolve?_of_first (h f.resourceUri)) handle state
  · intro xs ys hperm hnodup η handle state
    exact deliverFrame_congr (fun f _ => resolve?_of_perm hperm hnodup f.resourceUri) handle state
  · intro before after resource h η handle state
    exact deliverFrame_congr (fun f _ => resolve?_of_behind h f.resourceUri) handle state
  · intro before after resource h η handle state
    exact deliverFrame_congr (fun f hf => resolve?_of_ne (h f hf).symm before after) handle state

/-- Two domains that change places, one of them registered again, and a signal that no fragment is
addressed to. -/
theorem reordered_domains_are_alike :
    let item (href : String) : Markup.Node :=
      .element ⟨"li", [("class", "elog-message-ev")], [.element ⟨"a", [("href", href)], []⟩]⟩
    let frame : ParsedFrame :=
      ⟨some ⟨"ul", [], [item "/rw/elog/1/7", item "/rw/elog/2/8"]⟩, 2⟩
    let xs : List Resource := [.elogDomain 1, .elogDomain 2]
    (xs.map Resource.uri).Nodup ∧ Alike frame xs [.elogDomain 2, .elogDomain 1] ∧
      Alike frame (xs ++ [.elogDomain 1]) xs ∧ Alike frame (.ioSignal "1" :: xs) xs := by
  intro item frame xs
  have hnodup : (xs.map Resource.uri).Nodup := by decide +kernel
  have hbehind : (Resource.elogDomain 1).uri ∈ xs.map Resource.uri := List.mem_cons_self
  have hforeign : ∀ f ∈ frame.fragments, f.resourceUri ≠ (Resource.ioSignal "1").uri := by
    rw [ParsedFrame.fragments_eq_filterMap]
    decide +kernel
  obtain ⟨-, hperm, hlater, hother⟩ := first_registered_decides frame
  exact ⟨hnodup, hperm xs _ (.swap _ _ _) hnodup, hlater xs [] _ hbehind, hother [] xs _ hforeign⟩

end RobotWeb.Stream.Router
