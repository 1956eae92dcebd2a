import RobotWeb.Proofs.Text.Form
import RobotWeb.Proofs.Text.Numeral
import RobotWeb.Subscription

/-!
# What a subscription's body tells

A form reader finds in the body of a subscription what was subscribed to: three fields for each
entry, in the order of the entries, and nothing else. So no two subscriptions have the same body.

* `fieldsFrom_eq`           — the fields of the entries with their numbers.
* `fieldsFrom_injective`    — the entries are told by their fields.
* `body_tells_entries`      — the body of every subscription.
-/

namespace RobotWeb

/-- Different priorities have different codes. -/
theorem Priority.code_injective {p q : Priority} (h : p.code = q.code) : p = q := by
  cases p <;> cases q <;> first | rfl | cases h

namespace Subscription

/-- The fields are those of the entries, each with its number. -/
theorem fieldsFrom_eq (index : Nat) (entries : List SubscriptionEntry) :
    fieldsFrom index entries =
      (entries.zipIdx index).flatMap fun (e, i) => entryFields i e := by
  induction entries generalizing index with
  | nil => rfl
  | cons e entries ih => rw [fieldsFrom, ih, List.zipIdx_cons, List.flatMap_cons]

/-- Entries with the same fields are the same. -/
theorem fieldsFrom_injective {index : Nat} {entries entries' : List SubscriptionEntry}
    (h : fieldsFrom index entries = fieldsFrom index entries') : entries = entries' := by
  -- over the entries: the first three fields give the first entry back
  induction entries generalizing index entries' with
  | nil =>
    cases entries' with
    | nil => rfl
    | cons e' rest' => cases h
  | cons e rest ih =>
    cases entries' with
    | nil => cases h
    | cons e' rest' =>
      simp only [fieldsFrom, entryFields, List.cons_append, List.nil_append, List.cons.injEq,
        Prod.mk.injEq, true_and] at h
      obtain ⟨huri, hpriority, hrest⟩ := h
      have he : e = e' := by
        cases e
        cases e'
        simp only [SubscriptionEntry.mk.injEq]
        exact ⟨huri, Priority.code_injective (Text.repr_injective hpriority)⟩
      rw [he, ih hrest]

/-- **A body tells what was subscribed to.** The pairs that a form reader finds in it are, for each
entry in the order of their addition, its number, its URI and the code of its priority, and there
are no others. So different subscriptions have different bodies; and a body is plain ASCII,
whatever characters the URIs hold. -/
theorem body_tells_entries (s : Subscription) :
    Text.Form.decode s.encodeBody =
      (s.entries.zipIdx.flatMap fun (e, i) =>
        [("resources", toString i), (toString i, e.uri),
          (toString i ++ "-p", toString e.priority.code)]) ∧
    (∀ t : Subscription, t.encodeBody = s.encodeBody → t = s) ∧
    ∀ c ∈ s.encodeBody.toList, c.toNat < 0x80 := by
  have hread (s : Subscription) : Text.Form.decode s.encodeBody = fieldsFrom 0 s.entries :=
    Text.Form.decode_encode _
  refine ⟨?_, fun t ht => ?_, fun c hc => ?_⟩
  · rw [hread, fieldsFrom_eq]
    rfl
  · have hfields : fieldsFrom 0 t.entries = fieldsFrom 0 s.entries := by
      rw [← hread, ← hread, ht]
    have hentries := fieldsFrom_injective hfields
    cases t
    cases s
    exact congrArg Subscription.mk hentries
  · rw [encodeBody, Text.Form.encode, String.toList_ofList] at hc
    exact Text.Form.toNat_lt_of_mem_encodeChars hc

/-- A URI that holds all the signs that a body is cut at, and an empty one. -/
example : Text.Form.decode (Subscription.encodeBody ⟨[⟨"a&b=c+d%é", .high⟩, ⟨"", .low⟩]⟩) =
    [("resources", "0"), ("0", "a&b=c+d%é"), ("0-p", "2"), ("resources", "1"), ("1", ""),
      ("1-p", "0")] := by
  decide +kernel

end Subscription

end RobotWeb
