import RobotWeb.Proofs.Json.Token

/-!
# Written values are read back

The tokens of a value put together give the value, in whatever containers it stands. With the cut
into tokens this makes reading the inverse of writing, for all values whose numbers are integers.

* `place_tokens` — the tokens of a value give the value.
* `read?_text`   — the text of a value is read as the value.
-/

namespace RobotWeb.Json

/-- Wherever a value is due, the tokens give it. -/
def Gives (tokens : List Token) (v : Value) : Prop :=
  ∀ outer mayEnd, tokens.foldlM place? (outer, .value mayEnd) = some (outer, .after v)

/-- The tokens of items, up to the end of their array. `before` are the items that were read, the
last one first. -/
theorem place_items {items : List Value} (hne : items ≠ [])
    (h : ∀ v ∈ items, Gives v.tokens v) (before : List Value) (outer : List Container)
    (mayEnd : Bool) :
    ([Token.comma].intercalate (items.map Value.tokens) ++ [Token.closeArray]).foldlM place?
        (.array before :: outer, .value mayEnd) =
      some (outer, .after (.array (before.reverse ++ items))) := by
  -- The last item is followed by the end of the array, any other by a comma, which puts it among
  -- the items that were read.
  induction items generalizing before mayEnd with
  | nil => exact absurd rfl hne
  | cons v rest ih =>
    have hv : Gives v.tokens v := h v List.mem_cons_self
    cases rest with
    | nil =>
      rw [List.map_singleton, List.intercalate_singleton, List.foldlM_append, hv]
      simp [place?]
    | cons w rest =>
      have hrest := ih (List.cons_ne_nil w rest) (fun x hx => h x (List.mem_cons_of_mem v hx))
        (v :: before) false
      rw [List.map_cons] at hrest
      rw [List.map_cons, List.map_cons, List.intercalate_cons_cons, List.append_assoc,
        List.append_assoc, List.foldlM_append, hv]
      simpa [place?] using hrest

/-- The tokens of members, up to the end of their object. -/
theorem place_members {members : List (String × Value)} (hne : members ≠ [])
    (h : ∀ m ∈ members, Gives m.2.tokens m.2) (before : List (String × Value)) (name : String)
    (outer : List Container) (mayEnd : Bool) :
    ([Token.comma].intercalate
          (members.map fun m => Token.value (.string m.1) :: Token.colon :: m.2.tokens) ++
        [Token.closeObject]).foldlM place? (.object before name :: outer, .name mayEnd) =
      some (outer, .after (.object (before.reverse ++ members))) := by
  -- over the members: a comma comes before each but the first, so that a name is due after it
  induction members generalizing before name mayEnd with
  | nil => exact absurd rfl hne
  | cons m rest ih =>
    have hm : Gives m.2.tokens m.2 := h m List.mem_cons_self
    cases rest with
    | nil =>
      rw [List.map_singleton, List.intercalate_singleton, List.cons_append, List.cons_append,
        List.foldlM_cons, place?]
      simp [place?, List.foldlM_append, hm (_ :: outer) false]
    | cons m' rest =>
      have hrest := ih (List.cons_ne_nil m' rest) (fun x hx => h x (List.mem_cons_of_mem m hx))
        (m :: before) "" false
      rw [List.map_cons] at hrest
      rw [List.map_cons, List.map_cons, List.intercalate_cons_cons]
      simp only [List.cons_append, List.append_assoc, List.foldlM_cons, place?, List.foldlM_append,
        Option.bind_eq_bind, Option.bind_some, hm (_ :: outer) false]
      simpa [place?] using hrest

/-- The tokens of a value give the value. -/
theorem place_tokens {v : Value} (h : v.Integral) : Gives v.tokens v := by
  induction h with
  | null | bool | integer | string => exact fun _ _ => rfl
  | @array items _ ih =>
    intro outer mayEnd
    rw [Value.tokens, itemTokens_eq_map]
    by_cases hne : items = []
    · -- Without items the end comes where a value is due.
      subst hne
      rfl
    · simpa [place?] using place_items hne ih [] outer true
  | @object members _ ih =>
    intro outer mayEnd
    rw [Value.tokens, memberTokens_eq_map]
    by_cases hne : members = []
    · subst hne
      rfl
    · simpa [place?] using place_members hne ih [] "" outer true

/-- **The text of a value is read as the value.** -/
theorem read?_text {v : Value} (h : v.Integral) : read? v.text = some v := by
  simp only [read?, (scans_text h).tokens?, Option.bind_eq_bind, Option.bind_some]
  rw [place_tokens h]

end RobotWeb.Json
