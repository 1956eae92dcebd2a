import RobotWeb.Http.CookieJar
import RobotWeb.Proofs.Text.Split
import RobotWeb.Proofs.Text.Trim
import RobotWeb.Proofs.Text.Utf8

/-!
# What a cookie jar holds

The cookies of a jar are told by the headers that it has stored: each name that one of them sets is
there once, with the value of the last of them that sets it. The `Cookie` header is read back into
these pairs, since no name and no value holds a character that it is cut at.

* `Sets`, `Latest`          — what one header sets, and what is left of many.
* `cookiePair?_eq_some`     — the pair that is read from a header is the one that it sets.
* `CookieJar.mem_storeAll`  — what a jar holds after some headers.
* `CookieJar.carries`       — the `Cookie` header of such a jar.
-/

namespace RobotWeb.Http

-- ---------------------------------------------------------------------------
-- What headers set
-- ---------------------------------------------------------------------------

/-- The pair at the start of a `Set-Cookie` header: up to the first semicolon there are a name,
which is not blank, an equals sign and a value. Blanks around the name and around the value do not
count. -/
def Sets (header name value : String) : Prop :=
  ∃ left right, header.toList.takeWhile (· != ';') = left ++ '=' :: right ∧ '=' ∉ left ∧
    name.toList = Text.trimBy Text.isBlank left ∧ name ≠ "" ∧
    value.toList = Text.trimBy Text.isBlank right

/-- None of the headers sets a cookie of this name. -/
def LeaveUnset (headers : List String) (name : String) : Prop :=
  ∀ header ∈ headers, ∀ value, ¬ Sets header name value

/-- The last one of the headers that sets a cookie of this name gives it this value. -/
def Latest (headers : List String) (name value : String) : Prop :=
  ∃ earlier header later, headers = earlier ++ header :: later ∧ Sets header name value ∧
    LeaveUnset later name

/-- The `Cookie` header that should be sent after these `Set-Cookie` headers. -/
structure Carries (cookie : Option String) (headers : List String) : Prop where
  /-- There is none as long as nothing has been set. -/
  absent : cookie = none ↔ ∀ name, LeaveUnset headers name
  /-- Cut at its separators it gives every cookie that was set, once and in the order of the bytes
  of the names, with the value set last. -/
  pairs : ∀ text, cookie = some text → ∃ pairs : List (String × String),
    (Text.splitAround "; ".toList text.toList).map (Text.splitFirst? '=') =
      pairs.map (fun (name, value) => some (name.toList, value.toList)) ∧
    pairs.Pairwise (fun one next =>
      Text.Utf8.encode one.1.toList < Text.Utf8.encode next.1.toList) ∧
    ∀ name value, (name, value) ∈ pairs ↔ Latest headers name value

-- ---------------------------------------------------------------------------
-- Reading one header
-- ---------------------------------------------------------------------------

section Reading

variable {header name value : String} {left right : List Char}

/-- What stands before the first equals sign, up to the first semicolon, is the name, and the rest
is the value. -/
theorem cookiePair?_of_pair (h : header.toList.takeWhile (· != ';') = left ++ '=' :: right)
    (hleft : '=' ∉ left) :
    cookiePair? header =
      if (Text.trimBy Text.isBlank left).isEmpty then none
      else some (String.ofList (Text.trimBy Text.isBlank left),
        String.ofList (Text.trimBy Text.isBlank right)) := by
  have hdropped : '=' ∉ left.dropWhile Text.isBlank := fun hmem =>
    hleft (List.dropWhile_subset _ hmem)
  have hequals : Text.isBlank '=' = false := by decide
  simp only [cookiePair?, h, Text.trimBy_append_cons hequals, Text.splitFirst?_join hdropped,
    Text.trimBy_dropWhile, Text.trimBy_trimEndBy]

/-- Without an equals sign there is no cookie. -/
theorem cookiePair?_of_not_mem (h : '=' ∉ header.toList.takeWhile (· != ';')) :
    cookiePair? header = none := by
  have htrimmed : Text.splitFirst? '='
      (Text.trimBy Text.isBlank (header.toList.takeWhile (· != ';'))) = none :=
    Text.splitFirst?_eq_none.mpr fun hmem => h (Text.mem_of_mem_trimBy hmem)
  simp only [cookiePair?, htrimmed]

/-- The pair that is read from a header is the one that it sets. -/
theorem cookiePair?_eq_some : cookiePair? header = some (name, value) ↔ Sets header name value := by
  constructor
  · intro h
    cases hcut : Text.splitFirst? '=' (header.toList.takeWhile (· != ';')) with
    | none =>
      rw [cookiePair?_of_not_mem (Text.splitFirst?_eq_none.mp hcut)] at h
      cases h
    | some cut =>
      obtain ⟨left, right⟩ := cut
      obtain ⟨hlead, hleft⟩ := Text.splitFirst?_eq_some hcut
      rw [cookiePair?_of_pair hlead hleft] at h
      split at h
      · cases h
      · rename_i hname
        obtain ⟨rfl, rfl⟩ : _ ∧ _ := by simpa using h
        refine ⟨left, right, hlead, hleft, by simp, fun hempty => hname ?_, by simp⟩
        simpa using congrArg String.toList hempty
  · rintro ⟨left, right, hlead, hleft, hname, hne, hvalue⟩
    have hkept : (Text.trimBy Text.isBlank left).isEmpty = false := by
      rw [← hname]
      simpa [List.isEmpty_eq_false_iff] using hne
    rw [cookiePair?_of_pair hlead hleft, if_neg (by simp [hkept]), ← hname, ← hvalue]
    simp

/-- A header sets at most one cookie. -/
theorem Sets.unique {name' value' : String} (h : Sets header name value)
    (h' : Sets header name' value') : name = name' ∧ value = value' := by
  have hpair := (cookiePair?_eq_some.mpr h).symm.trans (cookiePair?_eq_some.mpr h')
  simpa using hpair

/-- A pair has no semicolon, and its name no equals sign. -/
theorem Sets.clean (h : Sets header name value) :
    '=' ∉ name.toList ∧ ';' ∉ name.toList ∧ ';' ∉ value.toList := by
  obtain ⟨left, right, hlead, hleft, hname, -, hvalue⟩ := h
  have hlead' : ';' ∉ left ++ '=' :: right := by
    rw [← hlead]
    intro hmem
    simpa using List.mem_takeWhile_imp hmem
  rw [List.mem_append, List.mem_cons, not_or, not_or] at hlead'
  rw [hname, hvalue]
  exact ⟨fun hmem => hleft (Text.mem_of_mem_trimBy hmem),
    fun hmem => hlead'.1 (Text.mem_of_mem_trimBy hmem),
    fun hmem => hlead'.2.2 (Text.mem_of_mem_trimBy hmem)⟩

end Reading

-- ---------------------------------------------------------------------------
-- What is left of many headers
-- ---------------------------------------------------------------------------

theorem leaveUnset_cons {header : String} {rest : List String} {name : String} :
    LeaveUnset (header :: rest) name ↔
      (∀ value, ¬ Sets header name value) ∧ LeaveUnset rest name :=
  List.forall_mem_cons

/-- The latest value is told by the rest of the headers, or by the first one if these leave the name
unset. -/
theorem latest_cons {header : String} {rest : List String} {name value : String} :
    Latest (header :: rest) name value ↔
      Latest rest name value ∨ (Sets header name value ∧ LeaveUnset rest name) := by
  constructor
  · rintro ⟨earlier, last, later, heq, hsets, hunset⟩
    cases earlier with
    | nil =>
      obtain ⟨rfl, rfl⟩ := List.cons.inj heq
      exact .inr ⟨hsets, hunset⟩
    | cons first earlier =>
      obtain ⟨rfl, rfl⟩ := List.cons.inj heq
      exact .inl ⟨earlier, last, later, rfl, hsets, hunset⟩
  · rintro (⟨earlier, last, later, rfl, hsets, hunset⟩ | ⟨hsets, hunset⟩)
    · exact ⟨header :: earlier, last, later, rfl, hsets, hunset⟩
    · exact ⟨[], header, rest, rfl, hsets, hunset⟩

/-- A name has a last value, or no header sets it. -/
theorem latest_or_leaveUnset (headers : List String) (name : String) :
    (∃ value, Latest headers name value) ∨ LeaveUnset headers name := by
  induction headers with
  | nil => exact .inr fun header hmem => by cases hmem
  | cons header rest ih =>
    rcases ih with ⟨value, h⟩ | hrest
    · exact .inl ⟨value, latest_cons.mpr (.inl h)⟩
    · by_cases hsets : ∃ value, Sets header name value
      · obtain ⟨value, hvalue⟩ := hsets
        exact .inl ⟨value, latest_cons.mpr (.inr ⟨hvalue, hrest⟩)⟩
      · exact .inr (leaveUnset_cons.mpr ⟨fun value hvalue => hsets ⟨value, hvalue⟩, hrest⟩)

/-- Headers that set a cookie do not leave it unset. -/
theorem Latest.not_leaveUnset {headers : List String} {name value : String}
    (h : Latest headers name value) : ¬ LeaveUnset headers name := by
  obtain ⟨earlier, header, later, rfl, hsets, -⟩ := h
  exact fun hunset => hunset header (by simp) value hsets

-- ---------------------------------------------------------------------------
-- Storing
-- ---------------------------------------------------------------------------

/-- Each name is there once, and they are in ascending order. -/
def Ordered (cookies : List (String × String)) : Prop :=
  cookies.Pairwise (·.1 < ·.1)

section Putting

variable {name value : String} {cookies : List (String × String)}

/-- A cookie that is put into a list takes the place of one with its name. -/
theorem mem_putCookie (h : Ordered cookies) (n v : String) :
    (n, v) ∈ putCookie name value cookies ↔
      n = name ∧ v = value ∨ n ≠ name ∧ (n, v) ∈ cookies := by
  -- over the list; the new pair stands before the first greater name, or replaces its own
  induction cookies with
  | nil => simp +contextual [putCookie]
  | cons first rest ih =>
    obtain ⟨other, kept⟩ := first
    obtain ⟨hfirst, hrest⟩ := List.pairwise_cons.mp h
    -- a name that does not come after the first one is none of the later ones
    have habsent : ¬ other < name → ∀ v, (name, v) ∉ rest := fun hle v hmem => hle (hfirst _ hmem)
    simp only [putCookie]
    split
    · rename_i hlt
      have hrest := habsent (String.lt_asymm hlt)
      have hother : other ≠ name := fun he => String.lt_irrefl name (he ▸ hlt)
      grind
    · split
      · rename_i heq
        have hrest := habsent (heq ▸ String.lt_irrefl name)
        grind
      · rename_i hne
        have hrest := ih hrest
        grind

/-- The cookies of a jar stay in the order of their names. -/
theorem ordered_putCookie (h : Ordered cookies) : Ordered (putCookie name value cookies) := by
  induction cookies with
  | nil => exact List.pairwise_singleton _ _
  | cons first rest ih =>
    obtain ⟨other, kept⟩ := first
    obtain ⟨hfirst, hrest⟩ := List.pairwise_cons.mp h
    simp only [putCookie]
    split
    · rename_i hlt
      refine List.pairwise_cons.mpr ⟨fun cookie hmem => ?_, h⟩
      rcases List.mem_cons.mp hmem with rfl | hmem
      · exact hlt
      · exact String.lt_trans hlt (hfirst cookie hmem)
    · split
      · rename_i heq
        exact List.pairwise_cons.mpr ⟨fun cookie hmem => heq ▸ hfirst cookie hmem, hrest⟩
      · rename_i hnlt hne
        have hlt : other < name :=
          Decidable.byContradiction fun hle => hne (String.le_antisymm hle hnlt)
        -- what comes later is the new pair or one of the old ones
        refine List.pairwise_cons.mpr ⟨fun cookie hmem => ?_, ih hrest⟩
        rcases (mem_putCookie hrest cookie.1 cookie.2).mp hmem with ⟨hname, -⟩ | ⟨-, hmem⟩
        · exact hname ▸ hlt
        · exact hfirst cookie hmem

end Putting

namespace CookieJar

variable {jar : CookieJar}

theorem ordered_store (h : Ordered jar.cookies) (header : String) :
    Ordered (jar.store header).cookies := by
  unfold store
  split
  · exact ordered_putCookie h
  · exact h

/-- The cookies of a jar are in order after any answers. -/
theorem ordered_storeAll (h : Ordered jar.cookies) (headers : List String) :
    Ordered (jar.storeAll headers).cookies := by
  induction headers generalizing jar with
  | nil => exact h
  | cons header rest ih => exact ih (ordered_store h header)

/-- A header that sets a cookie replaces the one of the same name and leaves the others. -/
theorem mem_store (h : Ordered jar.cookies) (header n v : String) :
    (n, v) ∈ (jar.store header).cookies ↔
      Sets header n v ∨ (∀ value, ¬ Sets header n value) ∧ (n, v) ∈ jar.cookies := by
  cases hpair : cookiePair? header with
  | none =>
    have hnone : ∀ name value, ¬ Sets header name value := fun name value hsets => by
      simp [cookiePair?_eq_some.mpr hsets] at hpair
    simp [store, hpair, hnone]
  | some pair =>
    obtain ⟨name, value⟩ := pair
    have hsets : ∀ n v, Sets header n v ↔ n = name ∧ v = value := fun n v => by
      rw [← cookiePair?_eq_some, hpair]
      simp [eq_comm]
    simp only [store, hpair, mem_putCookie h, hsets]
    simp

/-- After some headers a jar holds the last value of every name that they set, and what it held of
the others. -/
theorem mem_storeAll (h : Ordered jar.cookies) (headers : List String) (name value : String) :
    (name, value) ∈ (jar.storeAll headers).cookies ↔
      Latest headers name value ∨ LeaveUnset headers name ∧ (name, value) ∈ jar.cookies := by
  induction headers generalizing jar with
  | nil =>
    have hnone : ¬ Latest [] name value := by
      rintro ⟨earlier, header, later, heq, -⟩
      simp at heq
    simp [storeAll, LeaveUnset, hnone]
  | cons header rest ih =>
    have hstep : jar.storeAll (header :: rest) = (jar.store header).storeAll rest := rfl
    rw [hstep, ih (ordered_store h header), mem_store h, latest_cons, leaveUnset_cons]
    tauto

/-- A fresh jar holds the last value of every name that was set. -/
theorem mem_storeAll_fresh (headers : List String) (name value : String) :
    (name, value) ∈ (storeAll {} headers).cookies ↔ Latest headers name value := by
  rw [mem_storeAll List.Pairwise.nil]
  simp

-- ---------------------------------------------------------------------------
-- The header
-- ---------------------------------------------------------------------------

/-- An empty jar sends no header. -/
theorem header?_eq_none (jar : CookieJar) : jar.header? = none ↔ jar.cookies = [] := by
  simp [header?]

/-- The header of a jar is cut into its cookies again. -/
theorem splitAround_header {text : String} (h : jar.header? = some text)
    (hclean : ∀ name value, (name, value) ∈ jar.cookies →
      '=' ∉ name.toList ∧ ';' ∉ name.toList ∧ ';' ∉ value.toList) :
    (Text.splitAround "; ".toList text.toList).map (Text.splitFirst? '=') =
      jar.cookies.map fun (name, value) => some (name.toList, value.toList) := by
  obtain ⟨cookies⟩ := jar
  have hmarker : "; ".toList = [';', ' '] := rfl
  cases cookies with
  | nil => simp [header?] at h
  | cons cookie rest =>
    let piece : String × String → List Char := fun (name, value) =>
      name.toList ++ '=' :: value.toList
    have htext : text.toList = [';', ' '].intercalate ((cookie :: rest).map piece) := by
      obtain rfl : "; ".intercalate ((cookie :: rest).map fun (name, value) =>
          name ++ "=" ++ value) = text := by simpa [header?] using h
      rw [String.toList_intercalate, hmarker, List.map_map]
      simp [piece, Function.comp_def]
    -- no pair has a semicolon in it, so that the header is cut between pairs only
    have huncut : ∀ p ∈ (cookie :: rest).map piece, ';' ∉ p := by
      intro p hp
      obtain ⟨⟨name, value⟩, hmem, rfl⟩ := List.mem_map.mp hp
      obtain ⟨-, hname, hvalue⟩ := hclean name value hmem
      simp [piece, hname, hvalue]
    rw [htext, hmarker, List.map_cons, Text.splitAround_intercalate (by simpa using huncut),
      ← List.map_cons, List.map_map]
    refine List.map_congr_left fun (name, value) hmem => ?_
    exact Text.splitFirst?_join (hclean name value hmem).1 value.toList

/-- The `Cookie` header of a jar is the one that should be sent after the headers it has stored. -/
theorem carries (headers : List String) : Carries (storeAll {} headers).header? headers where
  absent := by
    rw [header?_eq_none]
    constructor
    · intro hnone name
      refine (latest_or_leaveUnset headers name).resolve_left ?_
      rintro ⟨value, h⟩
      simpa [hnone] using (mem_storeAll_fresh headers name value).mpr h
    · intro hunset
      refine List.eq_nil_iff_forall_not_mem.mpr fun (name, value) hmem => ?_
      exact ((mem_storeAll_fresh headers name value).mp hmem).not_leaveUnset (hunset name)
  pairs text htext := by
    refine ⟨(storeAll {} headers).cookies, ?_, ?_, mem_storeAll_fresh headers⟩
    · refine splitAround_header htext fun name value hmem => ?_
      obtain ⟨_, header, _, -, hsets, -⟩ := (mem_storeAll_fresh headers name value).mp hmem
      exact hsets.clean
    · exact (ordered_storeAll List.Pairwise.nil headers).imp fun hlt =>
        Text.Utf8.encode_lt_encode hlt

end CookieJar

end RobotWeb.Http
