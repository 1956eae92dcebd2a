import RobotWeb.Text.Numeral

/-!
# Numerals of numbers

The decimal numeral of a number is read back as that number, and holds nothing but digits. Nothing
else is read than such numerals, with leading zeros and a plus sign allowed.

* `exists_ok_of_bind`  — a reader that has succeeded has succeeded step by step.
* `unsigned?_repr`     — a number within its bound is read back.
* `not_mem_repr`       — no other character occurs in its numeral.
* `Writes`             — the texts that write a number.
* `unsigned?_eq_some`  — which text is read as which number.
* `WritesSigned`, `signed32?_eq_some` — the same for integers with a sign.
-/

namespace RobotWeb

/-- A bind that succeeds has a first result, and its second step succeeds with it. -/
theorem exists_ok_of_bind {ε α β : Type} {first : Except ε α} {next : α → Except ε β} {b : β}
    (h : (first >>= next) = .ok b) : ∃ a, first = .ok a ∧ next a = .ok b := by
  cases first with
  | error e => cases h
  | ok a => exact ⟨a, rfl, h⟩

namespace Text

theorem digitValue?_of_isDigit {c : Char} (h : c.isDigit = true) :
    digitValue? c = some (c.toNat - '0'.toNat) := by
  have hrange : '0' ≤ c ∧ c ≤ '9' := by
    simpa [Char.isDigit, Char.le_def] using h
  rw [digitValue?, if_pos hrange]

/-- Digits are read as the number that they write. -/
theorem digitsFrom?_of_isDigit {cs : List Char} (h : ∀ c ∈ cs, c.isDigit = true) (high : Nat) :
    digitsFrom? high cs = some (Nat.ofDigitChars 10 cs high) := by
  induction cs generalizing high with
  | nil => simp [digitsFrom?]
  | cons c cs ih =>
    rw [digitsFrom?, digitValue?_of_isDigit (h c List.mem_cons_self), Option.bind_some,
      ih (fun d hd => h d (List.mem_cons_of_mem _ hd)), Nat.ofDigitChars_cons]

/-- A number is written in digits only. -/
theorem isDigit_of_mem_repr {n : Nat} {c : Char} (h : c ∈ n.repr.toList) : c.isDigit = true := by
  rw [Nat.toList_repr] at h
  exact Nat.isDigit_of_mem_toDigits (by decide) (by decide) h

theorem not_mem_repr {n : Nat} {c : Char} (hc : c.isDigit = false) : c ∉ n.repr.toList := by
  intro h
  rw [isDigit_of_mem_repr h] at hc
  cases hc

/-- The digits that are written for a number are read as that number. -/
theorem digits?_repr (n : Nat) : digits? n.repr.toList = some n := by
  have hdigits : ∀ c ∈ Nat.toDigits 10 n, c.isDigit = true := fun c hc =>
    Nat.isDigit_of_mem_toDigits (by decide) (by decide) hc
  rw [Nat.toList_repr]
  cases hcs : Nat.toDigits 10 n with
  | nil => exact absurd hcs Nat.toDigits_ne_nil
  | cons c cs =>
    rw [digits?, ← hcs, digitsFrom?_of_isDigit hdigits, Nat.ofDigitChars_ten_toDigits]

/-- Different numbers are written differently. -/
theorem repr_injective {n m : Nat} (h : n.repr = m.repr) : n = m := by
  have hread := digits?_repr n
  rw [h, digits?_repr] at hread
  exact (Option.some.inj hread).symm

/-- The numeral of a number below the bound is read back. -/
theorem unsigned?_repr {bound n : Nat} (h : n < bound) : unsigned? bound n.repr = some n := by
  have hdigits := digits?_repr n
  have hplus : '+' ∉ n.repr.toList := not_mem_repr (by decide)
  unfold unsigned?
  split
  · rename_i cs hcs
    rw [hcs] at hplus
    exact absurd List.mem_cons_self hplus
  · dsimp only
    rw [hdigits]
    simp [h]

-- ---------------------------------------------------------------------------
-- What is read as a number
-- ---------------------------------------------------------------------------

/-- The text writes the number: it has an optional plus sign and then one or more digits, the
highest one first. -/
def Writes (text : List Char) (n : Nat) : Prop :=
  ∃ digits, (text = digits ∨ text = '+' :: digits) ∧ digits ≠ [] ∧
    (∀ c ∈ digits, c.isDigit = true) ∧ n = Nat.ofDigitChars 10 digits 0

theorem isDigit_of_digitValue? {c : Char} {d : Nat} (h : digitValue? c = some d) :
    c.isDigit = true := by
  unfold digitValue? at h
  split at h
  · rename_i hrange
    simpa [Char.isDigit, Char.le_def] using hrange
  · cases h

/-- Only digits are read, and as the number that they write. -/
theorem digitsFrom?_eq_some {high n : Nat} {cs : List Char} :
    digitsFrom? high cs = some n ↔
      (∀ c ∈ cs, c.isDigit = true) ∧ n = Nat.ofDigitChars 10 cs high := by
  constructor
  · intro h
    have hdigits : ∀ c ∈ cs, c.isDigit = true := by
      induction cs generalizing high with
      | nil => nofun
      | cons c cs ih =>
        obtain ⟨d, hd, hrest⟩ := Option.bind_eq_some_iff.mp h
        exact List.forall_mem_cons.mpr ⟨isDigit_of_digitValue? hd, ih hrest⟩
    refine ⟨hdigits, ?_⟩
    rw [digitsFrom?_of_isDigit hdigits] at h
    exact (Option.some.inj h).symm
  · rintro ⟨hdigits, rfl⟩
    exact digitsFrom?_of_isDigit hdigits high

/-- A number is read from digits only, of which there has to be one at least. -/
theorem digits?_eq_some {n : Nat} {cs : List Char} :
    digits? cs = some n ↔
      cs ≠ [] ∧ (∀ c ∈ cs, c.isDigit = true) ∧ n = Nat.ofDigitChars 10 cs 0 := by
  cases cs with
  | nil => simp [digits?]
  | cons c cs =>
    unfold digits?
    rw [digitsFrom?_eq_some]
    simp

/-- A text is read as the number that it writes, if this is below the bound. -/
theorem unsigned?_eq_some {bound n : Nat} {s : String} :
    unsigned? bound s = some n ↔ Writes s.toList n ∧ n < bound := by
  have hsign : Char.isDigit '+' = false := by decide
  unfold unsigned? Writes
  dsimp only
  rw [Option.filter_eq_some_iff, decide_eq_true_eq]
  refine and_congr_left fun _ => ?_
  -- a plus sign in front, or none
  split
  · rename_i cs hcs
    rw [hcs, digits?_eq_some]
    constructor
    · rintro ⟨hne, hdigits, hn⟩
      exact ⟨cs, .inr rfl, hne, hdigits, hn⟩
    · rintro ⟨digits, rfl | htext, hne, hdigits, hn⟩
      · -- the sign is no digit
        rw [hdigits '+' List.mem_cons_self] at hsign
        cases hsign
      · obtain ⟨-, rfl⟩ := List.cons.inj htext
        exact ⟨hne, hdigits, hn⟩
  · rename_i cs hcs
    rw [digits?_eq_some]
    constructor
    · rintro ⟨hne, hdigits, hn⟩
      exact ⟨s.toList, .inl rfl, hne, hdigits, hn⟩
    · rintro ⟨digits, rfl | htext, hne, hdigits, hn⟩
      · exact ⟨hne, hdigits, hn⟩
      · exact absurd htext (hcs digits)

/-- Only digits and a sign occur in a text that writes a number. -/
theorem Writes.not_mem {text : List Char} {n : Nat} (h : Writes text n) {c : Char}
    (hc : c.isDigit = false) (hsign : c ≠ '+') : c ∉ text := by
  intro hmem
  obtain ⟨digits, rfl | rfl, -, hdigits, -⟩ := h
  · rw [hdigits c hmem] at hc
    cases hc
  · rcases List.mem_cons.mp hmem with rfl | hmem
    · exact hsign rfl
    · rw [hdigits c hmem] at hc
      cases hc

-- ---------------------------------------------------------------------------
-- Integers
-- ---------------------------------------------------------------------------

/-- The text writes the integer: it has an optional sign and then one or more digits, the highest
one first. -/
def WritesSigned (text : List Char) (n : Int) : Prop :=
  ∃ digits, digits ≠ [] ∧ (∀ c ∈ digits, c.isDigit = true) ∧
    ((text = digits ∨ text = '+' :: digits) ∧ n = Nat.ofDigitChars 10 digits 0 ∨
      text = '-' :: digits ∧ n = -(Nat.ofDigitChars 10 digits 0 : Int))

theorem map_digits?_eq_some {value : Nat → Int} {cs : List Char} {n : Int} :
    (digits? cs).map value = some n ↔
      cs ≠ [] ∧ (∀ c ∈ cs, c.isDigit = true) ∧ n = value (Nat.ofDigitChars 10 cs 0) := by
  rw [Option.map_eq_some_iff]
  constructor
  · rintro ⟨m, hm, rfl⟩
    obtain ⟨hne, hdigits, rfl⟩ := digits?_eq_some.mp hm
    exact ⟨hne, hdigits, rfl⟩
  · rintro ⟨hne, hdigits, rfl⟩
    exact ⟨_, digits?_eq_some.mpr ⟨hne, hdigits, rfl⟩, rfl⟩

/-- A text is read as the integer that it writes, if this has 32 bits. -/
theorem signed32?_eq_some {s : String} {n : Int} :
    signed32? s = some n ↔
      WritesSigned s.toList n ∧ Int32.minValue.toInt ≤ n ∧ n ≤ Int32.maxValue.toInt := by
  have hminus : Char.isDigit '-' = false := by decide
  have hplus : Char.isDigit '+' = false := by decide
  have hfits : fitsInt32 n = true ↔ Int32.minValue.toInt ≤ n ∧ n ≤ Int32.maxValue.toInt := by
    rw [fitsInt32, Bool.and_eq_true, decide_eq_true_eq, decide_eq_true_eq]
  unfold signed32? WritesSigned
  dsimp only
  rw [Option.filter_eq_some_iff, hfits]
  refine and_congr_left fun _ => ?_
  -- a sign is no digit, so that a text is read in one way only
  split
  · rename_i cs hcs
    rw [hcs, map_digits?_eq_some]
    constructor
    · rintro ⟨hne, hdigits, hn⟩
      exact ⟨cs, hne, hdigits, .inr ⟨rfl, hn⟩⟩
    · rintro ⟨digits, hne, hdigits, ⟨rfl | htext, -⟩ | ⟨htext, hn⟩⟩
      · simp [hdigits '-' List.mem_cons_self] at hminus
      · cases (List.cons.inj htext).1
      · obtain ⟨-, rfl⟩ := List.cons.inj htext
        exact ⟨hne, hdigits, hn⟩
  · rename_i cs hcs
    rw [hcs, map_digits?_eq_some]
    constructor
    · rintro ⟨hne, hdigits, hn⟩
      exact ⟨cs, hne, hdigits, .inl ⟨.inr rfl, hn⟩⟩
    · rintro ⟨digits, hne, hdigits, ⟨rfl | htext, hn⟩ | ⟨htext, -⟩⟩
      · simp [hdigits '+' List.mem_cons_self] at hplus
      · obtain ⟨-, rfl⟩ := List.cons.inj htext
        exact ⟨hne, hdigits, hn⟩
      · cases (List.cons.inj htext).1
  · rename_i cs hnominus hnoplus
    rw [map_digits?_eq_some]
    constructor
    · rintro ⟨hne, hdigits, hn⟩
      exact ⟨s.toList, hne, hdigits, .inl ⟨.inl rfl, hn⟩⟩
    · rintro ⟨digits, hne, hdigits, ⟨rfl | htext, hn⟩ | ⟨htext, -⟩⟩
      · exact ⟨hne, hdigits, hn⟩
      · exact absurd htext (hnoplus digits)
      · exact absurd htext (hnominus digits)

/-- The numeral of an integer writes it. -/
theorem writesSigned_toString (n : Int) : WritesSigned (toString n).toList n := by
  have hvalue (m : Nat) : m.repr.toList ≠ [] ∧ (∀ c ∈ m.repr.toList, c.isDigit = true) ∧
      m = Nat.ofDigitChars 10 m.repr.toList 0 := digits?_eq_some.mp (digits?_repr m)
  cases n with
  | ofNat m =>
    obtain ⟨hne, hdigits, hm⟩ := hvalue m
    exact ⟨_, hne, hdigits, .inl ⟨.inl rfl, congrArg Int.ofNat hm⟩⟩
  | negSucc m =>
    obtain ⟨hne, hdigits, hm⟩ := hvalue (m + 1)
    refine ⟨_, hne, hdigits, .inr ⟨?_, ?_⟩⟩
    · exact String.toList_append
    · rw [← hm]
      rfl

/-- Nothing writes no number. -/
theorem WritesSigned.ne_nil {text : List Char} {n : Int} (h : WritesSigned text n) :
    text ≠ [] := by
  obtain ⟨digits, hne, -, ⟨rfl | rfl, -⟩ | ⟨rfl, -⟩⟩ := h
  · exact hne
  · exact List.cons_ne_nil _ _
  · exact List.cons_ne_nil _ _

/-- Only digits and signs occur in a text that writes an integer. -/
theorem WritesSigned.mem {text : List Char} {n : Int} (h : WritesSigned text n) {c : Char}
    (hc : c ∈ text) : c.isDigit = true ∨ c = '+' ∨ c = '-' := by
  obtain ⟨digits, -, hdigits, ⟨rfl | rfl, -⟩ | ⟨rfl, -⟩⟩ := h
  · exact .inl (hdigits c hc)
  · rcases List.mem_cons.mp hc with rfl | hc
    · exact .inr (.inl rfl)
    · exact .inl (hdigits c hc)
  · rcases List.mem_cons.mp hc with rfl | hc
    · exact .inr (.inr rfl)
    · exact .inl (hdigits c hc)

end Text

end RobotWeb
