import RobotWeb.Proofs.Text.Utf8
import RobotWeb.Text.Base64

/-!
# Bytes read back from base64

Every list of bytes is read back from its base64 text. The text consists of characters of the
alphabet and up to two signs that complete the last group of four, and read as digits the
characters write the same number as the bytes do, up to the bits that the signs stand for.

* `alphabet`        — the characters of six bits, in the order of their values.
* `Spells`          — which text stands for which bytes.
* `encode_spells`   — the encoder writes the text of its bytes.
* `decode?_encode`  — the decoder reads the bytes of a text.
-/

namespace RobotWeb.Text.Base64

-- ---------------------------------------------------------------------------
-- What a text stands for
-- ---------------------------------------------------------------------------

/-- The characters for six bits, the one for the value 0 first. -/
def alphabet : List Char :=
  "ABCDEFGHIJKLMNOPQRSTUVWXYZabcdefghijklmnopqrstuvwxyz0123456789+/".toList

/-- The number that digits write in the base when they stand behind the number `high`. -/
def number (base high : Nat) (digits : List Nat) : Nat :=
  digits.foldl (fun n digit => base * n + digit) high

/-- The text stands for the bytes: four characters for three bytes, the last group completed by at
most two signs. The characters before the signs are of the alphabet, and their values write the
number of the bytes, with a zero digit of two bits behind it for each sign. -/
def Spells (text : List Char) (bytes : List UInt8) : Prop :=
  ∃ chars values signs, text = chars ++ List.replicate signs '=' ∧ signs < 3 ∧
    3 * text.length = 4 * (bytes.length + signs) ∧
    chars.map some = values.map (alphabet[·]?) ∧
    number 64 0 values = number 4 (number 256 0 (bytes.map UInt8.toNat)) (List.replicate signs 0)

-- ---------------------------------------------------------------------------
-- Digits
-- ---------------------------------------------------------------------------

theorem alphabet_digit : ∀ n < 64, alphabet[n]? = some (digit n) := by
  decide +kernel

/-- The digits are read back. -/
theorem digitValue?_digit : ∀ n < 64, digitValue? (digit n) = some n := by
  decide +kernel

/-- The sign for padding is no digit. -/
theorem digit_ne_sign : ∀ n < 64, digit n ≠ '=' := by
  decide +kernel

/-- The characters of the alphabet and the sign are printable. -/
theorem printable_of_mem_alphabet {c : Char} (hc : c ∈ '=' :: alphabet) :
    0x20 ≤ c.toNat ∧ c.toNat < 0x7F := by
  have hall : ('=' :: alphabet).all (fun d => 0x20 ≤ d.toNat ∧ d.toNat < 0x7F) = true := by
    decide +kernel
  exact of_decide_eq_true (List.all_eq_true.mp hall c hc)

-- ---------------------------------------------------------------------------
-- The encoder
-- ---------------------------------------------------------------------------

theorem number_cons (base high digit : Nat) (digits : List Nat) :
    number base high (digit :: digits) = number base (base * high + digit) digits := rfl

theorem number_nil (base high : Nat) : number base high [] = high := rfl

/-- The bytes are written by values of six bits and signs. Behind any other number both write the
same: the bits of the others stay above theirs. -/
theorem exists_encode (bytes : List UInt8) :
    ∃ values signs, encode bytes = values.map digit ++ List.replicate signs '=' ∧ signs < 3 ∧
      3 * (encode bytes).length = 4 * (bytes.length + signs) ∧ (∀ value ∈ values, value < 64) ∧
      ∀ high, number 64 high values =
        number 4 (number 256 high (bytes.map UInt8.toNat)) (List.replicate signs 0) := by
  -- by the groups of the encoder: one, two or three bytes
  induction bytes using encode.induct with
  | case1 => exact ⟨[], 0, rfl, by decide, rfl, nofun, fun high => by simp [number_nil]⟩
  | case2 a =>
    have ha := a.toNat_lt
    refine ⟨[a.toNat / 4, a.toNat % 4 * 16], 2, rfl, by decide, rfl, ?_, fun high => ?_⟩
    · simp only [List.forall_mem_cons]
      exact ⟨by omega, by omega, nofun⟩
    · simp only [List.map_cons, List.map_nil, List.replicate, number_cons, number_nil]
      omega
  | case3 a b =>
    have ha := a.toNat_lt
    have hb := b.toNat_lt
    refine ⟨[a.toNat / 4, a.toNat % 4 * 16 + b.toNat / 16, b.toNat % 16 * 4], 1, rfl, by decide,
      rfl, ?_, fun high => ?_⟩
    · simp only [List.forall_mem_cons]
      exact ⟨by omega, by omega, by omega, nofun⟩
    · simp only [List.map_cons, List.map_nil, List.replicate, number_cons, number_nil]
      omega
  | case4 a b c rest ih =>
    have ha := a.toNat_lt
    have hb := b.toNat_lt
    have hc := c.toNat_lt
    obtain ⟨values, signs, hrest, hsigns, hlength, hvalues, hnumber⟩ := ih
    refine ⟨a.toNat / 4 :: (a.toNat % 4 * 16 + b.toNat / 16) ::
      (b.toNat % 16 * 4 + c.toNat / 64) :: c.toNat % 64 :: values, signs, ?_, hsigns, ?_, ?_,
      fun high => ?_⟩
    · rw [encode, hrest]
      rfl
    · simp only [encode, List.length_cons]
      omega
    · simp only [List.forall_mem_cons]
      exact ⟨by omega, by omega, by omega, by omega, hvalues⟩
    · -- three bytes and four characters write the same 24 bits
      have hgroup : 64 * (64 * (64 * (64 * high + a.toNat / 4) +
          (a.toNat % 4 * 16 + b.toNat / 16)) + (b.toNat % 16 * 4 + c.toNat / 64)) +
            c.toNat % 64 =
          256 * (256 * (256 * high + a.toNat) + b.toNat) + c.toNat := by
        omega
      simp only [List.map_cons, number_cons, hnumber, hgroup]

/-- The encoder writes the text that stands for its bytes. -/
theorem encode_spells (bytes : List UInt8) : Spells (encode bytes) bytes := by
  obtain ⟨values, signs, htext, hsigns, hlength, hvalues, hnumber⟩ := exists_encode bytes
  refine ⟨values.map digit, values, signs, htext, hsigns, hlength, ?_, hnumber 0⟩
  rw [List.map_map]
  exact List.map_congr_left fun value hvalue => (alphabet_digit value (hvalues value hvalue)).symm

/-- A text that stands for bytes holds characters of the alphabet and signs. -/
theorem Spells.mem {text : List Char} {bytes : List UInt8} (h : Spells text bytes) {c : Char}
    (hc : c ∈ text) : c ∈ '=' :: alphabet := by
  obtain ⟨chars, values, signs, rfl, -, -, hchars, -⟩ := h
  rcases List.mem_append.mp hc with hc | hc
  · have hsome : some c ∈ values.map (alphabet[·]?) := hchars ▸ List.mem_map_of_mem hc
    obtain ⟨value, -, hvalue⟩ := List.mem_map.mp hsome
    exact List.mem_cons_of_mem _ (List.mem_of_getElem? hvalue)
  · rw [List.eq_of_mem_replicate hc]
    exact List.mem_cons_self

-- ---------------------------------------------------------------------------
-- The decoder
-- ---------------------------------------------------------------------------

section

variable {p q r s : Nat} (hp : p < 64) (hq : q < 64) (hr : r < 64) (hs : s < 64)

include hp hq in
/-- Two characters and two signs stand for one byte. -/
theorem decode?_one :
    decode? [digit p, digit q, '=', '='] = some [UInt8.ofNat (p * 4 + q / 16)] := by
  rw [decode?, digitValue?_digit p hp, digitValue?_digit q hq]
  rfl

include hp hq hr in
/-- Three characters and one sign stand for two bytes. -/
theorem decode?_two :
    decode? [digit p, digit q, digit r, '='] =
      some [UInt8.ofNat (p * 4 + q / 16), UInt8.ofNat (q % 16 * 16 + r / 4)] := by
  rw [decode?]
  · rw [digitValue?_digit p hp, digitValue?_digit q hq, digitValue?_digit r hr]
    rfl
  · exact digit_ne_sign r hr

include hp hq hr hs in
/-- A group without signs stands for three bytes. -/
theorem decode?_group (rest : List Char) :
    decode? (digit p :: digit q :: digit r :: digit s :: rest) =
      (decode? rest).map fun bytes => UInt8.ofNat (p * 4 + q / 16) ::
        UInt8.ofNat (q % 16 * 16 + r / 4) :: UInt8.ofNat (r % 4 * 64 + s) :: bytes := by
  rw [decode?]
  · rw [digitValue?_digit p hp, digitValue?_digit q hq, digitValue?_digit r hr,
      digitValue?_digit s hs]
    cases decode? rest <;> rfl
  · exact fun _ h _ => digit_ne_sign s hs h
  · exact fun h _ => digit_ne_sign s hs h

end

/-- Bytes are read back from their base64 text. -/
theorem decode?_encode (bytes : List UInt8) : decode? (encode bytes) = some bytes := by
  -- by the groups of the encoder: each is read back by one lemma on the decoder
  induction bytes using encode.induct with
  | case1 => rfl
  | case2 a =>
    have ha := a.toNat_lt
    rw [encode, decode?_one (by omega) (by omega),
      Utf8.ofNat_eq_of_toNat (b := a) (by omega)]
  | case3 a b =>
    have ha := a.toNat_lt
    have hb := b.toNat_lt
    rw [encode, decode?_two (by omega) (by omega) (by omega),
      Utf8.ofNat_eq_of_toNat (b := a) (by omega), Utf8.ofNat_eq_of_toNat (b := b) (by omega)]
  | case4 a b c rest ih =>
    have ha := a.toNat_lt
    have hb := b.toNat_lt
    have hc := c.toNat_lt
    rw [encode, decode?_group (by omega) (by omega) (by omega) (by omega), ih, Option.map_some,
      Utf8.ofNat_eq_of_toNat (b := a) (by omega), Utf8.ofNat_eq_of_toNat (b := b) (by omega),
      Utf8.ofNat_eq_of_toNat (b := c) (by omega)]

end RobotWeb.Text.Base64
