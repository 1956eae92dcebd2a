import RobotWeb.Text.Utf8

/-!
# Texts read back from UTF-8

Every text is read back from its bytes, by the strict and by the lossy decoder, and the order of
texts is that of their bytes. The strict decoder reads nothing else.

* `first_encodeChar`       — the decoder finds the character that the bytes begin with.
* `decodeWith_encode`      — a text is read back from its bytes.
* `encode_lt_encode`       — the bytes of the lesser text come first.
* `decode?_eq_some`        — bytes are read as the text whose bytes they are.
-/

namespace RobotWeb.Text.Utf8

-- ---------------------------------------------------------------------------
-- One character
-- ---------------------------------------------------------------------------

theorem toNat_byte {n : Nat} (h : n < 256) : (UInt8.ofNat n).toNat = n :=
  UInt8.toNat_ofNat_of_lt' h

/-- The first byte of a character tells how many follow, and which range the next one is in. -/
theorem form?_one : ∀ n < 0x80, form? (UInt8.ofNat n) = some (0, 0x80, 0xBF) := by
  decide +kernel

theorem form?_two : ∀ n < 0xE0, 0xC2 ≤ n → form? (UInt8.ofNat n) = some (1, 0x80, 0xBF) := by
  decide +kernel

theorem form?_three : ∀ n < 0xF0, 0xE0 ≤ n → form? (UInt8.ofNat n) =
    some (2, if n = 0xE0 then 0xA0 else 0x80, if n = 0xED then 0x9F else 0xBF) := by
  decide +kernel

theorem form?_four : ∀ n < 0xF5, 0xF0 ≤ n → form? (UInt8.ofNat n) =
    some (3, if n = 0xF0 then 0x90 else 0x80, if n = 0xF4 then 0x8F else 0xBF) := by
  decide +kernel

/-- A character is read by its form. -/
theorem first_of_form {b low high : UInt8} {count : Nat} (h : form? b = some (count, low, high))
    (bs : List UInt8) :
    first (b :: bs) = continuations count low high (leadBits count b) 1 bs := by
  simp only [first, h]

/-- A byte within the range continues the character. -/
theorem continuations_byte {low high : UInt8} {n : Nat} (hlow : low.toNat ≤ n)
    (hhigh : n ≤ high.toNat) (count bits taken : Nat) (bs : List UInt8) :
    continuations (count + 1) low high bits taken (UInt8.ofNat n :: bs) =
      continuations count 0x80 0xBF (bits * 64 + n % 64) (taken + 1) bs := by
  have hn : (UInt8.ofNat n).toNat = n := toNat_byte (Nat.lt_of_le_of_lt hhigh high.toNat_lt)
  simp only [continuations, UInt8.le_iff_toNat_le, hn, hlow, hhigh, decide_true, Bool.and_self,
    if_true]

/-- How a character is encoded, by its number. -/
theorem encodeChar_eq (c : Char) : String.utf8EncodeChar c =
    if c.toNat ≤ 0x7F then [UInt8.ofNat c.toNat]
    else if c.toNat ≤ 0x7FF then
      [UInt8.ofNat (c.toNat / 64 % 32 + 192), UInt8.ofNat (c.toNat % 64 + 128)]
    else if c.toNat ≤ 0xFFFF then
      [UInt8.ofNat (c.toNat / 4096 % 16 + 224), UInt8.ofNat (c.toNat / 64 % 64 + 128),
        UInt8.ofNat (c.toNat % 64 + 128)]
    else
      [UInt8.ofNat (c.toNat / 262144 % 8 + 240), UInt8.ofNat (c.toNat / 4096 % 64 + 128),
        UInt8.ofNat (c.toNat / 64 % 64 + 128), UInt8.ofNat (c.toNat % 64 + 128)] := rfl

/-- The decoder finds the character that the bytes begin with, whatever follows it. -/
theorem first_encodeChar (c : Char) (rest : List UInt8) :
    first (String.utf8EncodeChar c ++ rest) = (some c, (String.utf8EncodeChar c).length) := by
  have hvalid : c.toNat < 0xD800 ∨ 0xDFFF < c.toNat ∧ c.toNat < 0x110000 := c.valid
  have hc : Char.ofNat c.toNat = c := Char.ofNat_toNat c
  rw [encodeChar_eq]
  generalize c.toNat = n at hvalid hc
  -- one case for each number of bytes; the bits of the bytes are those of the character again
  split
  · simp only [List.cons_append, List.nil_append]
    rw [first_of_form (form?_one _ (by omega))]
    simp [continuations, leadBits, toNat_byte (show n < 256 by omega), hc]
  split
  · have hbits : (n / 64 % 32 + 192) % 32 * 64 + (n % 64 + 128) % 64 = n := by omega
    simp only [List.cons_append, List.nil_append]
    rw [first_of_form (form?_two _ (by omega) (by omega)),
      continuations_byte (by simp) (by simp; omega), leadBits, toNat_byte (by omega), hbits]
    simp [continuations, hc]
  split
  · have hbits : ((n / 4096 % 16 + 224) % 16 * 64 + (n / 64 % 64 + 128) % 64) * 64 +
        (n % 64 + 128) % 64 = n := by omega
    simp only [List.cons_append, List.nil_append]
    rw [first_of_form (form?_three _ (by omega) (by omega)),
      continuations_byte (by split <;> simp; omega) (by split <;> simp <;> omega),
      continuations_byte (by simp) (by simp; omega), leadBits, toNat_byte (by omega), hbits]
    simp [continuations, hc]
  · have hbits : (((n / 262144 % 8 + 240) % 8 * 64 + (n / 4096 % 64 + 128) % 64) * 64 +
        (n / 64 % 64 + 128) % 64) * 64 + (n % 64 + 128) % 64 = n := by omega
    simp only [List.cons_append, List.nil_append]
    rw [first_of_form (form?_four _ (by omega) (by omega)),
      continuations_byte (by split <;> simp; omega) (by split <;> simp <;> omega),
      continuations_byte (by simp) (by simp; omega),
      continuations_byte (by simp) (by simp; omega), leadBits, toNat_byte (by omega), hbits]
    · simp [continuations, hc]
    all_goals simp

/-- The bytes of the lesser character come first, whatever follows. -/
theorem encodeChar_lt {c d : Char} (h : c < d) (rest rest' : List UInt8) :
    String.utf8EncodeChar c ++ rest < String.utf8EncodeChar d ++ rest' := by
  have hcd : c.toNat < d.toNat := h
  have hd : d.toNat < 0x110000 := by
    have : d.toNat < 0xD800 ∨ 0xDFFF < d.toNat ∧ d.toNat < 0x110000 := d.valid
    omega
  rw [encodeChar_eq, encodeChar_eq]
  generalize c.toNat = n at hcd
  generalize d.toNat = m at hcd hd
  -- a shorter form begins with a lesser byte, and in one form the bytes are digits of the character
  have hdigits (k : Nat) (hk : k < 0x110000) : k / 64 / 64 = k / 4096 ∧
      k / 4096 / 64 = k / 262144 ∧ k / 262144 % 8 = k / 262144 := by omega
  have hn := hdigits n (by omega)
  have hm := hdigits m hd
  repeat' split
  all_goals
    simp (disch := omega) only [List.cons_append, List.nil_append, List.cons_lt_cons_iff,
      UInt8.lt_iff_toNat_lt, ← UInt8.toNat_inj, toNat_byte]
  all_goals omega

/-- A byte of ASCII belongs to the character that it is. -/
theorem toNat_of_mem_encodeChar {c : Char} {b : UInt8} (h : b ∈ String.utf8EncodeChar c)
    (hb : b.toNat < 0x80) : c.toNat = b.toNat := by
  rw [encodeChar_eq] at h
  split at h
  · obtain rfl := List.mem_singleton.mp h
    rw [toNat_byte (by omega)]
  -- all bytes of a longer encoding are above ASCII
  · have hhigh (n : Nat) (hn : n < 256) (hge : 128 ≤ n) : b ≠ UInt8.ofNat n := by
      rintro rfl
      rw [toNat_byte hn] at hb
      omega
    exfalso
    split at h
    · simp only [List.mem_cons, List.not_mem_nil, or_false] at h
      rcases h with h | h <;> exact hhigh _ (by omega) (by omega) h
    split at h
    · simp only [List.mem_cons, List.not_mem_nil, or_false] at h
      rcases h with h | h | h <;> exact hhigh _ (by omega) (by omega) h
    · simp only [List.mem_cons, List.not_mem_nil, or_false] at h
      rcases h with h | h | h | h <;> exact hhigh _ (by omega) (by omega) h

-- ---------------------------------------------------------------------------
-- Texts
-- ---------------------------------------------------------------------------

theorem encode_cons (c : Char) (cs : List Char) :
    encode (c :: cs) = String.utf8EncodeChar c ++ encode cs := rfl

/-- Bytes that belong to what was read before are passed over. -/
theorem decodeWith_skip (replace : Option Char) (done rest : List UInt8) :
    decodeWith replace done.length (done ++ rest) = decodeWith replace 0 rest := by
  induction done with
  | nil => rfl
  | cons b done ih => exact ih

/-- An encoded character is read back, whatever follows it. -/
theorem decodeWith_encodeChar (replace : Option Char) (c : Char) (rest : List UInt8) :
    decodeWith replace 0 (String.utf8EncodeChar c ++ rest) =
      (decodeWith replace 0 rest).map (c :: ·) := by
  have hfirst := first_encodeChar c rest
  cases hbytes : String.utf8EncodeChar c with
  | nil => exact absurd hbytes String.utf8EncodeChar_ne_nil
  | cons b more =>
    rw [hbytes, List.cons_append] at hfirst
    rw [List.cons_append, decodeWith]
    simp only [hfirst, Option.some_or, List.length_cons, Nat.add_sub_cancel, decodeWith_skip]

/-- A text is read back from its bytes, so that there is nothing to replace. -/
theorem decodeWith_encode (replace : Option Char) (cs : List Char) :
    decodeWith replace 0 (encode cs) = some cs := by
  induction cs with
  | nil => rfl
  | cons c cs ih => rw [encode_cons, decodeWith_encodeChar, ih, Option.map_some]

/-- Nothing is lost of what was encoded. -/
theorem decodeLossy_encode (cs : List Char) : decodeLossy (encode cs) = cs := by
  rw [decodeLossy, decodeWith_encode, Option.getD_some]

/-- The bytes of the lesser text come first. -/
theorem encode_lt_encode {cs ds : List Char} (h : cs < ds) : encode cs < encode ds := by
  induction cs generalizing ds with
  | nil =>
    cases ds with
    | nil => exact absurd h (List.lt_irrefl [])
    | cons d ds =>
      rw [encode_cons]
      cases hbytes : String.utf8EncodeChar d with
      | nil => exact absurd hbytes String.utf8EncodeChar_ne_nil
      | cons b more => exact List.nil_lt_cons b _
  | cons c cs ih =>
    cases ds with
    | nil => exact absurd h (List.not_lt_nil _)
    | cons d ds =>
      rw [encode_cons, encode_cons]
      -- the first character decides, or it is the same and the rest decides
      rcases List.cons_lt_cons_iff.mp h with hlt | ⟨rfl, hlt⟩
      · exact encodeChar_lt hlt _ _
      · exact List.append_left_lt (ih hlt)

/-- A character of ASCII whose byte is among those of a text is in the text. -/
theorem mem_of_mem_encode {c : Char} {cs : List Char} (hc : c.toNat < 0x80)
    (h : UInt8.ofNat c.toNat ∈ encode cs) : c ∈ cs := by
  obtain ⟨d, hd, hmem⟩ := List.mem_flatMap.mp h
  have heq := toNat_of_mem_encodeChar hmem (by rw [toNat_byte (by omega)]; exact hc)
  rw [toNat_byte (by omega)] at heq
  exact Char.toNat_inj.mp heq ▸ hd

-- ---------------------------------------------------------------------------
-- What is read
-- ---------------------------------------------------------------------------

/-- The first byte of a character restricts the next one to continuation bytes. -/
theorem form?_range {b low high : UInt8} {count : Nat} (h : form? b = some (count, low, high)) :
    0x80 ≤ low.toNat ∧ high.toNat ≤ 0xBF := by
  have hall : ∀ n < 256, ∀ form ∈ form? (UInt8.ofNat n),
      0x80 ≤ form.2.1.toNat ∧ form.2.2.toNat ≤ 0xBF := by
    decide +kernel
  have hb := hall b.toNat b.toNat_lt (count, low, high)
  rw [UInt8.ofNat_toNat] at hb
  exact hb h

/-- The first byte of a character tells how many follow it, and some bytes restrict the next one
further. -/
theorem form?_eq_some {b low high : UInt8} {count : Nat} (h : form? b = some (count, low, high)) :
    (count = 0 ∧ b.toNat < 0x80) ∨
    (count = 1 ∧ 0xC2 ≤ b.toNat ∧ b.toNat < 0xE0) ∨
    (count = 2 ∧ 0xE0 ≤ b.toNat ∧ b.toNat < 0xF0 ∧
      (b.toNat = 0xE0 → 0xA0 ≤ low.toNat) ∧ (b.toNat = 0xED → high.toNat ≤ 0x9F)) ∨
    (count = 3 ∧ 0xF0 ≤ b.toNat ∧ b.toNat < 0xF5 ∧
      (b.toNat = 0xF0 → 0x90 ≤ low.toNat) ∧ (b.toNat = 0xF4 → high.toNat ≤ 0x8F)) := by
  have hall : ∀ n < 256, ∀ form ∈ form? (UInt8.ofNat n),
      (form.1 = 0 ∧ n < 0x80) ∨
      (form.1 = 1 ∧ 0xC2 ≤ n ∧ n < 0xE0) ∨
      (form.1 = 2 ∧ 0xE0 ≤ n ∧ n < 0xF0 ∧
        (n = 0xE0 → 0xA0 ≤ form.2.1.toNat) ∧ (n = 0xED → form.2.2.toNat ≤ 0x9F)) ∨
      (form.1 = 3 ∧ 0xF0 ≤ n ∧ n < 0xF5 ∧
        (n = 0xF0 → 0x90 ≤ form.2.1.toNat) ∧ (n = 0xF4 → form.2.2.toNat ≤ 0x8F)) := by
    decide +kernel
  have hb := hall b.toNat b.toNat_lt (count, low, high)
  rw [UInt8.ofNat_toNat] at hb
  exact hb h

/-- A byte that continues a character is in its range and adds its bits. -/
theorem continuations_succ_eq_some {count bits taken length : Nat} {low high : UInt8} {c : Char}
    {bytes : List UInt8}
    (h : continuations (count + 1) low high bits taken bytes = (some c, length)) :
    ∃ b rest, bytes = b :: rest ∧ low.toNat ≤ b.toNat ∧ b.toNat ≤ high.toNat ∧
      continuations count 0x80 0xBF (bits * 64 + b.toNat % 64) (taken + 1) rest =
        (some c, length) := by
  cases bytes with
  | nil => simp [continuations] at h
  | cons b rest =>
    simp only [continuations] at h
    split at h
    · rename_i hrange
      simp only [Bool.and_eq_true, decide_eq_true_eq, UInt8.le_iff_toNat_le] at hrange
      exact ⟨b, rest, rfl, hrange.1, hrange.2, h⟩
    · simp at h

theorem ofNat_eq_of_toNat {n : Nat} {b : UInt8} (h : n = b.toNat) : UInt8.ofNat n = b := by
  rw [h, UInt8.ofNat_toNat]

/-- Numbers outside the surrogates, up to U+10FFFF, are those of characters. -/
theorem toNat_ofNat_of_valid {n : Nat} (h : n < 0xD800 ∨ 0xDFFF < n ∧ n < 0x110000) :
    (Char.ofNat n).toNat = n := by
  have hn : n.isValidChar := h
  rw [Char.ofNat, dif_pos hn]
  rfl

/-- The bytes begin with the character that the decoder finds. -/
theorem first_eq_some {bytes : List UInt8} {c : Char} {length : Nat}
    (h : first bytes = (some c, length)) :
    ∃ rest, bytes = String.utf8EncodeChar c ++ rest ∧
      length = (String.utf8EncodeChar c).length := by
  cases bytes with
  | nil => simp [first] at h
  | cons a bytes =>
    rw [first] at h
    cases hform : form? a with
    | none => simp [hform] at h
    | some form =>
      obtain ⟨count, low, high⟩ := form
      simp only [hform] at h
      obtain ⟨hlow, hhigh⟩ := form?_range hform
      rw [encodeChar_eq]
      -- one case for each number of bytes; the bytes are those of the character again
      rcases form?_eq_some hform with ⟨rfl, ha⟩ | ⟨rfl, ha, ha'⟩ | ⟨rfl, ha, ha', hone, hother⟩ |
        ⟨rfl, ha, ha', hone, hother⟩
      · obtain ⟨hc, rfl⟩ := Prod.mk.inj h
        obtain rfl := Option.some.inj hc
        simp only [leadBits]
        rw [toNat_ofNat_of_valid (by omega), if_pos (by omega), ofNat_eq_of_toNat rfl]
        exact ⟨bytes, rfl, rfl⟩
      · obtain ⟨b, rest, rfl, hb, hb', h⟩ := continuations_succ_eq_some h
        obtain ⟨hc, rfl⟩ := Prod.mk.inj h
        obtain rfl := Option.some.inj hc
        simp only [leadBits]
        rw [toNat_ofNat_of_valid (by omega), if_neg (by omega), if_pos (by omega),
          ofNat_eq_of_toNat (b := a) (by omega), ofNat_eq_of_toNat (b := b) (by omega)]
        exact ⟨rest, rfl, rfl⟩
      · obtain ⟨b, _, rfl, hb, hb', h⟩ := continuations_succ_eq_some h
        obtain ⟨d, rest, rfl, hd, hd', h⟩ := continuations_succ_eq_some h
        obtain ⟨hc, rfl⟩ := Prod.mk.inj h
        obtain rfl := Option.some.inj hc
        simp only [UInt8.reduceToNat] at hd hd'
        simp only [leadBits]
        rw [toNat_ofNat_of_valid (by omega), if_neg (by omega), if_neg (by omega),
          if_pos (by omega), ofNat_eq_of_toNat (b := a) (by omega),
          ofNat_eq_of_toNat (b := b) (by omega), ofNat_eq_of_toNat (b := d) (by omega)]
        exact ⟨rest, rfl, rfl⟩
      · obtain ⟨b, _, rfl, hb, hb', h⟩ := continuations_succ_eq_some h
        obtain ⟨d, _, rfl, hd, hd', h⟩ := continuations_succ_eq_some h
        obtain ⟨e, rest, rfl, he, he', h⟩ := continuations_succ_eq_some h
        obtain ⟨hc, rfl⟩ := Prod.mk.inj h
        obtain rfl := Option.some.inj hc
        simp only [UInt8.reduceToNat] at hd hd' he he'
        simp only [leadBits]
        rw [toNat_ofNat_of_valid (by omega), if_neg (by omega), if_neg (by omega),
          if_neg (by omega), ofNat_eq_of_toNat (b := a) (by omega),
          ofNat_eq_of_toNat (b := b) (by omega), ofNat_eq_of_toNat (b := d) (by omega),
          ofNat_eq_of_toNat (b := e) (by omega)]
        exact ⟨rest, rfl, rfl⟩

/-- Bytes that are read as a text begin with its first character. -/
theorem decodeWith_eq_some {b : UInt8} {bytes : List UInt8} {cs : List Char}
    (h : decodeWith none 0 (b :: bytes) = some cs) :
    ∃ c rest ds, b :: bytes = String.utf8EncodeChar c ++ rest ∧
      decodeWith none 0 rest = some ds ∧ cs = c :: ds := by
  obtain ⟨⟨char?, length⟩, hfirst⟩ : ∃ r, first (b :: bytes) = r := ⟨_, rfl⟩
  cases char? with
  | none => simp [decodeWith, hfirst] at h
  | some c =>
    obtain ⟨rest, hbytes, -⟩ := first_eq_some hfirst
    rw [hbytes, decodeWith_encodeChar] at h
    obtain ⟨ds, hds, rfl⟩ := Option.map_eq_some_iff.mp h
    exact ⟨c, rest, ds, hbytes, hds, rfl⟩

/-- Bytes are read as the text whose bytes they are. -/
theorem decode?_eq_some {bytes : List UInt8} {cs : List Char} :
    decode? bytes = some cs ↔ bytes = encode cs := by
  refine ⟨fun h => ?_, fun h => h ▸ decodeWith_encode none cs⟩
  rw [decode?] at h
  -- over the text: the decoder takes one character off the bytes at a time
  induction cs generalizing bytes with
  | nil =>
    cases bytes with
    | nil => rfl
    | cons b bytes =>
      obtain ⟨c, rest, ds, -, -, hcs⟩ := decodeWith_eq_some h
      cases hcs
  | cons c cs ih =>
    cases bytes with
    | nil => cases h
    | cons b bytes =>
      obtain ⟨d, rest, ds, hbytes, hrest, hcs⟩ := decodeWith_eq_some h
      obtain ⟨rfl, rfl⟩ := List.cons.inj hcs
      rw [hbytes, ih hrest, encode_cons]

end RobotWeb.Text.Utf8
