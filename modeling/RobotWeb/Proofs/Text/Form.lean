import RobotWeb.Proofs.Text.Split
import RobotWeb.Proofs.Text.Utf8
import RobotWeb.Text.Form

/-!
# Form bodies read back

Every list of pairs is read back from its form body, whatever characters its names and values hold:
the signs that the body is cut at are never written inside a part.

* `decodeFrom_encodeByte`        — a byte is read back from what is written for it.
* `decodePart_encodePart`        — a name or a value is read back.
* `decode_encode`                — all pairs are read back, in their order.
* `toNat_lt_of_mem_encodeChars`  — a form body is plain ASCII.
-/

namespace RobotWeb.Text

-- ---------------------------------------------------------------------------
-- Bytes
-- ---------------------------------------------------------------------------

theorem hexValue?_hexDigit : ∀ n < 16, hexValue? (hexDigit n) = some n := by
  decide +kernel

/-- Characters of ASCII are single bytes. -/
theorem utf8EncodeChar_ofNat : ∀ n < 0x80,
    String.utf8EncodeChar (Char.ofNat n) = [UInt8.ofNat n] := by
  decide +kernel

namespace Percent

/-- A character that is no percent sign stands for itself. -/
theorem decodeFrom_of_ne {c : Char} (h : c ≠ '%') (rest : List Char) :
    decodeFrom 0 (c :: rest) = String.utf8EncodeChar c ++ decodeFrom 0 rest := by
  rw [decodeFrom]
  simp [escaped?, h]

/-- A byte is read back from its escape, whatever follows. -/
theorem decodeFrom_escape (b : UInt8) (rest : List Char) :
    decodeFrom 0 (escape b ++ rest) = b :: decodeFrom 0 rest := by
  have hb : b.toNat < 256 := b.toNat_lt
  have hhigh := hexValue?_hexDigit (b.toNat / 16) (by omega)
  have hlow := hexValue?_hexDigit (b.toNat % 16) (by omega)
  have hbits : UInt8.ofNat (16 * (b.toNat / 16) + b.toNat % 16) = b := by
    rw [Nat.div_add_mod, UInt8.ofNat_toNat]
  have hescaped : escaped? (escape b ++ rest) = some b := by
    simp only [escape, List.cons_append, escaped?, hhigh, hlow, Option.bind_eq_bind,
      Option.bind_some, hbits]
  simp only [escape, List.cons_append, List.nil_append] at hescaped ⊢
  rw [decodeFrom, hescaped]
  rfl

end Percent

namespace Form

/-- A plus sign stands for a space. -/
def spaced (c : Char) : Char :=
  if c = '+' then ' ' else c

/-- Plain ASCII without the signs that have a meaning in a form body, the escape sign excepted. -/
def IsUnmarked (c : Char) : Prop :=
  c.toNat < 0x80 ∧ c ≠ '&' ∧ c ≠ '=' ∧ c ≠ '+'

instance (c : Char) : Decidable (IsUnmarked c) :=
  inferInstanceAs (Decidable (_ ∧ _))

theorem isUnmarked_hexDigit : ∀ n < 16, IsUnmarked (hexDigit n) := by
  decide +kernel

/-- An escape has none of the marks that structure a form. -/
theorem isUnmarked_of_mem_escape {b : UInt8} {c : Char} (h : c ∈ Percent.escape b) :
    IsUnmarked c := by
  have hb : b.toNat < 256 := b.toNat_lt
  simp only [Percent.escape, List.mem_cons, List.not_mem_nil, or_false] at h
  rcases h with rfl | rfl | rfl
  · decide
  · exact isUnmarked_hexDigit _ (by omega)
  · exact isUnmarked_hexDigit _ (by omega)

theorem lt_of_isPlain {b : UInt8} (h : isPlain b = true) : b.toNat < 0x80 := by
  simp [isPlain, UInt8.le_iff_toNat_le, ← UInt8.toNat_inj] at h
  omega

/-- A byte that is written as it is has none of them either. -/
theorem isUnmarked_of_isPlain : ∀ n < 0x80, isPlain (UInt8.ofNat n) = true →
    IsUnmarked (Char.ofNat n) ∧ Char.ofNat n ≠ '%' := by
  decide +kernel

/-- No byte is written with a sign that separates parts. -/
theorem mem_encodeByte {b : UInt8} {c : Char} (h : c ∈ encodeByte b) :
    c.toNat < 0x80 ∧ c ≠ '&' ∧ c ≠ '=' := by
  unfold encodeByte at h
  split at h
  · rename_i hplain
    obtain rfl := List.mem_singleton.mp h
    obtain ⟨⟨hascii, hand, hequals, -⟩, -⟩ := isUnmarked_of_isPlain b.toNat (lt_of_isPlain hplain)
      (by rwa [UInt8.ofNat_toNat])
    exact ⟨hascii, hand, hequals⟩
  · split at h
    · obtain rfl := List.mem_singleton.mp h
      decide
    · obtain ⟨hascii, hand, hequals, -⟩ := isUnmarked_of_mem_escape h
      exact ⟨hascii, hand, hequals⟩

/-- Reading plus signs as blanks does not change an escape. -/
theorem map_spaced_escape (b : UInt8) : (Percent.escape b).map spaced = Percent.escape b := by
  have hspaced : ∀ c ∈ Percent.escape b, spaced c = id c := fun c hc =>
    if_neg (isUnmarked_of_mem_escape hc).2.2.2
  rw [List.map_congr_left hspaced, List.map_id]

/-- A byte is read back from what is written for it, whatever follows. -/
theorem decodeFrom_encodeByte (b : UInt8) (rest : List Char) :
    Percent.decodeFrom 0 ((encodeByte b).map spaced ++ rest) = b :: Percent.decodeFrom 0 rest := by
  have hself : UInt8.ofNat b.toNat = b := UInt8.ofNat_toNat
  unfold encodeByte
  split
  · rename_i hplain
    have hascii := lt_of_isPlain hplain
    obtain ⟨⟨-, -, -, hplus⟩, hpercent⟩ := isUnmarked_of_isPlain b.toNat hascii (by rwa [hself])
    rw [List.map_singleton, spaced, if_neg hplus, List.singleton_append,
      Percent.decodeFrom_of_ne hpercent, utf8EncodeChar_ofNat _ hascii, hself]
    rfl
  · split
    · rename_i hspace
      obtain rfl : b = 0x20 := by simpa using hspace
      rw [List.map_singleton, spaced, if_pos rfl, List.singleton_append,
        Percent.decodeFrom_of_ne (by decide)]
      rfl
    · rw [map_spaced_escape, Percent.decodeFrom_escape]

-- ---------------------------------------------------------------------------
-- Parts
-- ---------------------------------------------------------------------------

/-- All bytes are read back. -/
theorem decode_encodeBytes (bytes : List UInt8) :
    Percent.decode ((bytes.flatMap encodeByte).map spaced) = bytes := by
  induction bytes with
  | nil => rfl
  | cons b bytes ih =>
    rw [List.flatMap_cons, List.map_append, Percent.decode, decodeFrom_encodeByte]
    exact congrArg (b :: ·) ih

/-- A name or a value is read back from its written form. -/
theorem decodePart_encodePart (s : String) : decodePart (encodePart s) = s := by
  have hbytes := decode_encodeBytes (Utf8.encode s.toList)
  unfold spaced at hbytes
  rw [decodePart, encodePart, hbytes, Utf8.decodeLossy_encode, String.ofList_toList]

/-- What is written for a name or a value is ASCII without the marks of a form. -/
theorem mem_encodePart {s : String} {c : Char} (h : c ∈ encodePart s) :
    c.toNat < 0x80 ∧ c ≠ '&' ∧ c ≠ '=' := by
  obtain ⟨b, -, hc⟩ := List.mem_flatMap.mp h
  exact mem_encodeByte hc

-- ---------------------------------------------------------------------------
-- Pairs
-- ---------------------------------------------------------------------------

/-- A pair has one equals sign, and no mark between pairs. -/
theorem mem_encodePair {pair : String × String} {c : Char} (h : c ∈ encodePair pair) :
    c.toNat < 0x80 ∧ c ≠ '&' := by
  rcases List.mem_append.mp h with hname | hrest
  · exact ⟨(mem_encodePart hname).1, (mem_encodePart hname).2.1⟩
  · rcases List.mem_cons.mp hrest with rfl | hvalue
    · exact ⟨by decide, by decide⟩
    · exact ⟨(mem_encodePart hvalue).1, (mem_encodePart hvalue).2.1⟩

/-- So a pair is read back. -/
theorem decodePair_encodePair (pair : String × String) : decodePair (encodePair pair) = pair := by
  have hname : '=' ∉ encodePart pair.1 := fun h => (mem_encodePart h).2.2 rfl
  rw [decodePair, encodePair, splitFirst?_join hname]
  simp only [decodePart_encodePart]

theorem encodePair_ne_nil (pair : String × String) : encodePair pair ≠ [] := by
  simp [encodePair]

/-- A form body is cut into the pairs that it was joined from. -/
theorem splitOn_encodeChars (pair : String × String) (rest : List (String × String)) :
    splitOn '&' (encodeChars (pair :: rest)) = (pair :: rest).map encodePair := by
  have hpair (pair : String × String) : '&' ∉ encodePair pair := fun h => (mem_encodePair h).2 rfl
  induction rest generalizing pair with
  | nil => exact splitOn_of_not_mem (hpair pair)
  | cons next rest ih =>
    rw [encodeChars, splitOn_join (hpair pair), ih]
    · rfl
    · exact fun h => List.cons_ne_nil next rest h

/-- All pairs are read back from their form body, in their order. -/
theorem decode_encode (pairs : List (String × String)) : decode (encode pairs) = pairs := by
  cases pairs with
  | nil => rfl
  | cons pair rest =>
    have hfilled : ((pair :: rest).map encodePair).filter (!·.isEmpty) =
        (pair :: rest).map encodePair := by
      rw [List.filter_eq_self]
      intro piece hpiece
      obtain ⟨p, -, rfl⟩ := List.mem_map.mp hpiece
      simpa using encodePair_ne_nil p
    have hself : decodePair ∘ encodePair = id := funext decodePair_encodePair
    rw [decode, encode, String.toList_ofList, splitOn_encodeChars, hfilled, List.map_map, hself,
      List.map_id]

/-- A form is ASCII. -/
theorem toNat_lt_of_mem_encodeChars {pairs : List (String × String)} {c : Char}
    (h : c ∈ encodeChars pairs) : c.toNat < 0x80 := by
  induction pairs with
  | nil => cases h
  | cons pair rest ih =>
    cases rest with
    | nil => exact (mem_encodePair h).1
    | cons next rest =>
      rcases List.mem_append.mp h with hpair | hrest
      · exact (mem_encodePair hpair).1
      · rcases List.mem_cons.mp hrest with rfl | hrest
        · decide
        · exact ih hrest

end Form

end RobotWeb.Text
