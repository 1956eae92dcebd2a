import Mathlib.Data.List.TakeWhile
import RobotWeb.Json.Text
import RobotWeb.Proofs.Text.Numeral

/-!
# Tokens of written values

What is written for a value is cut into the tokens that the value is made of. A word has no end of
its own: it ends with the token that follows it or with the text, so a text that ends with a word is
settled only by what comes next.

* `Value.Integral`  — values without fractions and exponents.
* `Value.tokens`    — the tokens that a value is made of.
* `Settled`         — the tokens that a state of the cut stands for.
* `Scans`, `Ends`   — characters that add tokens, and such that leave no word open.
* `scans_word`, `ends_string`, `ends_enclosed` — words, strings and containers.
* `scans_text`      — what is written for a value adds the tokens of the value.
-/

namespace RobotWeb.Json

-- ---------------------------------------------------------------------------
-- Tokens of values
-- ---------------------------------------------------------------------------

/-- All numbers in the value are integers. -/
inductive Value.Integral : Value → Prop where
  | null : Integral .null
  | bool (b : Bool) : Integral (.bool b)
  | integer (n : Int) : Integral (.integer n)
  | string (s : String) : Integral (.string s)
  | array {items : List Value} (items_integral : ∀ v ∈ items, Integral v) : Integral (.array items)
  | object {members : List (String × Value)} (members_integral : ∀ m ∈ members, Integral m.2) :
      Integral (.object members)

mutual

/-- The tokens that the value is made of. -/
def Value.tokens : Value → List Token
  | .array items => .openArray :: [.comma].intercalate (itemTokens items) ++ [.closeArray]
  | .object members => .openObject :: [.comma].intercalate (memberTokens members) ++ [.closeObject]
  | v => [.value v]

def itemTokens : List Value → List (List Token)
  | [] => []
  | v :: rest => v.tokens :: itemTokens rest

def memberTokens : List (String × Value) → List (List Token)
  | [] => []
  | (name, v) :: rest => (.value (.string name) :: .colon :: v.tokens) :: memberTokens rest

end

theorem itemTokens_eq_map (items : List Value) : itemTokens items = items.map Value.tokens := by
  induction items with
  | nil => rfl
  | cons v rest ih => rw [itemTokens, ih, List.map_cons]

theorem memberTokens_eq_map (members : List (String × Value)) :
    memberTokens members =
      members.map fun m => .value (.string m.1) :: .colon :: m.2.tokens := by
  induction members with
  | nil => rfl
  | cons m rest ih => rw [memberTokens, ih, List.map_cons]

theorem itemTexts_eq_map (items : List Value) : itemTexts items = items.map Value.text := by
  induction items with
  | nil => rfl
  | cons v rest ih => rw [itemTexts, ih, List.map_cons]

theorem memberTexts_eq_map (members : List (String × Value)) :
    memberTexts members = members.map fun m => stringText m.1 ++ ":" ++ m.2.text := by
  induction members with
  | nil => rfl
  | cons m rest ih => rw [memberTexts, ih, List.map_cons]

-- ---------------------------------------------------------------------------
-- Cutting
-- ---------------------------------------------------------------------------

/-- The tokens that a state of the cut stands for, the last one first. -/
inductive Settled : Place × List Token → List Token → Prop where
  | between (tokens : List Token) : Settled (.between, tokens) tokens
  | word {chars : List Char} {before tokens : List Token}
      (ended : endWord? chars before = some tokens) : Settled (.word chars, before) tokens

/-- The characters add the tokens, but for the end of a word. -/
def Scans (cs : List Char) (added : List Token) : Prop :=
  ∀ before, ∃ state, cs.foldlM step? (.between, before) = some state ∧
    Settled state (added.reverse ++ before)

/-- The characters add the tokens and leave no word open. -/
def Ends (cs : List Char) (added : List Token) : Prop :=
  ∀ before, cs.foldlM step? (.between, before) = some (.between, added.reverse ++ before)

/-- Text that ends in whole tokens is scanned to those tokens. -/
theorem Ends.scans {cs : List Char} {added : List Token} (h : Ends cs added) : Scans cs added :=
  fun before => ⟨_, h before, .between _⟩

/-- Texts that end in whole tokens are put together. -/
theorem Ends.append {cs cs' : List Char} {added added' : List Token} (h : Ends cs added)
    (h' : Ends cs' added') : Ends (cs ++ cs') (added ++ added') := by
  intro before
  rw [List.foldlM_append, h before, List.reverse_append, List.append_assoc]
  exact h' _

/-- The last of the texts may leave its token open. -/
theorem Ends.append_scans {cs cs' : List Char} {added added' : List Token} (h : Ends cs added)
    (h' : Scans cs' added') : Scans (cs ++ cs') (added ++ added') := by
  intro before
  rw [List.foldlM_append, h before, List.reverse_append, List.append_assoc]
  exact h' _

/-- A character that is a token of its own ends the word before it. -/
theorem step?_of_settled {state : Place × List Token} {tokens : List Token} {c : Char}
    {token : Token} (h : Settled state tokens) (hc : Token.ofChar? c = some token) :
    step? state c = some (.between, token :: tokens) := by
  cases h with
  | between => simp [step?, stepBetween, hc]
  | word ended => simp [step?, stepBetween, hc, ended]

/-- A mark ends the token that is open. -/
theorem Scans.token {cs : List Char} {added : List Token} {c : Char} {token : Token}
    (h : Scans cs added) (hc : Token.ofChar? c = some token) :
    Ends (cs ++ [c]) (added ++ [token]) := by
  intro before
  obtain ⟨state, hstate, hsettled⟩ := h before
  rw [List.foldlM_append, hstate]
  simp [step?_of_settled hsettled hc]

theorem ends_token {c : Char} {token : Token} (hc : Token.ofChar? c = some token) :
    Ends [c] [token] := by
  intro before
  simp [step?_of_settled (.between before) hc]

/-- The whole text is cut into the tokens that its characters add. -/
theorem Scans.tokens? {cs : List Char} {added : List Token} (h : Scans cs added) :
    tokens? cs = some added := by
  obtain ⟨state, hstate, hsettled⟩ := h []
  rw [List.append_nil] at hsettled
  cases hsettled with
  | between => simp [Json.tokens?, hstate]
  | word ended => simp [Json.tokens?, hstate, ended]

-- ---------------------------------------------------------------------------
-- Containers
-- ---------------------------------------------------------------------------

section Containers

variable {α : Type} {text : α → List Char} {tokens : α → List Token}

/-- Items with commas between them are scanned one after the other. -/
theorem scans_separated {as : List α} (hne : as ≠ [])
    (h : ∀ a ∈ as, Scans (text a) (tokens a)) :
    Scans ([','].intercalate (as.map text)) ([.comma].intercalate (as.map tokens)) := by
  induction as with
  | nil => exact absurd rfl hne
  | cons a rest ih =>
    have ha : Scans (text a) (tokens a) := h a List.mem_cons_self
    cases rest with
    | nil => simpa using ha
    | cons b rest =>
      have hrest := ih (List.cons_ne_nil b rest) fun a' h' => h a' (List.mem_cons_of_mem a h')
      simp only [List.map_cons, List.intercalate_cons_cons] at hrest ⊢
      exact (ha.token rfl).append_scans hrest

/-- What is enclosed may be nothing. -/
theorem ends_enclosed (opening closing : Char) {as : List α} {first last : Token}
    (ho : Token.ofChar? opening = some first) (hc : Token.ofChar? closing = some last)
    (h : ∀ a ∈ as, Scans (text a) (tokens a)) :
    Ends (opening :: [','].intercalate (as.map text) ++ [closing])
      (first :: [.comma].intercalate (as.map tokens) ++ [last]) := by
  by_cases hne : as = []
  · subst hne
    exact (ends_token ho).append (ends_token hc)
  · exact ((ends_token ho).append_scans (scans_separated hne h)).token hc

end Containers

-- ---------------------------------------------------------------------------
-- Words
-- ---------------------------------------------------------------------------

/-- Whether the character goes on with a word. -/
def isWordChar (c : Char) : Bool :=
  !isSpace c && c != '"' && (Token.ofChar? c).isNone

/-- The characters of a word are gathered, the last one first. -/
theorem foldlM_step?_word {cs : List Char} (h : ∀ c ∈ cs, isWordChar c = true) (chars : List Char)
    (before : List Token) :
    cs.foldlM step? (.word chars, before) = some (.word (cs.reverse ++ chars), before) := by
  induction cs generalizing chars with
  | nil => rfl
  | cons c cs ih =>
    have hc : isWordChar c = true := h c List.mem_cons_self
    have hstep : step? (.word chars, before) c = some (.word (c :: chars), before) := by
      simp only [isWordChar, Bool.and_eq_true, Bool.not_eq_true', bne_iff_ne,
        Option.isNone_iff_eq_none] at hc
      simp [step?, hc]
    rw [List.foldlM_cons, hstep]
    simpa using ih (fun d hd => h d (List.mem_cons_of_mem c hd)) (c :: chars)

/-- A word that can be read is scanned to its value. -/
theorem scans_word {cs : List Char} {v : Value} (hne : cs ≠ [])
    (h : cs.all isWordChar = true) (hread : readWord? (String.ofList cs) = some v) :
    Scans cs [.value v] := by
  intro before
  rw [List.all_eq_true] at h
  cases cs with
  | nil => exact absurd rfl hne
  | cons c cs =>
    have hc : isWordChar c = true := h c List.mem_cons_self
    -- the first character begins a word, and the others belong to it
    have hstep : step? (.between, before) c = some (.word [c], before) := by
      simp only [isWordChar, Bool.and_eq_true, Bool.not_eq_true', bne_iff_ne,
        Option.isNone_iff_eq_none] at hc
      simp [step?, stepBetween, hc]
    refine ⟨(.word (cs.reverse ++ [c]), before), ?_, .word ?_⟩
    · rw [List.foldlM_cons, hstep]
      exact foldlM_step?_word (fun d hd => h d (List.mem_cons_of_mem c hd)) [c] before
    · rw [endWord?, List.reverse_append, List.reverse_reverse, List.reverse_singleton,
        List.singleton_append, hread]
      rfl

-- ---------------------------------------------------------------------------
-- Integers
-- ---------------------------------------------------------------------------

theorem isWordChar_of_isDigit {c : Char} (h : c.isDigit = true) : isWordChar c = true := by
  have hne : ∀ d : Char, d.isDigit = false → c ≠ d := by
    rintro d hd rfl
    rw [h] at hd
    cases hd
  have hspace : isSpace c = false := by
    simp [isSpace, hne ' ' (by decide), hne '\t' (by decide), hne '\n' (by decide),
      hne '\r' (by decide)]
  have htoken : Token.ofChar? c = none := by
    unfold Token.ofChar?
    split <;> first | rfl | exact absurd h (by decide)
  simp [isWordChar, hspace, htoken, hne '"' (by decide)]

/-- Only the numeral of zero begins with a zero. -/
theorem head?_toDigits {n : Nat} (h : 0 < n) : (Nat.toDigits 10 n).head? ≠ some '0' := by
  induction n using Nat.strongRecOn with
  | _ n ih =>
    by_cases hn : n < 10
    · have hdigit : ∀ k < 10, 0 < k → [k.digitChar].head? ≠ some '0' := by decide
      rw [Nat.toDigits_of_lt_base hn]
      exact hdigit n hn h
    · have hhigh := ih (n / 10) (Nat.div_lt_self h (by decide))
        (Nat.div_pos (Nat.le_of_not_lt hn) (by decide))
      rw [Nat.toDigits_of_base_le (by decide) (Nat.le_of_not_lt hn), List.head?_append]
      rw [List.head?_eq_some_head Nat.toDigits_ne_nil] at hhigh ⊢
      exact hhigh

/-- The numeral of a number is read as the number, unless it is a zero with a sign. -/
theorem readNumber?_repr (negative : Bool) (n : Nat) (h : negative = true → 0 < n) :
    readNumber? negative n.repr.toList = some (.integer (if negative then -n else n)) := by
  have hdigits : ∀ c ∈ n.repr.toList, c.isDigit = true := fun c hc => Text.isDigit_of_mem_repr hc
  have hwhole : n.repr.toList.takeWhile Char.isDigit = n.repr.toList := by
    rw [List.takeWhile_eq_self_iff]
    exact hdigits
  have hrest : n.repr.toList.dropWhile Char.isDigit = [] := by
    rw [List.dropWhile_eq_nil_iff]
    exact hdigits
  have hvalid : isDigits n.repr.toList = true := by
    simp only [isDigits, Bool.and_eq_true, List.all_eq_true]
    exact ⟨by simp [Nat.toList_repr, Nat.toDigits_ne_nil], hdigits⟩
  -- no numeral but that of zero begins with a zero
  have hzero : (n.repr.toList.length ≠ 1 && n.repr.toList.head? = some '0') = false := by
    rcases Nat.eq_zero_or_pos n with rfl | hpos
    · rfl
    · have hhead := head?_toDigits hpos
      rw [← Nat.toList_repr] at hhead
      rw [decide_eq_false hhead, Bool.and_false]
  simp only [readNumber?, hwhole, hrest, hvalid, hzero, Text.digits?_repr, Bool.not_true,
    Bool.or_false, Bool.false_eq_true, if_false, List.isEmpty_nil, if_true]
  cases negative with
  | false => rfl
  | true =>
    cases n with
    | zero => exact absurd (h rfl) (Nat.lt_irrefl 0)
    | succ n => rfl

/-- A word of digits, with or without a sign, is a number. -/
theorem readWord?_of_digits {cs : List Char} (negative : Bool)
    (h : ∀ c ∈ cs, c.isDigit = true) :
    readWord? (String.ofList (if negative then '-' :: cs else cs)) = readNumber? negative cs := by
  have hchars : ∀ c ∈ if negative then '-' :: cs else cs, c.isDigit = true ∨ c = '-' := by
    cases negative with
    | false => exact fun c hc => .inl (h c hc)
    | true => exact fun c hc => (List.mem_cons.mp hc).symm.imp (h c) id
  -- each of the three names has a letter that is no digit
  have hother {word : String} {c : Char} (hc : c ∈ word.toList)
      (hn : ¬ (c.isDigit = true ∨ c = '-')) :
      String.ofList (if negative then '-' :: cs else cs) ≠ word := by
    rintro rfl
    exact hn (hchars c (by simpa only [String.toList_ofList] using hc))
  unfold readWord?
  split
  · rename_i hword
    exact absurd hword (hother (show 'n' ∈ "null".toList by decide) (by decide))
  · rename_i hword
    exact absurd hword (hother (show 't' ∈ "true".toList by decide) (by decide))
  · rename_i hword
    exact absurd hword (hother (show 'f' ∈ "false".toList by decide) (by decide))
  · rw [String.toList_ofList]
    cases negative with
    | true => rfl
    | false =>
      simp only [Bool.false_eq_true, if_false]
      split
      · exact absurd (h '-' List.mem_cons_self) (by decide)
      · rfl

/-- The numeral of a number, with or without a sign, is a word. -/
theorem scans_numeral (negative : Bool) (n : Nat) (h : negative = true → 0 < n) :
    Scans (if negative then '-' :: n.repr.toList else n.repr.toList)
      [.value (.integer (if negative then -n else n))] := by
  have hdigits : ∀ c ∈ n.repr.toList, c.isDigit = true := fun c hc => Text.isDigit_of_mem_repr hc
  refine scans_word ?_ ?_ ?_
  · cases negative with
    | true => exact List.cons_ne_nil _ _
    | false => simp [Nat.toList_repr, Nat.toDigits_ne_nil]
  · have hnumeral : ∀ c ∈ n.repr.toList, isWordChar c = true :=
      fun c hc => isWordChar_of_isDigit (hdigits c hc)
    rw [List.all_eq_true]
    cases negative with
    | true => exact List.forall_mem_cons.mpr ⟨by decide, hnumeral⟩
    | false => exact hnumeral
  · rw [readWord?_of_digits negative hdigits, readNumber?_repr negative n h]

/-- So an integer is scanned to its value. -/
theorem scans_integer (n : Int) : Scans (toString n).toList [.value (.integer n)] := by
  rw [Int.toString_eq_repr, Int.repr_eq_if]
  split
  · rename_i hn
    simpa [Int.toNat_of_nonneg hn] using scans_numeral false n.toNat nofun
  · rename_i hn
    have hpos : 0 < (-n).toNat := by omega
    have hvalue : -((-n).toNat : Int) = n := by omega
    have hnumeral := scans_numeral true (-n).toNat fun _ => hpos
    rw [if_pos rfl, if_pos rfl, hvalue] at hnumeral
    rwa [String.toList_append]

-- ---------------------------------------------------------------------------
-- Strings
-- ---------------------------------------------------------------------------

theorem hexValue?_hexDigit : ∀ k < 16, Text.hexValue? (Text.hexDigit k) = some k := by
  decide

/-- The four digits of an escaped unit are read back. -/
theorem numeral?_unitDigits {n : Nat} (h : n < 65536) :
    Text.numeral? 16 (unitDigits n) = some n := by
  have hdigit (k : Nat) : Text.hexValue? (Text.hexDigit (k % 16)) = some (k % 16) :=
    hexValue?_hexDigit _ (Nat.mod_lt _ (by decide))
  have hbound (k : Nat) : k % 16 < 16 := Nat.mod_lt _ (by decide)
  simp only [Text.numeral?, unitDigits, List.map_cons, List.map_nil, List.isEmpty_cons,
    Bool.false_eq_true, if_false, List.foldl_cons, List.foldl_nil, Option.bind_some, hdigit,
    Option.filter_some, hbound, decide_true, if_true, Option.map_some]
  rw [Option.some.injEq]
  omega

/-- What is written for a character of a string is read as the character. -/
theorem foldlM_charText (c : Char) (chars : List Char) (before : List Token) :
    (charText c).foldlM step? (.string chars none, before) =
      some (.string (c :: chars) none, before) := by
  unfold charText
  -- quotes and backslashes, then what is written by its code, then the others
  split
  · rename_i hc
    simp only [Bool.or_eq_true, beq_iff_eq] at hc
    rcases hc with rfl | rfl <;> rfl
  · rename_i hquote
    simp only [Bool.or_eq_true, beq_iff_eq, not_or] at hquote
    split
    · -- A code unit. All escaped characters are far below the halves of pairs.
      rename_i hescaped
      have hlow : c.toNat < 0x3000 := by
        simp only [isEscaped, Bool.or_eq_true, decide_eq_true_eq, beq_iff_eq] at hescaped
        omega
      have hunit : addUnit? chars none c.toNat = some (.string (c :: chars) none) := by
        have hfirst : ¬ 0xD800 ≤ c.toNat := by omega
        have hsecond : ¬ 0xDC00 ≤ c.toNat := by omega
        simp [addUnit?, hfirst, hsecond, Char.ofNat_toNat]
      have hnumeral := numeral?_unitDigits (Nat.lt_trans hlow (by decide))
      simp only [unitDigits, List.map_cons, List.map_nil] at hnumeral ⊢
      simp [step?, hnumeral, hunit]
    · rename_i hplain
      simp only [isEscaped, Bool.or_eq_true, decide_eq_true_eq, beq_iff_eq, not_or] at hplain
      have hhigh : ¬ c.toNat < 0x20 := hplain.1.1.1.1
      simp [step?, hquote, hhigh]

/-- The characters of a string are read back, escaped or not. -/
theorem foldlM_charTexts (cs chars : List Char) (before : List Token) :
    (cs.flatMap charText).foldlM step? (.string chars none, before) =
      some (.string (cs.reverse ++ chars) none, before) := by
  induction cs generalizing chars with
  | nil => rfl
  | cons c cs ih =>
    rw [List.flatMap_cons, List.foldlM_append, foldlM_charText]
    simpa using ih (c :: chars)

/-- So a string is scanned to its value. -/
theorem ends_string (s : String) : Ends (stringText s).toList [.value (.string s)] := by
  intro before
  have hopen : step? (.between, before) '"' = some (.string [] none, before) := rfl
  have hclose : step? (.string (s.toList.reverse ++ []) none, before) '"' =
      some (.between, .value (.string s) :: before) := by
    simp [step?]
  simp only [stringText, String.toList_append, String.toList_ofList]
  rw [show "\"".toList = ['"'] from rfl, List.foldlM_append, List.singleton_append,
    List.foldlM_cons, hopen]
  simp only [Option.bind_eq_bind, Option.bind_some]
  rw [foldlM_charTexts]
  simpa using hclose

-- ---------------------------------------------------------------------------
-- Values
-- ---------------------------------------------------------------------------

/-- What is written for a value adds the tokens of the value. -/
theorem scans_text {v : Value} (h : v.Integral) : Scans v.text.toList v.tokens := by
  induction h with
  | null => exact scans_word (by decide) rfl rfl
  | bool b => cases b <;> exact scans_word (by decide) rfl rfl
  | integer n => exact scans_integer n
  | string s => exact (ends_string s).scans
  | @array items _ ih =>
    have h := ends_enclosed '[' ']' rfl rfl ih
    simp only [Value.text, Value.tokens, itemTexts_eq_map, itemTokens_eq_map,
      String.toList_append, String.toList_intercalate, List.map_map]
    exact h.scans
  | @object members _ ih =>
    -- the name with its colon ends by itself, so that the value can follow it
    have hmember : ∀ m ∈ members, Scans (stringText m.1 ++ ":" ++ m.2.text).toList
        (.value (.string m.1) :: .colon :: m.2.tokens) := by
      intro m hm
      simp only [String.toList_append]
      exact ((ends_string m.1).append (ends_token rfl)).append_scans (ih m hm)
    have h := ends_enclosed '\x7b' '\x7d' rfl rfl hmember
    simp only [Value.text, Value.tokens, memberTexts_eq_map, memberTokens_eq_map,
      String.toList_append, String.toList_intercalate, List.map_map]
    exact h.scans

end RobotWeb.Json
