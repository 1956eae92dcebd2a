import Mathlib.Data.List.Basic
import Mathlib.Data.List.TakeWhile
import RobotWeb.Proofs.Text.Numeral
import RobotWeb.Proofs.Text.Split
import RobotWeb.Proofs.Text.Utf8
import RobotWeb.Url.Parser

/-!
# Authorities that are read

What an authority of a special scheme is made of, if it can be read. The last at sign ends the
credentials, and a number with a colon before it, at the end, is the port: no host that can be read
has that colon.

* `Percent.mem_decodeFrom` — a character that takes part in no escape stays.
* `domainHost_ne_ok`       — a colon is no part of a domain name.
* `hostAndPort_join`       — the port is the number at the end.
* `readAuthority_eq_ok`    — the parts of an authority.
* `credentials_eq_none`    — which credentials are none.
-/

namespace RobotWeb

namespace Text.Percent

/-- An escape is a percent sign with two digits. -/
theorem escaped?_eq_some {cs : List Char} {b : UInt8} (h : escaped? cs = some b) :
    ∃ high low rest, cs = '%' :: high :: low :: rest ∧ (hexValue? high).isSome = true ∧
      (hexValue? low).isSome = true := by
  unfold escaped? at h
  split at h
  · rename_i high low rest
    simp only [Option.bind_eq_bind, Option.bind_eq_some_iff] at h
    obtain ⟨n, hhigh, m, hlow, -⟩ := h
    exact ⟨high, low, rest, rfl, by rw [hhigh]; rfl, by rw [hlow]; rfl⟩
  · cases h

/-- A character that takes part in no escape stays what it is. -/
theorem mem_decodeFrom {c : Char} (hmark : c ≠ '%') (hdigit : hexValue? c = none) {b : UInt8}
    (hb : b ∈ String.utf8EncodeChar c) {skip : Nat} {cs : List Char} (h : c ∈ cs.drop skip) :
    b ∈ decodeFrom skip cs := by
  -- over the text; the two characters behind a percent sign are skipped with it
  induction cs generalizing skip with
  | nil => simp at h
  | cons d cs ih =>
    cases skip with
    | succ skip => exact ih h
    | zero =>
      rw [decodeFrom]
      cases hescaped : escaped? (d :: cs) with
      | some byte =>
        obtain ⟨high, low, rest, heq, hhigh, hlow⟩ := escaped?_eq_some hescaped
        obtain ⟨rfl, rfl⟩ := List.cons.inj heq
        have hrest : c ∈ rest := by
          have hne (d : Char) (hd : (hexValue? d).isSome = true) : c ≠ d := by
            rintro rfl
            simp [hdigit] at hd
          simpa [hmark, hne high hhigh, hne low hlow] using h
        exact List.mem_cons_of_mem _ (ih hrest)
      | none =>
        rcases List.mem_cons.mp h with rfl | hmem
        · exact List.mem_append_left _ hb
        · exact List.mem_append_right _ (ih hmem)

end Text.Percent

namespace Url

/-- A colon is no part of a domain name. -/
theorem domainHost_ne_ok {cs : List Char} {host : Host} (hcolon : ':' ∈ cs)
    (hlast : cs.getLast? ≠ some ']') : domainHost cs ≠ .ok host := by
  intro h
  unfold domainHost at h
  split at h
  · rename_i result hbracketed
    unfold bracketed? at hbracketed
    split at hbracketed
    · rename_i rest
      split at hbracketed
      · rename_i inside hinside
        have heq := List.reverse_eq_iff.mp hinside
        rw [heq, List.reverse_cons, ← List.cons_append, List.getLast?_concat] at hlast
        exact absurd rfl hlast
      · obtain rfl := Option.some.inj hbracketed
        cases h
    · cases hbracketed
  · split at h
    · cases h
    · rename_i decoded hdecoded
      -- a colon takes part in no escape, so that it is left when the escapes are decoded
      have hbyte : UInt8.ofNat (':' : Char).toNat ∈ Text.Percent.decode cs :=
        Text.Percent.mem_decodeFrom (by decide) (by decide) (by decide) hcolon
      rw [Text.Utf8.decode?_eq_some.mp hdecoded] at hbyte
      have hmem := Text.Utf8.mem_of_mem_encode (by decide) hbyte
      have hforbidden : (decoded.map Char.toLower).any isForbiddenInDomain = true :=
        List.any_eq_true.mpr ⟨':', List.mem_map.mpr ⟨':', hmem, by decide⟩, by decide⟩
      simp only [hforbidden, if_true] at h
      cases h

-- ---------------------------------------------------------------------------
-- Hosts and ports
-- ---------------------------------------------------------------------------

/-- The host is cut off at a colon, or it is all of the text. -/
theorem hostAndRest_eq {inBrackets : Bool} {cs host rest : List Char}
    (h : hostAndRest inBrackets cs = (host, rest)) :
    cs = host ++ rest ∧ (rest = [] ∨ ∃ port, rest = ':' :: port) := by
  -- over the text, whether inside of brackets or not
  induction cs generalizing inBrackets host with
  | nil =>
    obtain ⟨rfl, rfl⟩ := Prod.mk.inj h
    exact ⟨rfl, .inl rfl⟩
  | cons c cs ih =>
    rw [hostAndRest] at h
    split at h
    · rename_i hcolon
      obtain ⟨rfl, rfl⟩ := Prod.mk.inj h
      simp only [Bool.and_eq_true, decide_eq_true_eq] at hcolon
      exact ⟨rfl, .inr ⟨cs, by rw [hcolon.1]⟩⟩
    · obtain ⟨⟨host', rest'⟩, hmore⟩ : ∃ r, hostAndRest (if c = '[' then true
        else if c = ']' then false else inBrackets) cs = r := ⟨_, rfl⟩
      simp only [hmore] at h
      obtain ⟨rfl, rfl⟩ := Prod.mk.inj h
      obtain ⟨rfl, hrest⟩ := ih hmore
      exact ⟨rfl, hrest⟩

/-- A port is a number, and the one of the scheme is left out. -/
theorem portNumber_eq_ok {scheme : String} {cs : List Char} {port? : Option Nat} (hne : cs ≠ [])
    (h : portNumber scheme cs = .ok port?) :
    ∃ n, Text.digits? cs = some n ∧
      port? = if defaultPort? scheme = some n then none else some n := by
  unfold portNumber at h
  rw [if_neg (by simpa using hne)] at h
  split at h
  · cases h
  · rename_i n hn
    split at h
    · exact ⟨n, hn, (Except.ok.inj h).symm⟩
    · cases h

/-- The host, and what stands behind the colon that ends it. The text of an authority holds no
backslash, since that would end it. -/
theorem hostAndPort_eq_ok {scheme : String} {cs left : List Char} {host : Host}
    {port? : Option Nat} (hspecial : (SchemeKind.ofScheme scheme).isSpecial = true)
    (hcs : '\\' ∉ cs) (h : hostAndPort scheme cs = .ok (host, port?, left)) :
    ∃ hostChars rest, hostAndRest false cs = (hostChars, rest) ∧ domainHost hostChars = .ok host ∧
      portNumber scheme (rest.drop 1) = .ok port? ∧ left = [] := by
  obtain ⟨⟨hostChars, rest⟩, hcut⟩ : ∃ r, hostAndRest false cs = r := ⟨_, rfl⟩
  -- the port ends at a backslash, and there is none
  have hkept : ∀ c ∈ rest.drop 1, (c != '\\') = true := by
    intro c hc
    rw [bne_iff_ne]
    rintro rfl
    exact hcs ((hostAndRest_eq hcut).1 ▸ List.mem_append_right _ (List.mem_of_mem_drop hc))
  refine ⟨hostChars, rest, hcut, ?_⟩
  unfold hostAndPort at h
  simp only [hcut, hspecial, if_true, List.takeWhile_eq_self_iff.mpr hkept,
    List.dropWhile_eq_nil_iff.mpr hkept] at h
  split at h
  · cases h
  · obtain ⟨host', hhost, h⟩ := exists_ok_of_bind h
    obtain ⟨port', hport, h⟩ := exists_ok_of_bind h
    cases h
    exact ⟨hhost, hport, rfl⟩

theorem not_mem_of_isDigit {digits : List Char} (h : ∀ c ∈ digits, c.isDigit = true) {c : Char}
    (hc : c.isDigit = false) : c ∉ digits := by
  intro hmem
  rw [h c hmem] at hc
  cases hc

/-- A number with a colon before it, at the end of an authority, is its port and nothing else. -/
theorem hostAndPort_join {scheme : String} {cs digits left : List Char} {host : Host}
    {port? : Option Nat} (hspecial : (SchemeKind.ofScheme scheme).isSpecial = true)
    (hdigits : ∀ c ∈ digits, c.isDigit = true) (hne : digits ≠ []) (hcs : '\\' ∉ cs)
    (h : hostAndPort scheme (cs ++ ':' :: digits) = .ok (host, port?, left)) :
    domainHost cs = .ok host ∧ portNumber scheme digits = .ok port? ∧ left = [] := by
  have hnot {c : Char} (hc : c.isDigit = false) : c ∉ digits := not_mem_of_isDigit hdigits hc
  obtain ⟨hostChars, rest, hcut, hhost, hport, hleft⟩ := hostAndPort_eq_ok hspecial
    (by simpa [hcs] using hnot (c := '\\') (by decide)) h
  obtain ⟨heq, rfl | ⟨port, rfl⟩⟩ := hostAndRest_eq hcut
  · -- the colon would be part of the host
    rw [List.append_nil] at heq
    refine absurd hhost (domainHost_ne_ok (by simp [← heq]) fun hlast => ?_)
    rw [← heq, List.getLast?_append_of_ne_nil _ (by simp),
      List.getLast?_cons_of_ne_nil hne] at hlast
    exact hnot (by decide) (List.mem_of_getLast? hlast)
  · -- a colon in the number would keep it from being one
    rw [List.drop_one, List.tail_cons] at hport
    have hcolon : ':' ∉ port := by
      intro hmem
      obtain ⟨n, hn, -⟩ := portNumber_eq_ok (List.ne_nil_of_mem hmem) hport
      cases (Text.digits?_eq_some.mp hn).2.1 _ hmem
    have hsame := congrArg (Text.splitLast? ':') heq
    rw [Text.splitLast?_join (hnot (by decide)), Text.splitLast?_join hcolon] at hsame
    obtain ⟨rfl, rfl⟩ : cs = hostChars ∧ digits = port := by simpa using hsame
    exact ⟨hhost, hport, hleft⟩

/-- The authority ends at the first slash, and the credentials in it at the last at sign. -/
theorem readAuthority_eq_ok {scheme : String} {more : Bool} {cs path : List Char} {a : Authority}
    (hspecial : (SchemeKind.ofScheme scheme).isSpecial = true)
    (h : readAuthority scheme more cs = .ok (a, path)) :
    ∃ place left, hostAndPort scheme place = .ok (a.host, a.port, left) ∧ '\\' ∉ place ∧
      path = cs.dropWhile (!isSlash ·) ∧
      ((Text.splitLast? '@' (cs.takeWhile (!isSlash ·)) = none ∧
          place = cs.takeWhile (!isSlash ·) ∧ a.username = "" ∧ a.password = none) ∨
        ∃ who, Text.splitLast? '@' (cs.takeWhile (!isSlash ·)) = some (who, place) ∧
          credentials who = (a.username, a.password)) := by
  -- in a scheme of the web a backslash ends the authority as a slash does
  have hslash : (fun c => !(c == '/' || (c == '\\' && (SchemeKind.ofScheme scheme).isSpecial))) =
      (!isSlash ·) := by
    funext c
    rw [hspecial, Bool.and_true, isSlash]
  have hback : '\\' ∉ cs.takeWhile (!isSlash ·) := fun hmem => by
    cases List.mem_takeWhile_imp hmem
  -- once the credentials are cut off, both ways go on alike
  have hplace {username : String} {password : Option String} {place : List Char}
      (hkept : '\\' ∉ place)
      (h : (do
        let r ← hostAndPort scheme place
        if r.1 = .name "" && (username ≠ "" || password.isSome) then throw .emptyHost
        return ((⟨username, password, r.1, r.2.1⟩ : Authority),
          r.2.2 ++ cs.dropWhile (!isSlash ·))) = Except.ok (a, path)) :
      ∃ left, hostAndPort scheme place = .ok (a.host, a.port, left) ∧
        path = cs.dropWhile (!isSlash ·) ∧ a.username = username ∧ a.password = password := by
    obtain ⟨⟨host, port, left⟩, hread, h⟩ := exists_ok_of_bind h
    obtain ⟨-, -, -, -, -, rfl⟩ := hostAndPort_eq_ok hspecial hkept hread
    dsimp only at h
    split at h
    · cases h
    · cases h
      exact ⟨[], hread, rfl, rfl, rfl⟩
  unfold readAuthority at h
  simp only [hslash] at h
  split at h
  · rename_i hnone
    obtain ⟨left, hread, hpath, husername, hpassword⟩ := hplace hback h
    exact ⟨_, left, hread, hback, hpath, .inl ⟨hnone, rfl, husername, hpassword⟩⟩
  · rename_i who place hsome
    have hkept : '\\' ∉ place := fun hmem =>
      hback ((Text.splitLast?_eq_some hsome).1 ▸ by simp [hmem])
    split at h
    · cases h
    · obtain ⟨left, hread, hpath, husername, hpassword⟩ := hplace hkept h
      exact ⟨place, left, hread, hkept, hpath, .inr ⟨who, hsome, by rw [husername, hpassword]⟩⟩

-- ---------------------------------------------------------------------------
-- Credentials
-- ---------------------------------------------------------------------------

/-- Escaping makes no text empty. -/
theorem escaped_eq_empty {reserved : Char → Bool} {cs : List Char} :
    escaped reserved cs = "" ↔ cs = [] := by
  constructor
  · intro h
    cases cs with
    | nil => rfl
    | cons c cs =>
      have hnil : Text.Percent.encode reserved (c :: cs) = [] := String.ofList_eq_empty_iff.mp h
      rw [Text.Percent.encode, List.flatMap_cons, List.append_eq_nil_iff] at hnil
      have hfirst := hnil.1
      split at hfirst
      · cases hfirst
      · cases hbytes : String.utf8EncodeChar c with
        | nil => exact absurd hbytes String.utf8EncodeChar_ne_nil
        | cons b bytes => simp [hbytes, Text.Percent.escape] at hfirst
  · rintro rfl
    rfl

/-- There is neither a name nor a password if nothing but a colon may stand before the at sign. -/
theorem credentials_eq_none {cs : List Char} :
    credentials cs = ("", none) ↔ cs = [] ∨ cs = [':'] := by
  unfold credentials
  -- with a colon the name is what stands before it, else it is all
  split
  · rename_i hnone
    have hne : cs ≠ [':'] := by
      rintro rfl
      cases hnone
    simp [escaped_eq_empty, hne]
  · rename_i username password hsome
    obtain ⟨rfl, -⟩ := Text.splitFirst?_eq_some hsome
    constructor
    · intro h
      obtain ⟨husername, hpassword⟩ := Prod.mk.inj h
      obtain rfl := escaped_eq_empty.mp husername
      split at hpassword
      · rename_i hempty
        exact .inr (by rw [List.isEmpty_iff.mp hempty, List.nil_append])
      · cases hpassword
    · rintro (h | h)
      · simp at h
      · obtain ⟨rfl, rfl⟩ : username = [] ∧ password = [] := by
          cases username with
          | nil => simpa using h
          | cons c username => simp at h
        rfl

-- ---------------------------------------------------------------------------
-- Authorities that end in a number
-- ---------------------------------------------------------------------------

section

variable {scheme : String} {more : Bool} {text digits path : List Char} {a : Authority}

theorem isSlash_of_isDigit {c : Char} (h : c.isDigit = true) : isSlash c = false := by
  rw [isSlash, Bool.or_eq_false_iff, beq_eq_false_iff_ne, beq_eq_false_iff_ne]
  constructor <;> (rintro rfl; cases h)

/-- A slash in the text takes the place of the one behind the number. -/
theorem readAuthority_of_slash (hspecial : (SchemeKind.ofScheme scheme).isSpecial = true)
    (hslash : ∃ c ∈ text, isSlash c = true)
    (h : readAuthority scheme more (text ++ ':' :: (digits ++ ['/'])) = .ok (a, path)) :
    ∃ slash rest, isSlash slash = true ∧ path = slash :: (rest ++ (':' :: digits) ++ ['/']) := by
  obtain ⟨-, -, -, -, rfl, -⟩ := readAuthority_eq_ok hspecial h
  cases hrest : text.dropWhile (!isSlash ·) with
  | nil =>
    obtain ⟨c, hmem, hc⟩ := hslash
    have hnone := List.dropWhile_eq_nil_iff.mp hrest c hmem
    simp [hc] at hnone
  | cons slash rest =>
    have hfound : isSlash slash = true := by
      have hhead := List.head?_dropWhile_not (!isSlash ·) text
      simpa [hrest] using hhead
    exact ⟨slash, rest, hfound, by simp [List.dropWhile_append, hrest]⟩

/-- Without a slash the number is the port, and what stands before the last at sign of the text are
the credentials. -/
theorem readAuthority_of_plain (hspecial : (SchemeKind.ofScheme scheme).isSpecial = true)
    (hdigits : ∀ c ∈ digits, c.isDigit = true) (hne : digits ≠ [])
    (hplain : ∀ c ∈ text, isSlash c = false)
    (h : readAuthority scheme more (text ++ ':' :: (digits ++ ['/'])) = .ok (a, path)) :
    ∃ place, domainHost place = .ok a.host ∧ portNumber scheme digits = .ok a.port ∧
      path = ['/'] ∧
      ((Text.splitLast? '@' text = none ∧ place = text ∧ a.username = "" ∧ a.password = none) ∨
        ∃ who, Text.splitLast? '@' text = some (who, place) ∧
          credentials who = (a.username, a.password)) := by
  have hnot {c : Char} (hc : c.isDigit = false) : c ∉ digits := not_mem_of_isDigit hdigits hc
  have hback : '\\' ∉ text := fun hmem => by cases hplain _ hmem
  -- no slash but the one at the end, so that the authority is all before it
  have hkept : ∀ c ∈ text ++ ':' :: digits, (!isSlash c) = true := by
    intro c hc
    rcases List.mem_append.mp hc with hc | hc
    · rw [hplain c hc]
      rfl
    · rcases List.mem_cons.mp hc with rfl | hc
      · rfl
      · rw [isSlash_of_isDigit (hdigits c hc)]
        rfl
  obtain ⟨place, left, hread, hplace, hpath, hwho⟩ := readAuthority_eq_ok hspecial h
  have hall : text ++ ':' :: (digits ++ ['/']) = (text ++ ':' :: digits) ++ ['/'] := by simp
  rw [hall, List.dropWhile_append_of_pos hkept] at hpath
  rw [hall, List.takeWhile_append_of_pos hkept, List.takeWhile_cons_of_neg (by decide),
    List.append_nil] at hwho
  -- the port has no at sign, so that the last one is the last one of the text
  cases hsplit : Text.splitLast? '@' text with
  | none =>
    have hwhole : Text.splitLast? '@' (text ++ ':' :: digits) = none := by
      rw [Text.splitLast?_eq_none] at hsplit ⊢
      simp [hsplit, hnot]
    rcases hwho with ⟨-, rfl, husername, hpassword⟩ | ⟨who, hsome, -⟩
    · obtain ⟨hhost, hport, -⟩ := hostAndPort_join hspecial hdigits hne hback hread
      exact ⟨text, hhost, hport, hpath, .inl ⟨rfl, rfl, husername, hpassword⟩⟩
    · cases hwhole.symm.trans hsome
  | some cut =>
    obtain ⟨who, inner⟩ := cut
    obtain ⟨rfl, hinner⟩ := Text.splitLast?_eq_some hsplit
    have hwhole : Text.splitLast? '@' ((who ++ '@' :: inner) ++ ':' :: digits) =
        some (who, inner ++ ':' :: digits) := by
      rw [List.append_assoc, List.cons_append]
      exact Text.splitLast?_join (by simp [hinner, hnot]) who
    rcases hwho with ⟨hnone, -⟩ | ⟨who', hsome, hcredentials⟩
    · cases hwhole.symm.trans hnone
    · obtain ⟨rfl, rfl⟩ : who = who' ∧ inner ++ ':' :: digits = place := by
        simpa using hwhole.symm.trans hsome
      obtain ⟨hhost, hport, -⟩ := hostAndPort_join hspecial hdigits hne
        (fun hmem => hback (by simp [hmem])) hread
      exact ⟨inner, hhost, hport, hpath, .inr ⟨who, rfl, hcredentials⟩⟩

end

end Url

end RobotWeb
