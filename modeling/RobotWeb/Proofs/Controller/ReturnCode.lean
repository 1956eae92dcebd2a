import RobotWeb.Controller.ReturnCode
import RobotWeb.Proofs.Http.LastAnswer
import RobotWeb.Proofs.Markup.Document
import RobotWeb.Proofs.Page.Field
import RobotWeb.Proofs.Text.Numeral

/-!
# Which description of a return code is read

A page may hold several descriptions, and texts outside of them. What is read is the first
description in document order, and of each text in it the first one.

* `ToldBy`, `CodeIn` — what a tree has to hold for a description and for its code.
* `ofElement_eq_ok`  — which description an element is read as.
* `ofPage_of_told`   — a description that is told is read.
* `exists_ofPage`    — a description is read if its code is an integer of 32 bits.
* `first_description_is_read` — what a lookup gives.
-/

namespace RobotWeb

open Http (Client LastAnswer)
open Markup (Element)

namespace ReturnCode

-- ---------------------------------------------------------------------------
-- Descriptions in a tree
-- ---------------------------------------------------------------------------

/-- No text of the description has blank characters at its ends. -/
def Trimmed (r : ReturnCode) : Prop :=
  Text.trim r.name = r.name ∧ Text.trim r.severity = r.severity ∧
    Text.trim r.description = r.description

/-- The element tells the description: each of its texts is in the first element of its class, the
code as a numeral. -/
structure ToldBy (r : ReturnCode) (e : Element) : Prop where
  code : e.Shows "code" (toString r.code.toInt)
  name : e.Shows "name" r.name
  severity : e.Shows "severity" r.severity
  description : e.Shows "description" r.description

/-- The first description in the tree has this code: an optional sign and digits that write it are
the text of its first field for a code. -/
def CodeIn (root : Element) (n : Int) : Prop :=
  ∃ e text, root.FirstOfClass "err-desc" e ∧ e.Holds "code" text ∧
    Text.WritesSigned text.toList n

-- ---------------------------------------------------------------------------
-- Reading
-- ---------------------------------------------------------------------------

variable {root e : Element} {r : ReturnCode} {body : String} {n : Int}

/-- The numeral of an integer has no blank characters. -/
theorem trim_numeral (n : Int) : Text.trim (toString n) = toString n := by
  have hstay : ∀ c ∈ (toString n).toList, Text.isBlank c = false := by
    intro c hc
    rcases (Text.writesSigned_toString n).mem hc with hdigit | rfl | rfl
    · have hrange : 48 ≤ c.toNat ∧ c.toNat ≤ 57 := by
        simpa [Char.isDigit, UInt32.le_iff_toNat_le] using hdigit
      simp [Text.isBlank]
      omega
    · decide
    · decide
  rw [Text.trim, Text.trimBy_eq_self hstay, String.ofList_toList]

/-- An integer of 32 bits is not wrapped. -/
theorem toInt_ofInt (hlow : Int32.minValue.toInt ≤ n) (hhigh : n ≤ Int32.maxValue.toInt) :
    (Int32.ofInt n).toInt = n := by
  have hmax : Int32.maxValue.toInt = 2 ^ 31 - 1 := by decide
  exact Int32.toInt_ofInt_of_le hlow (by omega)

/-- A text that is there is not replaced by the empty one. -/
theorem textOr_of_holds {className text : String} (h : e.Holds className text) :
    textOr e className = text := by
  rw [textOr, Element.textOfClass?_eq_some.mpr h, Option.getD_some]

/-- An element is a description if its code can be read; all other texts may be missing. -/
theorem ofElement_eq_ok :
    ofElement e = .ok r ↔
      (∃ text, e.Holds "code" text ∧ Text.WritesSigned text.toList r.code.toInt) ∧
        r.name = textOr e "name" ∧ r.severity = textOr e "severity" ∧
        r.description = textOr e "description" := by
  constructor
  · intro hok
    obtain ⟨text, htext, hrest⟩ := exists_ok_of_bind hok
    split at hrest
    · cases hrest
    · rename_i code hcode
      obtain ⟨hwrites, hlow, hhigh⟩ := Text.signed32?_eq_some.mp hcode
      obtain rfl := Except.ok.inj hrest
      refine ⟨⟨text, (Page.requireText_eq_ok.mp htext).1, ?_⟩, rfl, rfl, rfl⟩
      show Text.WritesSigned text.toList (Int32.ofInt code).toInt
      -- the number is in the range of 32 bits, so that it is not changed by them
      rwa [toInt_ofInt hlow hhigh]
  · rintro ⟨⟨text, hholds, hwrites⟩, hname, hseverity, hdescription⟩
    have hne : text ≠ "" := by
      rintro rfl
      exact hwrites.ne_nil rfl
    have hcode : Text.signed32? text = some r.code.toInt :=
      Text.signed32?_eq_some.mpr ⟨hwrites, r.code.minValue_le_toInt, r.code.toInt_le⟩
    have hrequired := Page.requireText_eq_ok.mpr ⟨hholds, hne⟩
    simp only [ofElement, hrequired, bind, Except.bind, hcode, Int32.ofInt_toInt, ← hname,
      ← hseverity, ← hdescription]
    rfl

/-- A page is read by its first element for a description, whatever others there are. -/
theorem ofPage_eq_ok :
    ofPage root body = .ok r ↔ ∃ e, root.FirstOfClass "err-desc" e ∧ ofElement e = .ok r := by
  unfold ofPage
  split
  · rename_i hnone
    refine ⟨nofun, fun ⟨e, he, _⟩ => ?_⟩
    rw [Element.head?_withClass_eq_some.mpr he] at hnone
    cases hnone
  · rename_i e he
    refine ⟨fun hok => ⟨e, Element.head?_withClass_eq_some.mp he, hok⟩, fun ⟨e', he', hok⟩ => ?_⟩
    rw [Element.head?_withClass_eq_some.mpr he'] at he
    rwa [← Option.some.inj he]

/-- A description that the first element of its class tells is read, whatever else is there. -/
theorem ofPage_of_told (htrim : r.Trimmed) (he : root.FirstOfClass "err-desc" e)
    (htold : r.ToldBy e) : ofPage root body = .ok r := by
  obtain ⟨hname, hseverity, hdescription⟩ := htrim
  refine ofPage_eq_ok.mpr ⟨e, he, ofElement_eq_ok.mpr ⟨?_, ?_, ?_, ?_⟩⟩
  · exact ⟨_, htold.code.holds (trim_numeral _), Text.writesSigned_toString _⟩
  · exact (textOr_of_holds (htold.name.holds hname)).symm
  · exact (textOr_of_holds (htold.severity.holds hseverity)).symm
  · exact (textOr_of_holds (htold.description.holds hdescription)).symm

/-- A description is read only if its code is an integer of 32 bits, and then with this code. -/
theorem exists_ofPage :
    (∃ r, ofPage root body = .ok r ∧ r.code.toInt = n) ↔
      CodeIn root n ∧ Int32.minValue.toInt ≤ n ∧ n ≤ Int32.maxValue.toInt := by
  constructor
  · rintro ⟨r, hok, rfl⟩
    obtain ⟨e, he, hread⟩ := ofPage_eq_ok.mp hok
    obtain ⟨⟨text, hholds, hwrites⟩, -⟩ := ofElement_eq_ok.mp hread
    exact ⟨⟨e, text, he, hholds, hwrites⟩, r.code.minValue_le_toInt, r.code.toInt_le⟩
  · rintro ⟨⟨e, text, he, hholds, hwrites⟩, hlow, hhigh⟩
    have hcode := toInt_ofInt hlow hhigh
    refine ⟨⟨Int32.ofInt n, textOr e "name", textOr e "severity", textOr e "description"⟩,
      ofPage_eq_ok.mpr ⟨e, he, ofElement_eq_ok.mpr ⟨⟨text, hholds, ?_⟩, rfl, rfl, rfl⟩⟩, hcode⟩
    rwa [hcode]

-- ---------------------------------------------------------------------------
-- Lookups
-- ---------------------------------------------------------------------------

/-- A lookup is one request, and reads the page of the answer to it. -/
theorem lookUp_eq (c : Client) (asked : Int32) :
    lookUp c asked =
      Call.reading (fun answer => do ofPage (← Page.parse answer.body) answer.body)
        (c.send .get ("/rw/retcode?code=" ++ toString asked.toInt) none [200]) := rfl

theorem parse_bind_ofPage_eq_ok {answer : Http.Answer} :
    (do ofPage (← Page.parse answer.body) answer.body) = .ok r ↔
      ∃ root, Page.parse answer.body = .ok root ∧ ofPage root answer.body = .ok r :=
  ⟨exists_ok_of_bind, fun ⟨root, hroot, hread⟩ => by rw [hroot]; exact hread⟩

/-- **The first description is read.** Whatever else a tree holds, before, around and after it, the
first element for a description is read, as the description that the first elements for its texts
tell, with any code of 32 bits. A tree is read only if there is such an element and the first text
for a code in it is an optional sign and digits, which write an integer of 32 bits; then this is the
code. So a lookup that is answered gives what the page of the answer tells, and fails with a
protocol error if the page is anything else.

The answers meant are all whose headers have arrived, and what is said of their pages is said of
whole ones: an answer whose body breaks off has no page and is a failed transport, whatever its
status. -/
theorem first_description_is_read :
    (∀ root body,
      (∀ e r, root.FirstOfClass "err-desc" e → r.ToldBy e → r.Trimmed →
        ofPage root body = .ok r) ∧
      ∀ n, (∃ r, ofPage root body = .ok r ∧ r.code.toInt = n) ↔
        CodeIn root n ∧ Int32.minValue.toInt ≤ n ∧ n ≤ Int32.maxValue.toInt) ∧
    ∀ c asked answer, LastAnswer c.network (lookUp c asked).2.network answer →
      (answer.isWhole = true → answer.status = 200 →
        (∀ root e r, Page.parse answer.body = .ok root → root.FirstOfClass "err-desc" e →
          r.ToldBy e → r.Trimmed → (lookUp c asked).1 = .ok r) ∧
        (∀ n, (∃ r, (lookUp c asked).1 = .ok r ∧ r.code.toInt = n) ↔
          ∃ root, Page.parse answer.body = .ok root ∧ CodeIn root n ∧
            Int32.minValue.toInt ≤ n ∧ n ≤ Int32.maxValue.toInt) ∧
        ∀ cause, (lookUp c asked).1 = .error cause → ∃ e, cause = .protocol e) ∧
      ∀ message, answer.bodyFault? = some message →
        (lookUp c asked).1 = .error (.transport message) := by
  constructor
  · intro root body
    exact ⟨fun e r he htold htrim => ofPage_of_told htrim he htold, fun n => exists_ofPage⟩
  intro c asked answer hlast
  rw [lookUp_eq] at hlast
  refine ⟨fun hwhole hstatus => ?_, fun message hbroken => ?_⟩
  case refine_2 =>
    rw [lookUp_eq]
    exact Call.reading_of_broken hlast hbroken
  have hread : (lookUp c asked).1 =
      (do ofPage (← Page.parse answer.body) answer.body).mapError .protocol := by
    rw [lookUp_eq]
    exact Call.reading_of_accepted hlast hwhole (by simp [hstatus])
  -- a look-up succeeds exactly if the page can be read and has a description
  have hok (r : ReturnCode) : (lookUp c asked).1 = .ok r ↔
      ∃ root, Page.parse answer.body = .ok root ∧ ofPage root answer.body = .ok r := by
    rw [hread, ← parse_bind_ofPage_eq_ok]
    cases (do ofPage (← Page.parse answer.body) answer.body) with
    | error e => exact iff_of_false nofun nofun
    | ok r' => exact ⟨fun h => congrArg Except.ok (Except.ok.inj h), fun h => h ▸ rfl⟩
  refine ⟨fun root e r hroot he htold htrim => ?_, fun n => ?_, fun cause hcause => ?_⟩
  · exact (hok r).mpr ⟨root, hroot, ofPage_of_told htrim he htold⟩
  · constructor
    · rintro ⟨r, hresult, hcode⟩
      obtain ⟨root, hroot, hpage⟩ := (hok r).mp hresult
      exact ⟨root, hroot, exists_ofPage.mp ⟨r, hpage, hcode⟩⟩
    · rintro ⟨root, hroot, hcode⟩
      obtain ⟨r, hpage, hr⟩ := exists_ofPage.mpr hcode
      exact ⟨r, (hok r).mpr ⟨root, hroot, hpage⟩, hr⟩
  · -- the answer was accepted, so that only its page can be at fault
    rw [hread] at hcause
    cases hpage : (do ofPage (← Page.parse answer.body) answer.body) with
    | error e =>
      rw [hpage] at hcause
      exact ⟨e, (Except.error.inj hcause).symm⟩
    | ok r =>
      rw [hpage] at hcause
      cases hcause

/-- The smallest code is read from the first of two descriptions, and from the page of an answer
that comes after a busy one. -/
theorem smallest_code_is_read :
    let field (className text : String) : Markup.Node :=
      .element ⟨"span", [("class", className)], [.text text]⟩
    let first : Element := ⟨"li", [("class", "err-desc")],
      [field "severity" "Error", field "description" " Busy ", .element ⟨"p", [], [
        field "name" "SYS_CTRL_E_BUSY", field "code" " -2147483648 ", field "code" "1"]⟩]⟩
    let second : Element := ⟨"li", [("class", "err-desc")], [field "code" "2"]⟩
    let root : Element := ⟨"ul", [], [field "code" "3", .element first, .element second]⟩
    let page := "<p><b class=\"err-desc\"><i class=\"code\"> -2147483648 </i></b></p>"
    let baseUrl : Url := ⟨"https", some { host := .name "robot" }, .segments [""], none, none⟩
    let c : Client :=
      { options := { baseUrl, retryBackoff := [Duration.ofMilliseconds 200] }
        network := { outcomes := [.ok { status := 503 }, .ok { status := 200, body := page }] } }
    ofPage root page =
      .ok ⟨Int32.minValue, "SYS_CTRL_E_BUSY", "Error", "Busy"⟩ ∧
    ∃ r, (lookUp c Int32.minValue).1 = .ok r ∧ r.code.toInt = Int32.minValue.toInt := by
  intro field first second root page baseUrl c
  have hnumeral : toString Int32.minValue.toInt = "-2147483648" := by decide +kernel
  obtain ⟨htree, hanswer⟩ := first_description_is_read
  constructor
  · have hblank : ∀ c ∈ [' '], Text.isBlank c = true := List.forall_mem_singleton.mpr rfl
    have hcode : first.Shows "code" (toString Int32.minValue.toInt) := by
      rw [hnumeral]
      exact ⟨_, [' '], [' '], Element.find?_hasClass_eq_some.mp rfl, rfl, hblank, hblank⟩
    have htold : ToldBy ⟨Int32.minValue, "SYS_CTRL_E_BUSY", "Error", "Busy"⟩ first :=
      { code := hcode
        name := ⟨_, [], [], Element.find?_hasClass_eq_some.mp rfl, rfl, nofun, nofun⟩
        severity := ⟨_, [], [], Element.find?_hasClass_eq_some.mp rfl, rfl, nofun, nofun⟩
        description := ⟨_, [' '], [' '], Element.find?_hasClass_eq_some.mp rfl, rfl, hblank,
          hblank⟩ }
    exact (htree root page).1 first _ (Element.find?_hasClass_eq_some.mp rfl) htold
      ⟨by decide +kernel, by decide +kernel, by decide +kernel⟩
  -- the page is read within a bound, which gives its tree
  · obtain ⟨tree, hparse, hcheck⟩ : ∃ tree, Markup.parse page = .ok tree ∧
        ((tree.find? (·.hasClass "err-desc")).bind (·.textOfClass? "code") ==
          some "-2147483648") = true :=
      Markup.exists_parse 40 (by decide +kernel) (by decide +kernel) (by decide +kernel)
    obtain ⟨e, he, htext⟩ := Option.bind_eq_some_iff.mp (eq_of_beq hcheck)
    have hroot : Page.parse page = .ok tree := by rw [Page.parse, hparse]
    have hwrites : Text.WritesSigned "-2147483648".toList Int32.minValue.toInt := by
      rw [← hnumeral]
      exact Text.writesSigned_toString _
    have hcodeIn : CodeIn tree Int32.minValue.toInt :=
      ⟨e, _, Element.find?_hasClass_eq_some.mp he, Element.textOfClass?_eq_some.mp htext, hwrites⟩
    have hurl : c.resolve ("/rw/retcode?code=" ++ toString Int32.minValue.toInt) = .ok
        { baseUrl with path := .segments ["rw", "retcode"], query := some "code=-2147483648" } := by
      rw [hnumeral]
      decide +kernel
    have hlast : LastAnswer c.network (lookUp c Int32.minValue).2.network
        { status := 200, body := page } := by
      rw [lookUp_eq, Call.reading_snd]
      exact (Client.lastAnswer_iff hurl).mpr rfl
    exact (((hanswer c Int32.minValue _ hlast).1 rfl rfl).2.1 Int32.minValue.toInt).mpr
      ⟨tree, hroot, hcodeIn, Int.le_refl _, by decide⟩

end ReturnCode

end RobotWeb
