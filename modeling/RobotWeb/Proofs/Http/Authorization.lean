import RobotWeb.Proofs.Text.Base64
import RobotWeb.Proofs.Text.Split
import RobotWeb.WebSocket.Upgrade

/-!
# Credentials in requests

The value of the `Authorization` header tells the name and the password of the user, whatever
characters they are made of, and it is itself made of printable characters only, so that it never
keeps a stream from being opened. Two users whose names have no colon send the same value only if
they are the same.

* `credentials`             — the bytes that the value stands for.
* `printable_authorization` — its characters.
* `credentials_inj`         — the first colon tells the name and the password apart.
* `authorization_tells_credentials` — what the header of a client tells.
-/

namespace RobotWeb.Http.Client

-- ---------------------------------------------------------------------------
-- Credentials
-- ---------------------------------------------------------------------------

/-- The bytes of a user's name and password with a colon between them. -/
def credentials (username password : String) : List UInt8 :=
  Text.Utf8.encode (username ++ ":" ++ password).toList

variable {username password username' password' : String}

theorem toList_credentials (username password : String) :
    (username ++ ":" ++ password).toList = username.toList ++ ':' :: password.toList := by
  simp [String.toList_append]

/-- If no name has a colon, the credentials are told apart by their first colon. -/
theorem credentials_inj (h : ':' ∉ username.toList) (h' : ':' ∉ username'.toList) :
    credentials username password = credentials username' password' ↔
      username = username' ∧ password = password' := by
  refine ⟨fun heq => ?_, fun ⟨hname, hword⟩ => by rw [hname, hword]⟩
  have hjoined : username.toList ++ ':' :: password.toList =
      username'.toList ++ ':' :: password'.toList := by
    have hread := Text.Utf8.decode?_eq_some.mpr heq
    rw [credentials, Text.Utf8.decode?_eq_some.mpr rfl, toList_credentials,
      toList_credentials] at hread
    exact Option.some.inj hread
  have hcut := Text.splitFirst?_join h password.toList
  rw [hjoined, Text.splitFirst?_join h'] at hcut
  obtain ⟨hname, hword⟩ := Prod.mk.inj (Option.some.inj hcut)
  exact ⟨String.toList_inj.mp hname.symm, String.toList_inj.mp hword.symm⟩

-- ---------------------------------------------------------------------------
-- The value of the header
-- ---------------------------------------------------------------------------

theorem basicAuthorization_eq (username password : String) :
    basicAuthorization username password =
      "Basic " ++ String.ofList (Text.Base64.encode (credentials username password)) := rfl

/-- The characters of the value are printable. -/
theorem printable_authorization {c : Char}
    (hc : c ∈ (basicAuthorization username password).toList) :
    0x20 ≤ c.toNat ∧ c.toNat < 0x7F := by
  have hscheme : "Basic ".toList.all (fun d => 0x20 ≤ d.toNat ∧ d.toNat < 0x7F) = true := by
    decide +kernel
  have hspells := Text.Base64.encode_spells (credentials username password)
  rw [basicAuthorization_eq, String.toList_append, List.mem_append] at hc
  rcases hc with hc | hc
  · exact of_decide_eq_true (List.all_eq_true.mp hscheme c hc)
  · rw [String.toList_ofList] at hc
    exact Text.Base64.printable_of_mem_alphabet (hspells.mem hc)

/-- The value tells the credentials. -/
theorem basicAuthorization_inj :
    basicAuthorization username password = basicAuthorization username' password' ↔
      credentials username password = credentials username' password' := by
  refine ⟨fun heq => ?_, fun heq => by rw [basicAuthorization_eq, heq, ← basicAuthorization_eq]⟩
  rw [basicAuthorization_eq, basicAuthorization_eq, ← String.toList_inj, String.toList_append,
    String.toList_append, List.append_cancel_left_eq, String.toList_ofList,
    String.toList_ofList] at heq
  have hread := Text.Base64.decode?_encode (credentials username password)
  rw [heq, Text.Base64.decode?_encode] at hread
  exact (Option.some.inj hread).symm

/-- Printable characters can be sent in a header. -/
theorem isHeaderValue_authorization (c : Client) :
    WebSocket.isHeaderValue c.authorization = true := by
  rw [WebSocket.isHeaderValue, List.all_eq_true]
  intro d hd
  obtain ⟨hlow, hhigh⟩ := printable_authorization hd
  simp [hlow, hhigh]

/-- **The header tells the credentials.** For every user, the value of the header is the word for
the scheme and a base64 text that stands for the UTF-8 bytes of the name, a colon and the password,
and those bytes are read back from it. All its characters are printable, so that a handshake with it
can be sent if its other headers can. Clients whose users' names have no colon have the same header
only if the names are the same and the passwords are too. -/
theorem authorization_tells_credentials (c : Client) :
    (∃ text bytes, c.authorization = "Basic " ++ String.ofList text ∧
      bytes = Text.Utf8.encode (c.options.username ++ ":" ++ c.options.password).toList ∧
      Text.Base64.Spells text bytes ∧ Text.Base64.decode? text = some bytes) ∧
    (∀ char ∈ c.authorization.toList, 0x20 ≤ char.toNat ∧ char.toNat < 0x7F) ∧
    (∀ locator options, (WebSocket.handshake c locator options).isSendable =
      (WebSocket.isHeaderValue options.protocol && c.cookieHeader?.all WebSocket.isHeaderValue)) ∧
    ∀ c' : Client, ':' ∉ c.options.username.toList → ':' ∉ c'.options.username.toList →
      (c.authorization = c'.authorization ↔
        c.options.username = c'.options.username ∧ c.options.password = c'.options.password) := by
  refine ⟨⟨_, _, rfl, rfl, Text.Base64.encode_spells _, Text.Base64.decode?_encode _⟩,
    fun char hchar => printable_authorization hchar, fun locator options => ?_,
    fun c' hname hname' => basicAuthorization_inj.trans (credentials_inj hname hname')⟩
  have hvalue : WebSocket.isHeaderValue (WebSocket.handshake c locator options).authorization =
      true := isHeaderValue_authorization c
  rw [WebSocket.Handshake.isSendable, hvalue, Bool.and_true]
  rfl

/-- The header tells a colon at the end of a password from none. -/
theorem colon_in_password_is_told :
    let baseUrl : Url := ⟨"https", some { host := .name "robot" }, .segments [""], none, none⟩
    let client (password : String) : Client :=
      { options := { baseUrl, username := "réseau", password } }
    ':' ∉ "réseau".toList ∧ (client "mot:").authorization ≠ (client "mot").authorization := by
  intro baseUrl client
  have hname : ':' ∉ "réseau".toList := by decide +kernel
  obtain ⟨-, -, -, htells⟩ := authorization_tells_credentials (client "mot:")
  have hword : "mot:" ≠ "mot" := by decide
  exact ⟨hname, fun heq => hword ((htells (client "mot") hname hname).mp heq).2⟩

/-- Names with a colon may be taken for a name and the beginning of a password. -/
example : basicAuthorization "a:b" "c" = basicAuthorization "a" "b:c" := by decide +kernel

end RobotWeb.Http.Client
