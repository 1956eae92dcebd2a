import RobotWeb.Http.Options
import RobotWeb.Proofs.Text.Trim
import RobotWeb.Proofs.Url.Authority
import RobotWeb.Proofs.Url.Path

/-!
# Options for a host and a port

The base URL is read from a text that the host is pasted into, between the scheme and the port. So
the host decides how the rest is read: a slash in it ends the authority before the port, a question
mark and a hash begin a query and a fragment, and what stands before an at sign is a name and a
password. The URL addresses the controller if the host has none of these marks, up to slashes that
come first and empty credentials, and only then.

* `HostAlone`            — a text that says no more than a host.
* `Url.Addresses`        — a URL of a controller and nothing else.
* `Url.parse_hostUrl`    — how the text of the base URL is cut.
* `forHost_addresses_iff` — when the base URL addresses the controller.
-/

namespace RobotWeb

/-- The characters of a host that count, without the slashes that it begins with: a URL does not
look at tabs and line ends, and takes any number of slashes for the two behind its scheme. -/
def hostText (host : String) : List Char :=
  (host.toList.filter fun c => !(c == '\t' || c == '\n' || c == '\r')).dropWhile Url.isSlash

/-- The text says no more than a host, with empty credentials at most. -/
structure HostAlone (text : List Char) : Prop where
  path : ∀ c ∈ text, Url.isSlash c = false
  query : '?' ∉ text
  fragment : '#' ∉ text
  nobody : ∀ who place, text = who ++ '@' :: place → '@' ∉ place → who = [] ∨ who = [':']

/-- The host of the text, which stands behind the last at sign. -/
def hostPlace (text : List Char) : List Char :=
  ((Text.splitLast? '@' text).map (·.2)).getD text

/-- The URL addresses the host that the text names, on the port, and tells nothing else. -/
structure Url.Addresses (u : Url) (text : List Char) (port : Nat) : Prop where
  scheme : u.scheme = "https"
  port : u.effectivePort? = some port
  path : u.path = .segments [""]
  query : u.query = none
  fragment : u.fragment = none
  authority : ∃ host port?, domainHost text = .ok host ∧
    u.authority = some ⟨"", none, host, port?⟩

namespace Url

-- ---------------------------------------------------------------------------
-- How the text is cut
-- ---------------------------------------------------------------------------

/-- What follows the scheme: two slashes, the characters of the host that count, and the port with a
slash behind it. -/
def behindScheme (host : String) (port : Nat) : List Char :=
  '/' :: '/' :: (host.toList.filter fun c => !(c == '\t' || c == '\n' || c == '\r')) ++
    ':' :: port.repr.toList ++ ['/']

theorem toList_hostUrl (host : String) (port : Nat) :
    (Http.hostUrl host port).toList =
      'h' :: ("ttps://".toList ++ host.toList ++ ':' :: port.repr.toList ++ ['/']) := by
  simp [Http.hostUrl]

/-- The text that is parsed begins with the scheme, whatever the host is. -/
theorem significant_hostUrl (host : String) (port : Nat) :
    significant (Http.hostUrl host port) =
      'h' :: 't' :: 't' :: 'p' :: 's' :: ':' :: behindScheme host port := by
  have hdigits : ∀ c ∈ port.repr.toList, (c ≠ '\t' ∧ c ≠ '\n') ∧ c ≠ '\r' := by
    intro c hc
    have hdigit := Text.isDigit_of_mem_repr hc
    refine ⟨⟨?_, ?_⟩, ?_⟩ <;> (rintro rfl; cases hdigit)
  rw [significant, toList_hostUrl, ← List.nil_append ('h' :: _),
    Text.trimBy_append_cons (by decide), Text.trimEndBy_concat (by decide), behindScheme]
  generalize port.repr.toList = digits at hdigits
  simpa [List.filter_append] using hdigits

theorem scheme?_https (cs : List Char) :
    scheme? ('h' :: 't' :: 't' :: 'p' :: 's' :: ':' :: cs) = some ("https", cs) := by
  rfl

theorem drop_length_takeWhile (p : Char → Bool) (cs : List Char) :
    cs.drop (cs.takeWhile p).length = cs.dropWhile p := by
  have h : (cs.takeWhile p ++ cs.dropWhile p).drop (cs.takeWhile p).length = cs.dropWhile p :=
    List.drop_left
  rwa [List.takeWhile_append_dropWhile] at h

/-- The text is read from the authority on, behind the slashes. -/
theorem parse_hostUrl (host : String) (port : Nat) :
    Url.parse (Http.hostUrl host port) =
      (Pieces.cut (behindScheme host port)).withAuthority "https"
        ((Pieces.cut (behindScheme host port)).body.dropWhile isSlash) := by
  unfold parse read
  rw [significant_hostUrl]
  dsimp only
  rw [scheme?_https, ← drop_length_takeWhile]
  rfl

/-- The slashes before the host belong to the scheme. -/
theorem dropWhile_behindScheme (host : String) (port : Nat) :
    (behindScheme host port).dropWhile isSlash =
      hostText host ++ ':' :: (port.repr.toList ++ ['/']) := by
  rw [behindScheme, List.append_assoc]
  exact Text.dropWhile_append_cons (by decide) _ _

/-- The marks of a query and a fragment are those of the host. -/
theorem mem_behindScheme {c : Char} (hslash : isSlash c = false) (hcolon : c ≠ ':')
    (hdigit : c.isDigit = false) {host : String} {port : Nat} :
    c ∈ behindScheme host port ↔ c ∈ hostText host := by
  have hskipped : c ∉ (behindScheme host port).takeWhile isSlash := fun hmem => by
    rw [List.mem_takeWhile_imp hmem] at hslash
    cases hslash
  have hcut : behindScheme host port = (behindScheme host port).takeWhile isSlash ++
      (hostText host ++ ':' :: (port.repr.toList ++ ['/'])) := by
    rw [← dropWhile_behindScheme, List.takeWhile_append_dropWhile]
  rw [hcut]
  have hlast : c ≠ '/' := by
    rintro rfl
    cases hslash
  simp only [List.mem_append, List.mem_cons, List.not_mem_nil, hskipped, hcolon, hlast, or_false,
    false_or, Text.not_mem_repr hdigit]

-- ---------------------------------------------------------------------------
-- Queries and fragments
-- ---------------------------------------------------------------------------

/-- A part is absent if its mark does not occur. -/
theorem afterMark?_eq_none {mark : Char} {cs : List Char} :
    afterMark? mark cs = none ↔ mark ∉ cs := by
  rw [afterMark?, Option.map_eq_none_iff, Text.splitFirst?_eq_none]

theorem takeWhile_of_unmarked {mark : Char} {cs : List Char} (h : mark ∉ cs) :
    cs.takeWhile (· != mark) = cs :=
  List.takeWhile_eq_self_iff.mpr fun c hc => by
    rw [bne_iff_ne]
    rintro rfl
    exact h hc

/-- A text without question mark and hash has no query and no fragment. -/
theorem Pieces.cut_of_unmarked {cs : List Char} (hquery : '?' ∉ cs) (hfragment : '#' ∉ cs) :
    Pieces.cut cs = ⟨cs, none, none⟩ := by
  simp only [Pieces.cut, takeWhile_of_unmarked hfragment, takeWhile_of_unmarked hquery,
    afterMark?_eq_none.mpr hquery, afterMark?_eq_none.mpr hfragment]

/-- Without a query and a fragment there is no mark of either. -/
theorem Pieces.unmarked_of_cut {cs : List Char} (hquery : (Pieces.cut cs).query = none)
    (hfragment : (Pieces.cut cs).fragment = none) : '?' ∉ cs ∧ '#' ∉ cs := by
  have hnone : '#' ∉ cs := afterMark?_eq_none.mp hfragment
  have hmark : '?' ∉ cs.takeWhile (· != '#') := afterMark?_eq_none.mp hquery
  exact ⟨takeWhile_of_unmarked hnone ▸ hmark, hnone⟩

/-- A URL with an authority is made of what was read of it. -/
theorem Pieces.withAuthority_eq_ok {p : Pieces} {scheme : String} {cs : List Char} {u : Url}
    (h : p.withAuthority scheme cs = .ok u) :
    ∃ a path, readAuthority scheme (p.query.isSome || p.fragment.isSome) cs = .ok (a, path) ∧
      u = p.url scheme (some a) (pathAfterAuthority (.ofScheme scheme) path) := by
  obtain ⟨⟨a, path⟩, hread, h⟩ := exists_ok_of_bind h
  exact ⟨a, path, hread, (Except.ok.inj h).symm⟩

-- ---------------------------------------------------------------------------
-- Where the URL leads
-- ---------------------------------------------------------------------------

variable {host : String} {port : Nat} {u : Url}

/-- A host without the marks of a query and a fragment is read as an authority with its path. -/
theorem parse_hostUrl_of_unmarked (hquery : '?' ∉ hostText host) (hfragment : '#' ∉ hostText host) :
    Url.parse (Http.hostUrl host port) =
      (⟨behindScheme host port, none, none⟩ : Pieces).withAuthority "https"
        (hostText host ++ ':' :: (port.repr.toList ++ ['/'])) := by
  have hquery' : '?' ∉ behindScheme host port := by
    rwa [mem_behindScheme (by decide) (by decide) (by decide)]
  have hfragment' : '#' ∉ behindScheme host port := by
    rwa [mem_behindScheme (by decide) (by decide) (by decide)]
  rw [parse_hostUrl, Pieces.cut_of_unmarked hquery' hfragment', dropWhile_behindScheme]

/-- A URL without a query and a fragment is of a host without their marks. -/
theorem unmarked_of_parse (h : Url.parse (Http.hostUrl host port) = .ok u) (hquery : u.query = none)
    (hfragment : u.fragment = none) : '?' ∉ hostText host ∧ '#' ∉ hostText host := by
  rw [parse_hostUrl] at h
  obtain ⟨a, path, -, rfl⟩ := Pieces.withAuthority_eq_ok h
  obtain ⟨hquery', hfragment'⟩ := Pieces.unmarked_of_cut (Option.map_eq_none_iff.mp hquery)
    (Option.map_eq_none_iff.mp hfragment)
  rw [mem_behindScheme (by decide) (by decide) (by decide)] at hquery' hfragment'
  exact ⟨hquery', hfragment'⟩

/-- The scheme is always that of the text. -/
theorem scheme_of_parse (h : Url.parse (Http.hostUrl host port) = .ok u) : u.scheme = "https" := by
  rw [parse_hostUrl] at h
  obtain ⟨a, path, -, rfl⟩ := Pieces.withAuthority_eq_ok h
  rfl

/-- The path of a host with a slash is not the root. -/
theorem path_of_slash (hquery : '?' ∉ hostText host) (hfragment : '#' ∉ hostText host)
    (hslash : ∃ c ∈ hostText host, isSlash c = true)
    (h : Url.parse (Http.hostUrl host port) = .ok u) : u.path ≠ .segments [""] := by
  rw [parse_hostUrl_of_unmarked hquery hfragment] at h
  obtain ⟨a, path, hread, rfl⟩ := Pieces.withAuthority_eq_ok h
  obtain ⟨slash, rest, hfound, rfl⟩ := readAuthority_of_slash rfl hslash hread
  intro hpath
  have hroot : pathAfterAuthority .web (slash :: (rest ++ ':' :: port.repr.toList ++ ['/'])) =
      [""] := Path.segments.inj hpath
  rw [pathAfterAuthority_of_slash hfound] at hroot
  refine follow_ne_root rest List.mem_cons_self (fun c hc => ?_) hroot
  rcases List.mem_cons.mp hc with rfl | hdigit
  · rfl
  · exact isSlash_of_isDigit (Text.isDigit_of_mem_repr hdigit)

/-- What a host without marks of other parts leads to. -/
theorem url_of_plain (hquery : '?' ∉ hostText host) (hfragment : '#' ∉ hostText host)
    (hplain : ∀ c ∈ hostText host, isSlash c = false)
    (h : Url.parse (Http.hostUrl host port) = .ok u) :
    ∃ a, u = ⟨"https", some a, .segments [""], none, none⟩ ∧
      domainHost (hostPlace (hostText host)) = .ok a.host ∧
      a.port.or (some 443) = some port ∧
      ((a.username = "" ∧ a.password = none) ↔ ∀ who place, hostText host = who ++ '@' :: place →
        '@' ∉ place → who = [] ∨ who = [':']) := by
  -- without slashes and marks the whole text is one authority, with the port behind its last colon
  rw [parse_hostUrl_of_unmarked hquery hfragment] at h
  obtain ⟨a, path, hread, rfl⟩ := Pieces.withAuthority_eq_ok h
  obtain ⟨place, hhost, hport, rfl, hwho⟩ := readAuthority_of_plain rfl
    (fun c => Text.isDigit_of_mem_repr) (by simp [Nat.toDigits_ne_nil]) hplain hread
  refine ⟨a, rfl, ?_, ?_, ?_⟩
  · rcases hwho with ⟨hnone, rfl, -⟩ | ⟨who, hsome, -⟩
    · simpa [hostPlace, hnone] using hhost
    · simpa [hostPlace, hsome] using hhost
  · obtain ⟨n, hn, hport⟩ := portNumber_eq_ok (by simp [Nat.toDigits_ne_nil]) hport
    obtain rfl : port = n := Option.some.inj ((Text.digits?_repr port).symm.trans hn)
    rw [hport]
    split
    -- the port that the scheme has by default is left out
    · rename_i hdefault
      exact hdefault
    · rfl
  · rcases hwho with ⟨hnone, -, husername, hpassword⟩ | ⟨who, hsome, hcredentials⟩
    · have hnobody := Text.splitLast?_eq_none.mp hnone
      refine ⟨fun _ who place heq => ?_, fun _ => ⟨husername, hpassword⟩⟩
      exact absurd (by simp [heq]) hnobody
    · obtain ⟨htext, hlast⟩ := Text.splitLast?_eq_some hsome
      have hcredentials' : (a.username = "" ∧ a.password = none) ↔ who = [] ∨ who = [':'] := by
        rw [← credentials_eq_none, hcredentials, Prod.mk.injEq]
      rw [hcredentials']
      refine ⟨fun hwho who' place' heq hlast' => ?_, fun h => h who place htext hlast⟩
      rw [heq, Text.splitLast?_join hlast'] at hsome
      obtain ⟨rfl, -⟩ : who' = who ∧ place' = place := by simpa using hsome
      exact hwho

/-- The URL addresses the controller exactly if the text is a host alone. -/
theorem addresses_iff (h : Url.parse (Http.hostUrl host port) = .ok u) :
    u.Addresses (hostPlace (hostText host)) port ↔ HostAlone (hostText host) := by
  constructor
  · intro haddresses
    -- each part that the URL does not have is a mark that the text does not have
    obtain ⟨hquery, hfragment⟩ := unmarked_of_parse h haddresses.query haddresses.fragment
    have hplain : ∀ c ∈ hostText host, isSlash c = false := by
      intro c hc
      by_contra hslash
      exact path_of_slash hquery hfragment ⟨c, hc, by simpa using hslash⟩ h haddresses.path
    obtain ⟨a, rfl, -, -, hnobody⟩ := url_of_plain hquery hfragment hplain h
    obtain ⟨name, port?, -, hauthority⟩ := haddresses.authority
    obtain rfl := Option.some.inj hauthority
    exact ⟨hplain, hquery, hfragment, hnobody.mp ⟨rfl, rfl⟩⟩
  · intro halone
    obtain ⟨⟨username, password, name, port?⟩, rfl, hhost, hport, hnobody⟩ :=
      url_of_plain halone.query halone.fragment halone.path h
    obtain ⟨rfl, rfl⟩ : username = "" ∧ password = none := hnobody.mpr halone.nobody
    exact ⟨rfl, hport, rfl, rfl, rfl, name, port?, hhost, rfl⟩

end Url

namespace Http

/-- The options are those of the URL that was read. -/
theorem forHost_of_parse {host : String} {port : Nat} {u : Url}
    (h : Url.parse (hostUrl host port) = .ok u) :
    Options.forHost host port = .ok { baseUrl := u } := by
  simp only [Options.forHost, Options.parse, h]

open Url in
/-- **Where the options for a host and a port lead.** If the text that they are read from is
refused, the error tells of that text. Otherwise the scheme is that of an encrypted connection, and
the base URL addresses the host on the port and tells nothing else exactly if the text of the host
says no more than a host. -/
theorem forHost_addresses_iff (host : String) (port : Nat) :
    (∀ e, Options.forHost host port = .error e →
      ∃ fault : Fault, e = .invalidUrl (hostUrl host port) fault.message) ∧
    ∀ o, Options.forHost host port = .ok o →
      o.baseUrl.scheme = "https" ∧
      (o.baseUrl.Addresses (hostPlace (hostText host)) port ↔ HostAlone (hostText host)) := by
  unfold Options.forHost Options.parse
  cases h : Url.parse (hostUrl host port) with
  | error fault =>
    exact ⟨fun e he => ⟨fault, (Except.error.inj he).symm⟩, fun o ho => (by cases ho)⟩
  | ok u =>
    refine ⟨fun e he => (by cases he), fun o ho => ?_⟩
    obtain rfl := Except.ok.inj ho
    exact ⟨scheme_of_parse h, addresses_iff h⟩

/-- An address on the port of the scheme, which the text of the URL leaves out. -/
theorem address_is_reached :
    let url : Url := ⟨"https", some ⟨"", none, .ipv4 0xC0A87D01, none⟩, .segments [""], none, none⟩
    Options.forHost "192.168.125.1" 443 = .ok { baseUrl := url } ∧
      url.text = "https://192.168.125.1/" ∧ url.Addresses "192.168.125.1".toList 443 := by
  intro url
  have hparse : Url.parse (hostUrl "192.168.125.1" 443) = .ok url := by decide +kernel
  have hoptions := forHost_of_parse hparse
  have htext : hostText "192.168.125.1" = "192.168.125.1".toList := by decide +kernel
  have hplace : hostPlace "192.168.125.1".toList = "192.168.125.1".toList := by decide +kernel
  have hplain : "192.168.125.1".toList.all (!Url.isSlash ·) = true := by decide +kernel
  -- four numbers and their dots are none of the marks
  have halone : HostAlone (hostText "192.168.125.1") := by
    rw [htext]
    refine ⟨fun c hc => by simpa using List.all_eq_true.mp hplain c hc, by decide +kernel,
      by decide +kernel, fun who place heq => ?_⟩
    have hmem : '@' ∈ "192.168.125.1".toList := heq ▸ by simp
    exact absurd hmem (by decide +kernel)
  have haddresses := ((forHost_addresses_iff _ _).2 _ hoptions).2.mpr halone
  rw [htext, hplace] at haddresses
  exact ⟨hoptions, by decide +kernel, haddresses⟩

/-- A slash in the host ends the authority before the port, which becomes a part of the path. -/
theorem slash_hides_port :
    let url : Url :=
      ⟨"https", some ⟨"", none, .name "h", none⟩, .segments ["path:1", ""], none, none⟩
    Options.forHost "h/path" 1 = .ok { baseUrl := url } ∧ url.text = "https://h/path:1/" ∧
      url.effectivePort? = some 443 ∧ url.path ≠ .segments [""] := by
  intro url
  have hparse : Url.parse (hostUrl "h/path" 1) = .ok url := by decide +kernel
  exact ⟨forHost_of_parse hparse, by decide +kernel, by decide +kernel, by decide +kernel⟩

end Http

end RobotWeb
