import RobotWeb.Json.Event
import RobotWeb.Json.Options
import RobotWeb.Proofs.Json.Codec

/-!
# Stored types

Every type that is stored gives back what was written for it. What is written for a record has its
fields under their names, and what is written for a variant has the name of the variant, so it is
enough to look each of them up.

* `LawfulCodec` instances      — states, records, resources and events.
* `read?_url`                  — URLs whose texts are parsed as the URLs.
* `IsStreamDefault`, `IsConnectionDefault` — options that may be missing from what was written.
* `restores_streamOptions`, `restores_connectionOptions` — options, of which some may be missing.
* `stored_values_are_read_back` — all stored types.
-/

namespace RobotWeb.Json

-- ---------------------------------------------------------------------------
-- Variants without contents
-- ---------------------------------------------------------------------------

instance : LawfulCodec ControllerState :=
  .ofNames fun state => by cases state <;> rfl

instance : LawfulCodec OperationMode :=
  .ofNames fun mode => by cases mode <;> rfl

instance : LawfulCodec ExecutionState :=
  .ofNames fun state => by cases state <;> rfl

instance : LawfulCodec Mastership.Domain :=
  .ofNames fun domain => by cases domain <;> rfl

instance : LawfulCodec Mastership.Mode :=
  .ofNames fun mode => by cases mode <;> rfl

instance : LawfulCodec Priority :=
  .ofNames fun priority => by cases priority <;> rfl

-- ---------------------------------------------------------------------------
-- Records
-- ---------------------------------------------------------------------------

instance : LawfulCodec RapidVariable where
  read_write v := by
    have hfields : Fields.ofRecord? 3 (Codec.write v) = some (.named [("task", Codec.write v.task),
      ("module", Codec.write v.module), ("name", Codec.write v.name)]) := rfl
    simp only [Codec.read?, hfields]
    simp
  integral_write v := by
    simp [Codec.write]

instance : LawfulCodec Configuration.File where
  read_write f := by
    have hfields : Fields.ofRecord? 2 (Codec.write f) = some (.named
      [("directory", Codec.write f.directory), ("filename", Codec.write f.filename)]) := rfl
    simp only [Codec.read?, hfields]
    simp
  integral_write f := by
    simp [Codec.write]

instance : LawfulCodec ReturnCode where
  read_write r := by
    have hfields : Fields.ofRecord? 4 (Codec.write r) = some (.named [("code", Codec.write r.code),
      ("name", Codec.write r.name), ("severity", Codec.write r.severity),
      ("description", Codec.write r.description)]) := rfl
    simp only [Codec.read?, hfields]
    simp
  integral_write r := by
    simp [Codec.write]

instance : LawfulCodec SubscriptionEntry where
  read_write e := by
    have hfields : Fields.ofRecord? 2 (Codec.write e) = some (.named
      [("resource_uri", Codec.write e.uri), ("priority", Codec.write e.priority)]) := rfl
    simp only [Codec.read?, hfields]
    simp
  integral_write e := by
    change (Value.object [("resource_uri", Codec.write e.uri),
      ("priority", Codec.write e.priority)]).Integral
    simp

instance : LawfulCodec Subscription where
  read_write s := by
    have hfields : Fields.ofRecord? 1 (Codec.write s) =
      some (.named [("resources", Codec.write s.entries)]) := rfl
    simp only [Codec.read?, hfields]
    simp
  integral_write s := by
    change (Value.object [("resources", Codec.write s.entries)]).Integral
    simp

-- ---------------------------------------------------------------------------
-- Variants
-- ---------------------------------------------------------------------------

/-- A resource is read by the name of its variant and by what this holds. -/
theorem read?_resource (name : String) (held : Value) :
    Codec.read? (writeVariant name held) = resourceOf? name (some held) :=
  rfl

/-- What is written for the domain is any value here, as the bound of a number must not be
unfolded. -/
theorem read?_elogDomain {domain : UInt32} {v : Value} (h : Codec.read? v = some domain) :
    Codec.read? (writeVariant "ElogDomain" (.object [("domain", v)])) =
      some (Resource.elogDomain domain) := by
  simp [read?_resource, resourceOf?, Fields.ofVariant?, h]

instance : LawfulCodec Resource where
  read_write r := by
    cases r with
    | ioSignal name =>
      change Codec.read? (writeVariant "IoSignal" (.object [("name", Codec.write name)])) = _
      simp [read?_resource, resourceOf?, Fields.ofVariant?]
    | rapidVariable v =>
      change Codec.read? (writeVariant "RapidPersistentVariable" (Codec.write v)) = _
      simp [read?_resource, resourceOf?]
    | elogDomain domain =>
      change Codec.read? (writeVariant "ElogDomain" (.object [("domain", Codec.write domain)])) = _
      exact read?_elogDomain (LawfulCodec.read_write domain)
    | executionState | controllerState => rfl
  integral_write r := by
    cases r with
    | executionState | controllerState => exact .string _
    | ioSignal | rapidVariable | elogDomain =>
      simp only [Codec.write, writeResource, writeVariant]
      simp

/-- An event is read by the name of its variant and by the members that this holds. -/
theorem read?_event (name : String) (members : List (String × Value)) :
    Codec.read? (writeVariant name (.object members)) = eventOf? name (.named members) :=
  rfl

/-- As for the domain of a resource, what is written for the numbers is any value. -/
theorem read?_elog {domain sequenceNumber : UInt32} {payload : String} {v w p : Value}
    (hdomain : Codec.read? v = some domain) (hnumber : Codec.read? w = some sequenceNumber)
    (hpayload : Codec.read? p = some payload) :
    Codec.read? (writeVariant "Elog"
        (.object [("domain", v), ("sequence_number", w), ("payload", p)])) =
      some (Event.elog domain sequenceNumber payload) := by
  simp [read?_event, eventOf?, hdomain, hnumber, hpayload]

instance : LawfulCodec Event where
  read_write e := by
    cases e with
    | ioSignal signal value =>
      change Codec.read? (writeVariant "IoSignalState"
        (.object [("signal", Codec.write signal), ("value", Codec.write value)])) = _
      simp [read?_event, eventOf?]
    | rapidVariable v value =>
      change Codec.read? (writeVariant "RapidVariable"
        (.object [("resource", Codec.write v), ("value", Codec.write value)])) = _
      simp [read?_event, eventOf?]
    | elog domain sequenceNumber payload =>
      change Codec.read? (writeVariant "Elog" (.object [("domain", Codec.write domain),
        ("sequence_number", Codec.write sequenceNumber), ("payload", Codec.write payload)])) = _
      exact read?_elog (LawfulCodec.read_write domain) (LawfulCodec.read_write sequenceNumber)
        (LawfulCodec.read_write payload)
    | executionState state =>
      change Codec.read? (writeVariant "RapidExecutionState"
        (.object [("state", Codec.write state)])) = _
      simp [read?_event, eventOf?]
    | controllerState state =>
      change Codec.read? (writeVariant "ControllerState"
        (.object [("state", Codec.write state)])) = _
      simp [read?_event, eventOf?]
  integral_write e := by
    cases e with
    | rapidVariable v value =>
      change (writeVariant "RapidVariable"
        (.object [("resource", Codec.write v), ("value", Codec.write value)])).Integral
      simp [writeVariant]
    | ioSignal | elog | executionState | controllerState =>
      simp only [Codec.write, writeEvent, writeVariant]
      simp

-- ---------------------------------------------------------------------------
-- Options
-- ---------------------------------------------------------------------------

/-- The name is that of an option of a stream that may be missing, and the option has its
default. -/
def IsStreamDefault (o : Stream.Options) (name : String) : Prop :=
  (name = "protocol" ∧ o.protocol = "rws_subscription") ∨
    (name = "poll_interval" ∧ o.pollInterval = .ofMilliseconds 500)

/-- The name is that of an option of a connection that may be missing, and the option has its
default. -/
def IsConnectionDefault (o : Http.Options) (name : String) : Prop :=
  (name = "retry_backoff" ∧ o.retryBackoff = []) ∨
    (name = "accept_invalid_certs" ∧ o.acceptsInvalidCertificates = false)

/-- Options of a stream are what their fields are read as. -/
theorem read?_streamOptions {members : List (String × Value)} {o : Stream.Options}
    (hprotocol : (Fields.named members).defaulted 0 "protocol" ({} : Stream.Options).protocol =
      some o.protocol)
    (hinterval : (Fields.named members).defaulted 1 "poll_interval"
      ({} : Stream.Options).pollInterval = some o.pollInterval) :
    Codec.read? (.object members) = some o := by
  simp only [Codec.read?, Fields.ofRecord?]
  simp [hprotocol, hinterval]

/-- Options of a stream are restored even if members that have their default are left out. -/
theorem restores_streamOptions {o : Stream.Options} {names : List String}
    (h : ∀ name ∈ names, IsStreamDefault o name) :
    Restores ((Codec.write o).without names) o := by
  refine restores_of_integral (read?_streamOptions ?_ ?_) (.without ?_ names)
  · exact Fields.defaulted_without 0 rfl (LawfulCodec.read_write o.protocol) fun hname => by
      simpa [IsStreamDefault] using h "protocol" hname
  · refine Fields.defaulted_without 1 rfl (LawfulCodec.read_write o.pollInterval) fun hname => ?_
    have hinterval : o.pollInterval = .ofMilliseconds 500 := by
      simpa [IsStreamDefault] using h "poll_interval" hname
    exact hinterval.trans (by decide)
  · change (Value.object [("protocol", Codec.write o.protocol),
      ("poll_interval", Codec.write o.pollInterval)]).Integral
    simp

/-- Options of a connection are what their fields are read as. -/
theorem read?_connectionOptions {members : List (String × Value)} {o : Http.Options}
    (hurl : (Fields.named members).required 0 "base_url" = some o.baseUrl)
    (husername : (Fields.named members).required 1 "username" = some o.username)
    (hpassword : (Fields.named members).required 2 "password" = some o.password)
    (hconnect : (Fields.named members).required 3 "connect_timeout" = some o.connectTimeout)
    (hread : (Fields.named members).required 4 "read_timeout" = some o.readTimeout)
    (hwrite : (Fields.named members).required 5 "write_timeout" = some o.writeTimeout)
    (hbackoff : (Fields.named members).defaulted 6 "retry_backoff" [] = some o.retryBackoff)
    (haccepts : (Fields.named members).defaulted 7 "accept_invalid_certs" false =
      some o.acceptsInvalidCertificates) :
    Codec.read? (.object members) = some o := by
  simp only [Codec.read?, Fields.ofRecord?]
  simp [hurl, husername, hpassword, hconnect, hread, hwrite, hbackoff, haccepts]

/-- A URL whose text is parsed as the URL is read back. -/
theorem read?_url {url : Url} (h : Url.parse url.text = .ok url) :
    Codec.read? (Codec.write url) = some url := by
  change (Url.parse url.text).toOption = some url
  rw [h]
  rfl

/-- Options of a connection are restored likewise, if the text of the base URL is read back. -/
theorem restores_connectionOptions {o : Http.Options} {names : List String}
    (hurl : Url.parse o.baseUrl.text = .ok o.baseUrl)
    (h : ∀ name ∈ names, IsConnectionDefault o name) :
    Restores ((Codec.write o).without names) o := by
  have hkept {name : String} (hbackoff : name ≠ "retry_backoff")
      (haccepts : name ≠ "accept_invalid_certs") : name ∉ names := fun hname =>
    (h name hname).elim (fun hdefault => hbackoff hdefault.1) fun hdefault => haccepts hdefault.1
  refine restores_of_integral (read?_connectionOptions ?_ ?_ ?_ ?_ ?_ ?_ ?_ ?_) (.without ?_ names)
  · exact Fields.required_without 0 rfl (read?_url hurl) (hkept (by decide) (by decide))
  · exact Fields.required_without 1 rfl (LawfulCodec.read_write o.username)
      (hkept (by decide) (by decide))
  · exact Fields.required_without 2 rfl (LawfulCodec.read_write o.password)
      (hkept (by decide) (by decide))
  · exact Fields.required_without 3 rfl (LawfulCodec.read_write o.connectTimeout)
      (hkept (by decide) (by decide))
  · exact Fields.required_without 4 rfl (LawfulCodec.read_write o.readTimeout)
      (hkept (by decide) (by decide))
  · exact Fields.required_without 5 rfl (LawfulCodec.read_write o.writeTimeout)
      (hkept (by decide) (by decide))
  · exact Fields.defaulted_without 6 rfl (LawfulCodec.read_write o.retryBackoff) fun hname => by
      simpa [IsConnectionDefault] using h "retry_backoff" hname
  · exact Fields.defaulted_without 7 rfl (LawfulCodec.read_write o.acceptsInvalidCertificates)
      fun hname => by simpa [IsConnectionDefault] using h "accept_invalid_certs" hname
  · change (Value.object [("base_url", .string o.baseUrl.text),
      ("username", Codec.write o.username), ("password", Codec.write o.password),
      ("connect_timeout", Codec.write o.connectTimeout),
      ("read_timeout", Codec.write o.readTimeout), ("write_timeout", Codec.write o.writeTimeout),
      ("retry_backoff", Codec.write o.retryBackoff),
      ("accept_invalid_certs", Codec.write o.acceptsInvalidCertificates)]).Integral
    simp

-- ---------------------------------------------------------------------------
-- All stored types
-- ---------------------------------------------------------------------------

/-- **Stored values are read back.** Whatever is written for a value of a stored type is read as the
value, as a JSON value and as a text: states and modes, priorities, subscriptions and their entries,
resources, events, files, return codes, and options. Options of which some are missing from what was
written are read as the options too, if all the missing ones had their defaults. Of connection
options it takes that the text of their URL is parsed as the URL. -/
theorem stored_values_are_read_back :
    (Faithful ControllerState ∧ Faithful OperationMode ∧ Faithful ExecutionState ∧
      Faithful Mastership.Domain ∧ Faithful Mastership.Mode) ∧
    (Faithful Priority ∧ Faithful SubscriptionEntry ∧ Faithful Subscription) ∧
    (Faithful RapidVariable ∧ Faithful Resource ∧ Faithful Event) ∧
    (Faithful Configuration.File ∧ Faithful ReturnCode) ∧
    (∀ o : Stream.Options, Restores (Codec.write o) o ∧
      ∀ names, (∀ name ∈ names, IsStreamDefault o name) →
        Restores ((Codec.write o).without names) o) ∧
    ∀ o : Http.Options, Url.parse o.baseUrl.text = .ok o.baseUrl →
      Restores (Codec.write o) o ∧
        ∀ names, (∀ name ∈ names, IsConnectionDefault o name) →
          Restores ((Codec.write o).without names) o := by
  refine ⟨⟨LawfulCodec.faithful, LawfulCodec.faithful, LawfulCodec.faithful, LawfulCodec.faithful,
      LawfulCodec.faithful⟩,
    ⟨LawfulCodec.faithful, LawfulCodec.faithful, LawfulCodec.faithful⟩,
    ⟨LawfulCodec.faithful, LawfulCodec.faithful, LawfulCodec.faithful⟩,
    ⟨LawfulCodec.faithful, LawfulCodec.faithful⟩, fun o => ?_, fun o hurl => ?_⟩
  -- nothing missing is the case of no names
  · have hwhole : Restores ((Codec.write o).without []) o := restores_streamOptions nofun
    rw [Value.without_nil] at hwhole
    exact ⟨hwhole, fun _ => restores_streamOptions⟩
  · have hwhole : Restores ((Codec.write o).without []) o := restores_connectionOptions hurl nofun
    rw [Value.without_nil] at hwhole
    exact ⟨hwhole, fun _ => restores_connectionOptions hurl⟩

/-- The options for a controller that is known by its name, without those that were added later. -/
theorem early_options_are_read_back :
    let o : Http.Options :=
      { baseUrl := ⟨"https", some { host := .name "robot" }, .segments [""], none, none⟩ }
    Url.parse o.baseUrl.text = .ok o.baseUrl ∧
      Restores ((Codec.write o).without ["retry_backoff", "accept_invalid_certs"]) o := by
  intro o
  have hurl : Url.parse o.baseUrl.text = .ok o.baseUrl := by decide +kernel
  refine ⟨hurl, (stored_values_are_read_back.2.2.2.2.2 o hurl).2 _ ?_⟩
  simp [o, IsConnectionDefault]

end RobotWeb.Json
