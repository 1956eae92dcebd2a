import RobotWeb.Controller.Configuration
import RobotWeb.Proofs.Http.LastAnswer
import RobotWeb.Proofs.Text.Split
import RobotWeb.Proofs.Text.Trim

/-!
# The ids of new resources

The controller names a resource that it has created in the location of its answer. The id is what
stands behind the first marker in it. Later markers belong to the id. An answer whose body breaks
off after its headers is an answer too, but it is not read: the call fails with its transport then.

* `NamesGroup`, `NamesProgress` — which location names which id.
* `groupId?_eq_some`, `progressId?_eq_some` — these are the ids that are read.
* `Http.Client.subscribe_eq_iff` — a subscription gives what is read from the last answer.
* `Configuration.load_eq`       — the loading of a file that has a name is one request.
* `ids_are_read_from_locations` — what comes of an answer, by its location.
* `broken_answer_names_no_group` — a good location in an answer whose body breaks off.
-/

namespace RobotWeb

open Http (Answer Client LastAnswer)

/-- The location names the group: its id stands behind the first marker, and nothing but slashes
follows it. The id itself does not end in a slash. -/
def NamesGroup (location id : String) : Prop :=
  ∃ base slashes,
    Text.FirstCut "/poll/".toList location.toList base
      (id.toList ++ List.replicate slashes '/') ∧
    id ≠ "" ∧ id.toList.getLast? ≠ some '/'

/-- The location names the progress resource: its id is all that stands behind the first marker. -/
def NamesProgress (location id : String) : Prop :=
  ∃ base, Text.FirstCut "/progress/".toList location.toList base id.toList ∧ id ≠ ""

variable {location id : String} {answer : Answer}

/-- A text that is not empty is taken as an id. -/
theorem id_eq_some {text : List Char} :
    (if text.isEmpty then none else some (String.ofList text)) = some id ↔
      text = id.toList ∧ id ≠ "" := by
  split
  · rename_i hempty
    refine ⟨nofun, fun ⟨htext, hne⟩ => absurd ?_ hne⟩
    rw [← String.toList_eq_nil_iff, ← htext]
    exact List.isEmpty_iff.mp hempty
  · rename_i hempty
    rw [Option.some.injEq]
    constructor
    · rintro rfl
      refine ⟨String.toList_ofList.symm, fun hnil => hempty ?_⟩
      rw [← String.toList_eq_nil_iff, String.toList_ofList] at hnil
      rw [hnil, List.isEmpty_nil]
    · rintro ⟨rfl, -⟩
      exact String.ofList_toList

/-- Without the slashes at its end, a text does not end in a slash. -/
theorem trimSlashes_eq_iff {text stem : List Char} :
    Text.trimEndBy (· == '/') text = stem ↔
      ∃ slashes, text = stem ++ List.replicate slashes '/' ∧ stem.getLast? ≠ some '/' := by
  rw [Text.trimEndBy_eq_iff]
  constructor
  · rintro ⟨tail, htext, htail, hstem⟩
    have hslashes : tail = List.replicate tail.length '/' :=
      List.eq_replicate_iff.mpr ⟨rfl, fun c hc => beq_iff_eq.mp (htail c hc)⟩
    exact ⟨tail.length, hslashes ▸ htext, fun hlast => by simpa using hstem '/' hlast⟩
  · rintro ⟨slashes, htext, hstem⟩
    refine ⟨_, htext, fun c hc => beq_iff_eq.mpr (List.eq_of_mem_replicate hc), fun c hc => ?_⟩
    exact beq_eq_false_iff_ne.mpr fun hslash => hstem (hslash ▸ hc)

-- ---------------------------------------------------------------------------
-- Groups
-- ---------------------------------------------------------------------------

namespace Http.Client

/-- The id is read off the location that names it. -/
theorem groupId?_eq_some : groupId? location = some id ↔ NamesGroup location id := by
  unfold groupId?
  constructor
  · intro h
    split at h
    · cases h
    · rename_i rest hrest
      obtain ⟨htrim, hne⟩ := id_eq_some.mp h
      obtain ⟨slashes, rfl, hlast⟩ := trimSlashes_eq_iff.mp htrim
      obtain ⟨base, hcut⟩ := Text.after?_eq_some_iff.mp hrest
      exact ⟨base, slashes, hcut, hne, hlast⟩
  · rintro ⟨base, slashes, hcut, hne, hlast⟩
    have hafter : Text.after? pollMarker.toList location.toList =
        some (id.toList ++ List.replicate slashes '/') :=
      Text.after?_eq_some_iff.mpr ⟨base, hcut⟩
    rw [hafter]
    exact id_eq_some.mpr ⟨trimSlashes_eq_iff.mpr ⟨slashes, rfl, hlast⟩, hne⟩

/-- A group is made of the location of an answer that names it. -/
theorem groupOfAnswer_eq_ok {group : Group} :
    groupOfAnswer answer = .ok group ↔
      answer.location = some group.location ∧ NamesGroup group.location group.id := by
  obtain ⟨id, location⟩ := group
  rw [← groupId?_eq_some]
  -- no location, one without an id, and one with an id
  unfold groupOfAnswer
  split
  · rename_i hnone
    simp [hnone]
  · rename_i location' hlocation
    rw [hlocation, Option.some.injEq]
    split
    · rename_i hnone
      refine iff_of_false nofun ?_
      rintro ⟨rfl, hid⟩
      rw [hnone] at hid
      cases hid
    · rename_i id' hid'
      rw [Except.ok.injEq, Group.mk.injEq]
      constructor
      · rintro ⟨rfl, rfl⟩
        exact ⟨rfl, hid'⟩
      · rintro ⟨rfl, hid⟩
        rw [hid'] at hid
        exact ⟨Option.some.inj hid, rfl⟩

/-- An answer names a group, or the group is missing. -/
theorem groupOfAnswer_cases (answer : Answer) :
    (∃ group, groupOfAnswer answer = .ok group) ∨ groupOfAnswer answer = .error missingGroup := by
  unfold groupOfAnswer
  split
  · exact .inr rfl
  · split
    · exact .inr rfl
    · exact .inl ⟨_, rfl⟩

/-- Without a location that names a group, the answer cannot be interpreted. -/
theorem groupOfAnswer_eq_missing :
    groupOfAnswer answer = .error missingGroup ↔
      ¬ ∃ location id, answer.location = some location ∧ NamesGroup location id := by
  constructor
  · rintro hmissing ⟨location, id, hnames⟩
    have hok : groupOfAnswer answer = .ok ⟨id, location⟩ := groupOfAnswer_eq_ok.mpr hnames
    rw [hmissing] at hok
    cases hok
  · intro hnone
    rcases groupOfAnswer_cases answer with ⟨group, hok⟩ | hmissing
    · exact absurd ⟨_, _, groupOfAnswer_eq_ok.mp hok⟩ hnone
    · exact hmissing

variable {c : Client} {body : String}

theorem subscribe_snd (c : Client) (body : String) :
    (c.subscribe body).2 = (c.send .post subscriptionPath (some body) [201]).2 := by
  unfold subscribe
  split <;> rename_i hsend <;> rw [hsend]

/-- What the last answer makes of a subscription. -/
theorem subscribe_cases (c : Client) (body : String) :
    (∃ answer, LastAnswer c.network (c.subscribe body).2.network answer ∧
      (c.subscribe body).1 =
        wholeAnswer (.ok answer) >>= judge .post subscriptionPath [201] >>= groupOfAnswer) ∨
    ∃ e, (c.subscribe body).1 = .error e ∧ e.Unanswered ∧
      ∀ answer, ¬ LastAnswer c.network (c.subscribe body).2.network answer := by
  have hcases := c.send_cases .post subscriptionPath (some body) [201]
  rw [subscribe_snd]
  unfold subscribe
  -- an error of the request is handed on, and an answer is read for its group
  rcases hcases with ⟨answer, hlast, houtcome⟩ | ⟨e, houtcome, hunanswered, hnone⟩
  · refine .inl ⟨answer, hlast, ?_⟩
    rw [← houtcome]
    split <;> rename_i hsend <;> rw [hsend] <;> rfl
  · refine .inr ⟨e, ?_, hunanswered, hnone⟩
    split <;> rename_i hsend <;> rw [hsend] at houtcome
    · exact congrArg Except.error (Except.error.inj houtcome)
    · cases houtcome

/-- The answer that a group was created is read, if it is whole. -/
theorem subscribe_of_created
    (hlast : LastAnswer c.network (c.subscribe body).2.network answer)
    (hwhole : answer.isWhole = true) (hstatus : answer.status = 201) :
    (c.subscribe body).1 = groupOfAnswer answer := by
  rcases c.subscribe_cases body with ⟨answer', hlast', hresult⟩ | ⟨-, -, -, hnone⟩
  · obtain rfl := hlast.unique hlast'
    have hjudged : judge .post subscriptionPath [201] answer = .ok answer :=
      judge_eq_ok.mpr ⟨rfl, by simp [hstatus]⟩
    rw [hresult, Http.wholeAnswer_of_isWhole hwhole]
    show judge .post subscriptionPath [201] answer >>= groupOfAnswer = groupOfAnswer answer
    rw [hjudged]
    rfl
  · exact absurd hlast (hnone answer)

/-- An answer whose body breaks off gives no group, whatever it names. -/
theorem subscribe_of_broken {message : String}
    (hlast : LastAnswer c.network (c.subscribe body).2.network answer)
    (hbroken : answer.bodyFault? = some message) :
    (c.subscribe body).1 = .error (.transport message) := by
  rcases c.subscribe_cases body with ⟨answer', hlast', hresult⟩ | ⟨-, -, -, hnone⟩
  · obtain rfl := hlast.unique hlast'
    rw [hresult, Http.wholeAnswer_of_broken hbroken]
    rfl
  · exact absurd hlast (hnone answer)

/-- Only the whole answer that a group was created gives a group, or lets it be missing. -/
theorem subscribe_eq_iff {result : Except HttpError Group}
    (hresult : (∃ group, result = .ok group) ∨ result = .error missingGroup) :
    (c.subscribe body).1 = result ↔
      ∃ answer, LastAnswer c.network (c.subscribe body).2.network answer ∧
        answer.isWhole = true ∧ answer.status = 201 ∧ groupOfAnswer answer = result := by
  -- any other failure is neither of the two results
  have hother {e : HttpError} (h : Except.error e = result) : e = missingGroup := by
    rcases hresult with ⟨group, hgroup⟩ | hmissing
    · cases h.trans hgroup
    · exact Except.error.inj (h.trans hmissing)
  constructor
  · intro h
    rcases c.subscribe_cases body with ⟨answer, hlast, hjudged⟩ | ⟨e, hfailed, hunanswered, -⟩
    · rcases Http.wholeAnswer_cases answer with ⟨hwhole, hsame⟩ | ⟨message, hbroken, -⟩
      · by_cases hstatus : answer.status = 201
        · exact ⟨answer, hlast, hwhole, hstatus,
            (subscribe_of_created hlast hwhole hstatus).symm.trans h⟩
        · have hrefused : judge .post subscriptionPath [201] answer =
              .error (.status .post subscriptionPath answer.status answer.body) :=
            if_neg (by simpa using hstatus)
          rw [hsame] at hjudged
          change _ = judge .post subscriptionPath [201] answer >>= groupOfAnswer at hjudged
          rw [hrefused] at hjudged
          cases hother (hjudged.symm.trans h)
      · cases hother ((subscribe_of_broken hlast hbroken).symm.trans h)
    · obtain rfl := hother (hfailed.symm.trans h)
      exact hunanswered.elim
  · rintro ⟨answer, hlast, hwhole, hstatus, hread⟩
    rw [subscribe_of_created hlast hwhole hstatus, hread]

end Http.Client

-- ---------------------------------------------------------------------------
-- Progress resources
-- ---------------------------------------------------------------------------

namespace Configuration

/-- The id of a progress resource is read off the location that names it, with the slashes at its
end. -/
theorem progressId?_eq_some : progressId? location = some id ↔ NamesProgress location id := by
  unfold progressId?
  constructor
  · intro h
    split at h
    · cases h
    · rename_i rest hrest
      obtain ⟨rfl, hne⟩ := id_eq_some.mp h
      obtain ⟨base, hcut⟩ := Text.after?_eq_some_iff.mp hrest
      exact ⟨base, hcut, hne⟩
  · rintro ⟨base, hcut, hne⟩
    have hafter : Text.after? progressMarker.toList location.toList = some id.toList :=
      Text.after?_eq_some_iff.mpr ⟨base, hcut⟩
    rw [hafter]
    exact id_eq_some.mpr ⟨rfl, hne⟩

/-- The progress resource is read off the location of the answer. -/
theorem progressOfAnswer_eq_ok :
    progressOfAnswer answer = .ok id ↔
      ∃ location, answer.location = some location ∧ NamesProgress location id := by
  have hbind : answer.location.bind progressId? = some id ↔
      ∃ location, answer.location = some location ∧ NamesProgress location id := by
    rw [Option.bind_eq_some_iff]
    exact exists_congr fun location => and_congr_right fun _ => progressId?_eq_some
  rw [← hbind]
  unfold progressOfAnswer
  split
  · rename_i id' hid'
    rw [hid', Except.ok.injEq, Option.some.injEq]
  · rename_i hnone
    rw [hnone]
    exact iff_of_false nofun nofun

theorem progressOfAnswer_of_unnamed
    (h : ¬ ∃ location id, answer.location = some location ∧ NamesProgress location id) :
    progressOfAnswer answer = .error ⟨.missingProgress, none⟩ := by
  cases hread : progressOfAnswer answer with
  | ok id =>
    obtain ⟨location, hlocation, hnames⟩ := progressOfAnswer_eq_ok.mp hread
    exact absurd ⟨location, id, hlocation, hnames⟩ h
  | error e =>
    unfold progressOfAnswer at hread
    split at hread
    · cases hread
    · exact hread.symm

/-- The loading of a file that has a name is one request. -/
theorem load_eq {file : File} (hname : file.filename ≠ "") (c : Client) (mode : Mastership.Mode) :
    load c file mode =
      Call.reading progressOfAnswer
        (c.send .post ("/rw/cfg/load?mastership=" ++ mode.wireName)
          (some (Text.Form.encode [("filepath", file.path), ("action-type", "replace")]))
          accepted) := by
  rw [load, if_neg (by simpa using hname)]

end Configuration

-- ---------------------------------------------------------------------------
-- Ids
-- ---------------------------------------------------------------------------

/-- **Ids are read from locations.** A subscription gives a group just if the last answer is whole
and reports that it was created, and its location, which is kept as it is, names the id: this stands
behind the first marker, up to the slashes at the end. If that answer names no group, the failure is
that of an answer that cannot be interpreted, and this failure has no other cause. So any id that is
not empty and does not end in a slash is read back from behind a marker, if no marker comes before.
If the body of the last answer breaks off, the transport has failed, whatever its status and its
location are. In the same way, the loading of a file that has a name gives the id of the progress
resource that the location of a whole accepted answer names, and fails with a protocol error if it
names none.

The answers meant are all whose headers have arrived; `isWhole` tells which of them are whole. -/
theorem ids_are_read_from_locations :
    (∀ (c : Client) (body : String),
      (∀ id location, (c.subscribe body).1 = .ok ⟨id, location⟩ ↔
        ∃ answer, LastAnswer c.network (c.subscribe body).2.network answer ∧
          answer.isWhole = true ∧ answer.status = 201 ∧ answer.location = some location ∧
          NamesGroup location id) ∧
      ((c.subscribe body).1 = .error Client.missingGroup ↔
        ∃ answer, LastAnswer c.network (c.subscribe body).2.network answer ∧
          answer.isWhole = true ∧ answer.status = 201 ∧
          ¬ ∃ location id, answer.location = some location ∧ NamesGroup location id) ∧
      (∀ answer base id, LastAnswer c.network (c.subscribe body).2.network answer →
        answer.isWhole = true → answer.status = 201 →
        answer.location = some (base ++ "/poll/" ++ id) →
        Text.FirstCut "/poll/".toList (base ++ "/poll/" ++ id).toList base.toList id.toList →
        id ≠ "" → id.toList.getLast? ≠ some '/' →
        (c.subscribe body).1 = .ok ⟨id, base ++ "/poll/" ++ id⟩) ∧
      ∀ answer message, LastAnswer c.network (c.subscribe body).2.network answer →
        answer.bodyFault? = some message → (c.subscribe body).1 = .error (.transport message)) ∧
    ∀ (c : Client) (file : Configuration.File) (mode : Mastership.Mode), file.filename ≠ "" →
      (∀ id, (Configuration.load c file mode).1 = .ok id ↔
        ∃ answer location,
          LastAnswer c.network (Configuration.load c file mode).2.network answer ∧
          answer.isWhole = true ∧ answer.status ∈ [200, 202, 204] ∧
          answer.location = some location ∧ NamesProgress location id) ∧
      (∀ answer, LastAnswer c.network (Configuration.load c file mode).2.network answer →
        answer.isWhole = true → answer.status ∈ [200, 202, 204] →
        (¬ ∃ location id, answer.location = some location ∧ NamesProgress location id) →
        (Configuration.load c file mode).1 = .error (.protocol ⟨.missingProgress, none⟩)) ∧
      ∀ answer message, LastAnswer c.network (Configuration.load c file mode).2.network answer →
        answer.bodyFault? = some message →
        (Configuration.load c file mode).1 = .error (.transport message) := by
  constructor
  · intro c body
    refine ⟨fun id location => ?_, ?_, ?_, fun answer message => Client.subscribe_of_broken⟩
    · rw [Client.subscribe_eq_iff (.inl ⟨_, rfl⟩)]
      simp only [Client.groupOfAnswer_eq_ok]
    · rw [Client.subscribe_eq_iff (.inr rfl)]
      simp only [Client.groupOfAnswer_eq_missing]
    · intro answer base id hlast hwhole hstatus hlocation hcut hne hend
      rw [Client.subscribe_of_created hlast hwhole hstatus]
      -- the id does not end in a slash, so that no slash is cut off
      refine Client.groupOfAnswer_eq_ok.mpr ⟨hlocation, base.toList, 0, ?_, hne, hend⟩
      rwa [List.replicate_zero, List.append_nil]
  · intro c file mode hname
    rw [Configuration.load_eq hname]
    refine ⟨fun id => ?_, fun answer hlast hwhole hstatus hunnamed => ?_,
      fun answer message => Call.reading_of_broken⟩
    · rw [Call.reading_eq_ok]
      simp only [Configuration.accepted, Configuration.progressOfAnswer_eq_ok, exists_and_left]
    · rw [Call.reading_of_accepted hlast hwhole hstatus,
        Configuration.progressOfAnswer_of_unnamed hunnamed]
      rfl

/-- A marker within an id belongs to the id, and the slashes at the end of a location do not. -/
theorem ids_with_markers_are_read :
    let baseUrl : Url := ⟨"https", some { host := .name "robot" }, .segments [""], none, none⟩
    let client (answer : Answer) : Client :=
      { options := { baseUrl, retryBackoff := [Duration.ofMilliseconds 200] }
        network := { outcomes := [.ok { status := 503 }, .ok answer] } }
    let file : Configuration.File := ⟨"$HOME", "EIO.cfg"⟩
    ((client { status := 201, location := some "/poll/poll/7//" }).subscribe "").1 =
      .ok ⟨"poll/7", "/poll/poll/7//"⟩ ∧
    (Configuration.load (client { status := 202, location := some "/rw/progress/3/progress/4/" })
      file .implicit).1 = .ok "3/progress/4/" := by
  intro baseUrl client file
  have hgroup : NamesGroup "/poll/poll/7//" "poll/7" :=
    ⟨[], 2, ⟨by decide, fun _ _ _ => Nat.zero_le _⟩, by decide, by decide⟩
  have hprogress : NamesProgress "/rw/progress/3/progress/4/" "3/progress/4/" := by
    obtain ⟨base, hcut⟩ := Text.after?_eq_some_iff.mp (show Text.after? "/progress/".toList
      "/rw/progress/3/progress/4/".toList = some "3/progress/4/".toList by decide +kernel)
    exact ⟨base, hcut, by decide⟩
  obtain ⟨hsubscribe, hload⟩ := ids_are_read_from_locations
  constructor
  -- a busy answer comes first, so that the answer in question is the second one
  · let created : Answer := { status := 201, location := some "/poll/poll/7//" }
    have hurl : (client created).resolve Client.subscriptionPath =
        .ok { baseUrl with path := .segments ["subscription"] } := by
      decide +kernel
    have hlast : LastAnswer (client created).network
        ((client created).subscribe "").2.network created := by
      rw [Client.subscribe_snd]
      exact (Client.lastAnswer_iff hurl).mpr rfl
    exact ((hsubscribe (client created) "").1 _ _).mpr
      ⟨created, hlast, rfl, rfl, rfl, hgroup⟩
  · let started : Answer := { status := 202, location := some "/rw/progress/3/progress/4/" }
    have hname : file.filename ≠ "" := by decide
    have hurl : (client started).resolve
        ("/rw/cfg/load?mastership=" ++ Mastership.Mode.implicit.wireName) = .ok { baseUrl with
          path := .segments ["rw", "cfg", "load"], query := some "mastership=implicit" } := by
      decide +kernel
    have hlast : LastAnswer (client started).network
        (Configuration.load (client started) file .implicit).2.network started := by
      rw [Configuration.load_eq hname, Call.reading_snd]
      exact (Client.lastAnswer_iff hurl).mpr rfl
    exact ((hload (client started) file .implicit hname).1 _).mpr
      ⟨started, _, hlast, rfl, by decide, rfl, hprogress⟩

/-- A group was created and the location of the answer names it, but the body breaks off behind the
headers. The subscription neither gives the group nor fails as an answer that cannot be
interpreted. -/
theorem broken_answer_names_no_group :
    let baseUrl : Url := ⟨"https", some { host := .name "robot" }, .segments [""], none, none⟩
    let created : Answer :=
      { status := 201, location := some "/poll/1", bodyFault? := some "unexpected end of file" }
    let c : Client := { options := { baseUrl }, network := { outcomes := [.ok created] } }
    LastAnswer c.network (c.subscribe "").2.network created ∧ NamesGroup "/poll/1" "1" ∧
      (c.subscribe "").1 = .error (.transport "unexpected end of file") ∧
      (c.subscribe "").1 ≠ .ok ⟨"1", "/poll/1"⟩ ∧
      (c.subscribe "").1 ≠ .error Client.missingGroup := by
  intro baseUrl created c
  have hurl : c.resolve Client.subscriptionPath =
      .ok { baseUrl with path := .segments ["subscription"] } := by
    decide +kernel
  have hlast : LastAnswer c.network (c.subscribe "").2.network created := by
    rw [Client.subscribe_snd]
    exact (Client.lastAnswer_iff hurl).mpr rfl
  have hfailed : (c.subscribe "").1 = .error (.transport "unexpected end of file") :=
    Client.subscribe_of_broken hlast rfl
  -- the marker stands at the very beginning, and no slash at the end
  refine ⟨hlast, ⟨[], 0, ⟨by decide, fun _ _ _ => Nat.zero_le _⟩, by decide, by decide⟩, hfailed,
    ?_, ?_⟩
  · rw [hfailed]
    nofun
  · rw [hfailed]
    nofun

end RobotWeb
