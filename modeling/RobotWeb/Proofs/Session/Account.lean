import RobotWeb.Proofs.Http.Exchanges
import RobotWeb.Proofs.Session.Life
import RobotWeb.Proofs.Session.Step

/-!
# What the trace of a session stands for

The trace is what a session notes of itself. Each entry stands for something that takes place
outside of it: the exchanges of one request, or one use of the connector or of the stream, with the
outcome that the entry tells. Nothing takes place that has no entry, and no entry is made of
nothing.

* `Outside`                 — what a session acts on.
* `Outside.Does`            — what each effect changes there, and which outcome it tells.
* `Outside.DoesAll`         — effects one after the other.
* `Session.Accounted`       — what was added to the trace between two states is what took place.
* `perform_accounted`, `performAll_accounted`, `drop_accounted` — every call is accounted for.
* `DoesAll.released_length` — streams are let go of by closing them.
* `DoesAll.deletes`         — deletions in the trace are deletions on the wire, and no others are
  sent.
* `DoesAll.spares`          — without deletions and closings in the trace there are none outside.
-/

namespace RobotWeb.Stream

open Http (Network Requested)

-- ---------------------------------------------------------------------------
-- Effects on the outside
-- ---------------------------------------------------------------------------

/-- What a session acts on: the network behind its client, what opens its stream, the open stream,
and the streams that were let go of, as their closing has left them. -/
structure Outside (κ τ : Type) where
  network : Network
  connector : κ
  transport? : Option τ
  released : List τ

namespace Outside

variable {κ τ : Type} [FrameTransport τ] [StreamConnector κ τ]

/-- What one effect does to the outside, for a client and a stream with these options. An effect
that asks the controller stands for all the exchanges of one request, and tells how that ended. -/
inductive Does (http : Http.Options) (options : Options) :
    Outside κ τ → Effect → Outside κ τ → Prop where
  | subscribe {w : Outside κ τ} {form : String} {talk : List Http.Exchange}
      {result : Except HttpError Http.Answer} {network : Network}
      (exchanged : w.network.Talk talk network)
      (requested :
        Requested http .post Http.Client.subscriptionPath (some form) [201] talk result) :
      Does http options w
        (.subscribe form ((result >>= Http.Client.groupOfAnswer).toOption.map (·.id)))
        { w with network }
  | unsubscribe {w : Outside κ τ} {group : String} {talk : List Http.Exchange}
      {result : Except HttpError Http.Answer} {network : Network}
      (exchanged : w.network.Talk talk network)
      (requested : Requested http .delete (Http.Client.groupPath group) none Http.Client.done talk
        result) :
      Does http options w (.unsubscribe group result.isOk) { w with network }
  | update {w : Outside κ τ} {group form : String} {talk : List Http.Exchange}
      {result : Except HttpError Http.Answer} {network : Network}
      (exchanged : w.network.Talk talk network)
      (requested :
        Requested http .put (Http.Client.groupPath group) (some form) Http.Client.done talk
          result) :
      Does http options w (.update group form result.isOk) { w with network }
  | connect {w : Outside κ τ} {locator : Locator} {client : Http.Client} {transport : τ}
      {connector : κ} (hoptions : client.options = http) (hnetwork : client.network = w.network)
      (h : StreamConnector.connect w.connector client locator options =
        (.ok transport, connector)) :
      Does http options w (.connect locator options.protocol true)
        { w with connector, transport? := some transport }
  | refuse {w : Outside κ τ} {locator : Locator} {client : Http.Client} {e : TransportError}
      {connector : κ} (hoptions : client.options = http) (hnetwork : client.network = w.network)
      (h : StreamConnector.connect w.connector client locator options = (.error e, connector)) :
      Does http options w (.connect locator options.protocol false) { w with connector }
  | receive {w : Outside κ τ} {transport : τ} (h : w.transport? = some transport) :
      Does http options w .receive
        { w with transport? := some (FrameTransport.receive transport).2 }
  | closeStream {w : Outside κ τ} {transport : τ} (h : w.transport? = some transport) :
      Does http options w (.closeStream (FrameTransport.close transport).1.isOk)
        { w with
          transport? := none
          released := w.released ++ [(FrameTransport.close transport).2] }

/-- Effects one after the other. -/
inductive DoesAll (http : Http.Options) (options : Options) :
    Outside κ τ → List Effect → Outside κ τ → Prop where
  | nil (w : Outside κ τ) : DoesAll http options w [] w
  | cons {w w' w'' : Outside κ τ} {effect : Effect} {rest : List Effect}
      (h : Does http options w effect w') (hrest : DoesAll http options w' rest w'') :
      DoesAll http options w (effect :: rest) w''

variable {http : Http.Options} {options : Options} {w w' w'' : Outside κ τ}
  {effects more : List Effect}

/-- Effects are put together. -/
theorem DoesAll.append (h : DoesAll http options w effects w')
    (h' : DoesAll http options w' more w'') : DoesAll http options w (effects ++ more) w'' := by
  induction h with
  | nil => exact h'
  | cons hstep _ ih => exact .cons hstep (ih h')

/-- As many streams were let go of as effects have closed one. -/
theorem DoesAll.released_length (h : DoesAll http options w effects w') :
    w'.released.length = w.released.length + (effects.filter Effect.closesStream).length := by
  induction h with
  | nil => rfl
  | cons hstep _ ih =>
    rw [ih]
    cases hstep with
    | closeStream =>
      rw [List.filter_cons_of_pos rfl, List.length_append, List.length_singleton,
        List.length_cons, Nat.add_assoc, Nat.add_comm 1]
    | subscribe | unsubscribe | update | connect | refuse | receive =>
      rw [List.filter_cons_of_neg Bool.false_ne_true]

/-- Streams are let go of by closing them only. -/
theorem DoesAll.released_eq (h : DoesAll http options w effects w')
    (hnone : ∀ effect ∈ effects, effect.closesStream = false) : w'.released = w.released := by
  induction h with
  | nil => rfl
  | cons hstep _ ih =>
    rw [ih fun effect heffect => hnone effect (List.mem_cons_of_mem _ heffect)]
    cases hstep with
    | closeStream => cases hnone _ List.mem_cons_self
    | subscribe | unsubscribe | update | connect | refuse | receive => rfl

-- ---------------------------------------------------------------------------
-- Deletions on the wire
-- ---------------------------------------------------------------------------

/-- The requests that were sent delete each of the groups, and no other one. -/
structure Deletes (http : Http.Options) (groups : List String) (sent : List Http.Request) :
    Prop where
  each : ∀ group ∈ groups, ∃ request ∈ sent, request.method = .delete ∧
    http.baseUrl.join (Http.Client.groupPath group) = .ok request.url
  only : ∀ request ∈ sent, request.method = .delete → ∃ group ∈ groups,
    http.baseUrl.join (Http.Client.groupPath group) = .ok request.url

/-- Requests that delete some groups and requests that delete others delete both. -/
theorem Deletes.append {groups groups' : List String} {sent sent' : List Http.Request}
    (h : Deletes http groups sent) (h' : Deletes http groups' sent') :
    Deletes http (groups ++ groups') (sent ++ sent') where
  each group hgroup := by
    rcases List.mem_append.mp hgroup with hgroup | hgroup
    · obtain ⟨request, hrequest, hdelete⟩ := h.each group hgroup
      exact ⟨request, List.mem_append_left _ hrequest, hdelete⟩
    · obtain ⟨request, hrequest, hdelete⟩ := h'.each group hgroup
      exact ⟨request, List.mem_append_right _ hrequest, hdelete⟩
  only request hrequest hmethod := by
    rcases List.mem_append.mp hrequest with hrequest | hrequest
    · obtain ⟨group, hgroup, hurl⟩ := h.only request hrequest hmethod
      exact ⟨group, List.mem_append_left _ hgroup, hurl⟩
    · obtain ⟨group, hgroup, hurl⟩ := h'.only request hrequest hmethod
      exact ⟨group, List.mem_append_right _ hgroup, hurl⟩

theorem Deletes.nil (http : Http.Options) : Deletes http [] [] where
  each _ hgroup := absurd hgroup List.not_mem_nil
  only _ hrequest := absurd hrequest List.not_mem_nil

/-- Exchanges of another method delete nothing. -/
theorem Deletes.of_method {method : Http.Method} (hmethod : method ≠ .delete)
    {talk : List Http.Exchange} (h : ∀ e ∈ talk, e.request.method = method) :
    Deletes http [] (talk.map (·.request)) where
  each _ hgroup := absurd hgroup List.not_mem_nil
  only request hrequest hdelete := by
    obtain ⟨e, he, rfl⟩ := List.mem_map.mp hrequest
    exact absurd ((h e he).symm.trans hdelete) hmethod

/-- What an effect sends deletes the group that it says, if that has a URL. -/
theorem Does.deletes {effect : Effect} (h : Does http options w effect w')
    (hurl : ∀ group, effect.deletedGroup? = some group →
      ∃ url, http.baseUrl.join (Http.Client.groupPath group) = .ok url) :
    ∃ sent, w'.network.requests = w.network.requests ++ sent ∧
      Deletes http effect.deletedGroup?.toList sent := by
  -- only the deletion of a group sends with its method; it sends once for each attempt
  cases h with
  | subscribe exchanged requested =>
    exact ⟨_, exchanged.requests, .of_method (by decide) requested.method_eq⟩
  | update exchanged requested =>
    exact ⟨_, exchanged.requests, .of_method (by decide) requested.method_eq⟩
  | @unsubscribe group talk result network exchanged requested =>
    have hgroups : (Effect.unsubscribe group result.isOk).deletedGroup?.toList = [group] := rfl
    rw [hgroups]
    refine ⟨_, exchanged.requests, List.forall_mem_singleton.mpr ?_, fun request hrequest _ => ?_⟩
    · obtain ⟨url, hjoined⟩ := hurl group rfl
      obtain ⟨e, he⟩ := List.exists_mem_of_ne_nil talk (requested.ne_nil hjoined)
      exact ⟨e.request, List.mem_map_of_mem he, requested.method_eq e he, requested.url_eq e he⟩
    · obtain ⟨e, he, rfl⟩ := List.mem_map.mp hrequest
      exact ⟨group, List.mem_singleton_self group, requested.url_eq e he⟩
  | connect | refuse | receive | closeStream => exact ⟨[], (List.append_nil _).symm, .nil http⟩

/-- Deletions in the trace and deletions on the wire are of the same groups. -/
theorem DoesAll.deletes (h : DoesAll http options w effects w')
    (hurl : ∀ group ∈ effects.filterMap Effect.deletedGroup?,
      ∃ url, http.baseUrl.join (Http.Client.groupPath group) = .ok url) :
    ∃ sent, w'.network.requests = w.network.requests ++ sent ∧
      Deletes http (effects.filterMap Effect.deletedGroup?) sent := by
  induction h with
  | nil => exact ⟨[], (List.append_nil _).symm, .nil http⟩
  | @cons _ _ _ effect rest hstep _ ih =>
    -- the first effect deletes its group, if any, before the groups of the rest
    have hgroups : (effect :: rest).filterMap Effect.deletedGroup? =
        effect.deletedGroup?.toList ++ rest.filterMap Effect.deletedGroup? := by
      cases hgroup : effect.deletedGroup? <;> simp [hgroup]
    rw [hgroups] at hurl ⊢
    obtain ⟨sent, hsent, hdeletes⟩ := hstep.deletes fun group hgroup =>
      hurl group (List.mem_append_left _ (by simp [hgroup]))
    obtain ⟨later, hlater, hrest⟩ := ih fun group hgroup =>
      hurl group (List.mem_append_right _ hgroup)
    exact ⟨sent ++ later, by rw [hlater, hsent, List.append_assoc], hdeletes.append hrest⟩

/-- Between the two no deletion was sent and no stream was closed. -/
structure Spares (w w' : Outside κ τ) : Prop where
  released : w'.released = w.released
  undeleted : ∃ sent, w'.network.requests = w.network.requests ++ sent ∧
    ∀ request ∈ sent, request.method ≠ .delete

/-- Effects that delete and close nothing spare the outside. -/
theorem DoesAll.spares (h : DoesAll http options w effects w')
    (hnone : ∀ effect ∈ effects, effect.deletedGroup? = none ∧ effect.closesStream = false) :
    w.Spares w' where
  released := h.released_eq fun effect heffect => (hnone effect heffect).2
  undeleted := by
    have hgroups : effects.filterMap Effect.deletedGroup? = [] :=
      List.filterMap_eq_nil_iff.mpr fun effect heffect => (hnone effect heffect).1
    obtain ⟨sent, hsent, hdeletes⟩ := h.deletes fun group hgroup => by
      rw [hgroups] at hgroup
      cases hgroup
    refine ⟨sent, hsent, fun request hrequest hmethod => ?_⟩
    obtain ⟨group, hgroup, -⟩ := hdeletes.only request hrequest hmethod
    rw [hgroups] at hgroup
    cases hgroup

/-- A group was created only if there is a URL to create groups at. -/
theorem DoesAll.join_of_created (h : DoesAll http options w effects w') {group : String}
    (hgroup : group ∈ effects.filterMap Effect.createdGroup?) :
    ∃ url, http.baseUrl.join Http.Client.subscriptionPath = .ok url := by
  induction h with
  | nil => cases hgroup
  | @cons _ _ _ effect rest hstep _ ih =>
    cases hcreated : effect.createdGroup? with
    | none =>
      rw [List.filterMap_cons_none hcreated] at hgroup
      exact ih hgroup
    | some created =>
      cases hstep with
      | subscribe _ requested =>
        -- a group that was created was asked for, and so there was a URL to ask at
        cases requested with
        | sent hurl => exact ⟨_, hurl⟩
        | unsent => cases hcreated
      | unsubscribe | update | connect | refuse | receive | closeStream => cases hcreated

end Outside

-- ---------------------------------------------------------------------------
-- Accounts of calls
-- ---------------------------------------------------------------------------

namespace Session

variable {κ τ η : Type}

/-- The outside as the session finds it. -/
def outside (s : Session κ τ) : Outside κ τ :=
  ⟨s.client.network, s.connector, s.transport?, s.released⟩

variable [FrameTransport τ] [StreamConnector κ τ]

/-- What was added to the trace between two states of a session is what took place outside between
them. The options, by which requests are made and streams are opened, are the same. -/
structure Accounted (s s' : Session κ τ) : Prop where
  clientOptions : s'.client.options = s.client.options
  options : s'.options = s.options
  effects : ∃ effects, s'.trace = s.trace ++ effects ∧
    Outside.DoesAll s.client.options s.options s.outside effects s'.outside

namespace Accounted

variable {s s' s'' : Session κ τ}

/-- Nothing that counts outside has changed. -/
theorem quiet (hclient : s'.client.options = s.client.options) (hoptions : s'.options = s.options)
    (htrace : s'.trace = s.trace) (houtside : s'.outside = s.outside) : s.Accounted s' :=
  ⟨hclient, hoptions, [], by rw [htrace, List.append_nil], houtside ▸ .nil _⟩

theorem refl (s : Session κ τ) : s.Accounted s :=
  .quiet rfl rfl rfl rfl

/-- One effect has taken place. -/
theorem one {effect : Effect} (hclient : s'.client.options = s.client.options)
    (hoptions : s'.options = s.options) (htrace : s'.trace = s.trace ++ [effect])
    (h : Outside.Does s.client.options s.options s.outside effect s'.outside) : s.Accounted s' :=
  ⟨hclient, hoptions, [effect], htrace, .cons h (.nil _)⟩

/-- Accounts of two stretches are put together. -/
theorem trans (h : s.Accounted s') (h' : s'.Accounted s'') : s.Accounted s'' := by
  obtain ⟨effects, htrace, hdone⟩ := h.effects
  obtain ⟨more, htrace', hdone'⟩ := h'.effects
  rw [h.clientOptions, h.options] at hdone'
  refine ⟨h'.clientOptions.trans h.clientOptions, h'.options.trans h.options, effects ++ more, ?_,
    hdone.append hdone'⟩
  rw [htrace', htrace, List.append_assoc]

/-- What is known to have been added to the trace is what took place. -/
theorem doesAll (h : s.Accounted s') {effects : List Effect}
    (htrace : s'.trace = s.trace ++ effects) :
    Outside.DoesAll s.client.options s.options s.outside effects s'.outside := by
  obtain ⟨added, hadded, hdone⟩ := h.effects
  rwa [List.append_cancel_left (hadded.symm.trans htrace)] at hdone

end Accounted

-- ---------------------------------------------------------------------------
-- Ending
-- ---------------------------------------------------------------------------

theorem note_accounted (s : Session κ τ) (level : Log.Level) (message : String) :
    s.Accounted (s.note level message) :=
  .quiet rfl rfl rfl rfl

/-- Deleting a group takes one request, and the entry tells whether it has succeeded. -/
theorem unsubscribe_does (s : Session κ τ) (group : String) :
    Outside.Does s.client.options s.options s.outside
      (.unsubscribe group (s.client.unsubscribe group).1.isOk)
      { s.outside with network := (s.client.unsubscribe group).2.network } := by
  obtain ⟨talk, result, htalk, hrequested, hresult⟩ := s.client.unsubscribe_requested group
  have hok : (s.client.unsubscribe group).1.isOk = result.isOk := by
    rw [hresult]
    cases result <;> rfl
  rw [hok]
  exact .unsubscribe htalk hrequested

/-- Deleting the group is one effect, and none if there is no group. -/
theorem unsubscribe_accounted (s : Session κ τ) : s.Accounted s.unsubscribe := by
  unfold unsubscribe
  split
  · exact .refl s
  · rename_i group _
    have hdoes := s.unsubscribe_does group
    have hoptions := s.client.options_unsubscribe group
    split <;> rename_i hreply <;> rw [hreply] at hdoes hoptions <;>
      exact .one hoptions rfl rfl hdoes

/-- Closing the stream is one effect, and none if there is no stream. -/
theorem closeStream_accounted (s : Session κ τ) : s.Accounted s.closeStream := by
  rcases Option.eq_none_or_eq_some s.transport? with ht | ⟨transport, ht⟩
  · rw [closeStream_of_none ht]
    exact .refl s
  · rw [closeStream_of_some ht]
    exact .one rfl rfl rfl (.closeStream ht)

/-- Both ways to end a session are made of these two. -/
theorem shutDown_accounted (s : Session κ τ) : s.Accounted s.shutDown := by
  have hclosing : s.Accounted { s with phase := .closing } := .quiet rfl rfl rfl rfl
  have hended := (hclosing.trans (unsubscribe_accounted _)).trans (closeStream_accounted _)
  exact hended.trans (.quiet rfl rfl rfl rfl)

theorem fail_accounted (s : Session κ τ) : s.Accounted s.fail :=
  (s.closeStream_accounted.trans (unsubscribe_accounted _)).trans (.quiet rfl rfl rfl rfl)

-- ---------------------------------------------------------------------------
-- Starting
-- ---------------------------------------------------------------------------

/-- Opening a stream is one use of the connector, and what follows a refusal is accounted for. -/
theorem connectTo_accounted (s : Session κ τ) (locator : Locator) :
    s.Accounted (s.connectTo locator).2 := by
  unfold connectTo
  split
  · rename_i transport connector h
    exact .one rfl rfl rfl (.connect rfl rfl h)
  · rename_i e connector h
    have hrefused : s.Accounted ({ s with connector }.record
        (.connect locator s.options.protocol false)) :=
      .one rfl rfl rfl (.refuse rfl rfl h)
    exact (hrefused.trans (note_accounted _ _ _)).trans (fail_accounted _)

/-- Asking for a group takes one request, and the entry tells the id that was read off its answer.
-/
theorem subscribe_does (s : Session κ τ) (form : String) :
    Outside.Does s.client.options s.options s.outside
      (.subscribe form ((s.client.subscribe form).1.toOption.map (·.id)))
      { s.outside with network := (s.client.subscribe form).2.network } := by
  obtain ⟨talk, result, htalk, hrequested, hresult⟩ := s.client.subscribe_requested form
  rw [hresult]
  exact .subscribe htalk hrequested

/-- An opening creates a group, if it does anything, and all that follows is accounted for. -/
theorem start_accounted (s : Session κ τ) (subscription : Subscription) :
    s.Accounted (s.start subscription).2 := by
  unfold start
  split
  · exact .refl s
  · split
    · exact .refl s
    · have hdoes := s.subscribe_does subscription.encodeBody
      have hoptions := s.client.options_subscribe subscription.encodeBody
      dsimp only
      -- the creation of the group is on record before anything depends on its answer
      split <;> rename_i hreply <;> rw [hreply] at hdoes hoptions
      · rename_i e client
        have hrefused : s.Accounted ({ s with client, phase := .failed }.record
            (.subscribe subscription.encodeBody none)) :=
          .one hoptions rfl rfl hdoes
        exact hrefused.trans (.quiet rfl rfl rfl rfl)
      · rename_i group client
        have hcreated : s.Accounted ({ s with
            client, phase := .requesting, group? := some group.id }.record
              (.subscribe subscription.encodeBody (some group.id))) :=
          .one hoptions rfl rfl hdoes
        split
        · exact (hcreated.trans (note_accounted _ _ _)).trans (fail_accounted _)
        · exact hcreated.trans (connectTo_accounted _ _)

-- ---------------------------------------------------------------------------
-- Receiving
-- ---------------------------------------------------------------------------

/-- What a read leads to is accounted for by how it ends: going on, shutting down or failing. -/
theorem conclude_accounted (s : Session κ τ) (subscriber : Subscriber η) (state : η)
    (read : Except TransportError FrameRead) :
    s.Accounted (s.conclude subscriber state read).2.2 := by
  rcases s.conclude_cases subscriber state read with ⟨journal, hs, -⟩ | hs | ⟨e, -, hs⟩
  · rw [hs]
    exact .quiet rfl rfl rfl rfl
  · rw [hs]
    exact s.shutDown_accounted
  · rw [hs]
    exact (s.note_accounted _ _).trans (fail_accounted _)

/-- A receive waits once on the stream that is held, or not at all. -/
theorem receive_accounted (s : Session κ τ) (subscriber : Subscriber η) (state : η) :
    s.Accounted (s.receive subscriber state).2.2 := by
  by_cases hp : s.phase = .active
  · cases hr : s.closeRequested with
    | true =>
      rw [receive_of_requested hp hr]
      exact s.shutDown_accounted
    | false =>
      rcases Option.eq_none_or_eq_some s.transport? with ht | ⟨transport, ht⟩
      · rw [receive_of_streamless hp hr ht]
        exact s.conclude_accounted subscriber state (.ok .closed)
      · obtain ⟨⟨wait, left⟩, hw⟩ : ∃ r, FrameTransport.receive transport = r := ⟨_, rfl⟩
        obtain ⟨closeRequested, hreceive⟩ := receive_of_wait hp hr ht hw subscriber state
        -- the wait is one use of the stream, and what is concluded from it comes after
        have hwaited : s.Accounted (s.afterWait wait left) := by
          have hdoes : Outside.Does s.client.options s.options s.outside .receive
              { s.outside with transport? := some (FrameTransport.receive transport).2 } :=
            .receive ht
          rw [hw] at hdoes
          exact .one rfl rfl rfl hdoes
        rw [hreceive]
        exact (hwaited.trans (conclude_accounted _ subscriber state wait.read)).trans
          (.quiet rfl rfl rfl rfl)
  · by_cases hc : s.phase = .closed
    · rw [receive_of_closed hc]
      exact .refl s
    · rw [receive_of_misused hp hc]
      exact .refl s

/-- A run is accounted for receive by receive. -/
theorem run_accounted (s : Session κ τ) (limit : Nat) (subscriber : Subscriber η) (state : η) :
    s.Accounted (s.run limit subscriber state).2.2 := by
  induction limit generalizing s state with
  | zero => exact .refl s
  | succ limit ih =>
    have hreceived := s.receive_accounted subscriber state
    rcases s.run_cases limit subscriber state with ⟨journal, hrun⟩ | hrun
    · have hlogged : s.Accounted ((s.receive subscriber state).2.2.logged journal) :=
        hreceived.trans (.quiet rfl rfl rfl rfl)
      rw [hrun]
      exact hlogged.trans (ih _ _)
    · rw [hrun]
      exact hreceived

-- ---------------------------------------------------------------------------
-- Calls
-- ---------------------------------------------------------------------------

/-- Replacing the resources of a group takes one request, and the entry tells whether it has
succeeded. -/
theorem update_does (s : Session κ τ) (group form : String) :
    Outside.Does s.client.options s.options s.outside
      (.update group form (s.client.updateSubscription group form).1.isOk)
      { s.outside with network := (s.client.updateSubscription group form).2.network } := by
  obtain ⟨talk, result, htalk, hrequested, hresult⟩ :=
    s.client.updateSubscription_requested group form
  have hok : (s.client.updateSubscription group form).1.isOk = result.isOk := by
    rw [hresult]
    cases result <;> rfl
  rw [hok]
  exact .update htalk hrequested

/-- Replacing resources is one request, whatever comes of it. -/
theorem update_accounted (s : Session κ τ) (subscription : Subscription) (router : Router) :
    s.Accounted (s.update subscription router).2 := by
  unfold update
  split
  · exact .refl s
  · split
    · exact .refl s
    · split
      · exact .quiet rfl rfl rfl rfl
      · rename_i group _
        have hdoes := s.update_does group subscription.encodeBody
        have hoptions := s.client.options_updateSubscription group subscription.encodeBody
        dsimp only
        split <;> rename_i hreply <;> rw [hreply] at hdoes hoptions <;>
          exact .one hoptions rfl rfl hdoes

theorem close_accounted (s : Session κ τ) : s.Accounted s.close := by
  unfold close
  split
  · exact .quiet rfl rfl rfl rfl
  · exact s.shutDown_accounted
  · exact .refl s

theorem detach_accounted (s : Session κ τ) : s.Accounted s.detach.2 := by
  unfold detach
  split
  · exact .refl s
  · exact s.closeStream_accounted.trans (.quiet rfl rfl rfl rfl)

theorem drop_accounted (s : Session κ τ) : s.Accounted s.drop := by
  unfold drop
  split
  · exact s.close_accounted
  · exact .refl s

/-- Every call is accounted for, on every session. -/
theorem perform_accounted (s : Session κ τ) (call : Call) : s.Accounted (s.perform call).2 := by
  cases call with
  | start subscription => exact s.start_accounted subscription
  | receive subscriber state => exact s.receive_accounted subscriber state
  | run limit subscriber state => exact s.run_accounted limit subscriber state
  | update subscription router => exact s.update_accounted subscription router
  | close => exact s.close_accounted
  | detach => exact s.detach_accounted
  | requestClose => exact .quiet rfl rfl rfl rfl

theorem performAll_accounted (s : Session κ τ) (calls : List Call) :
    s.Accounted (s.performAll calls).2 := by
  induction calls generalizing s with
  | nil => exact .refl s
  | cons call rest ih => exact (s.perform_accounted call).trans (ih _)

end Session

end RobotWeb.Stream
