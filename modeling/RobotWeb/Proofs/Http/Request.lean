import RobotWeb.Http.Client

/-!
# What requests leave alone

A request changes the cookies, the network and the journal of a client, never its options, and what
a client makes of a location depends on its options alone.

* `options_send`              — the options stay.
* `streamUrl_of_options`      — equal options give equal stream URLs.
* `subscribe_eq_ok`           — the group that an answer names is read off its location.
-/

namespace RobotWeb.Http.Client

theorem options_attempt (c : Client) (method : Method) (url : Url) (body : Option String) :
    (c.attempt method url body).2.options = c.options := by
  unfold attempt
  dsimp only
  split
  · rfl
  · split <;> rfl

/-- Requests do not change the options of a client, however often they are repeated. -/
theorem options_sendTo (c : Client) (method : Method) (url : Url) (path : String)
    (body : Option String) (accepted : List Nat) (backoff : List Duration) :
    (c.sendTo method url path body accepted backoff).2.options = c.options := by
  -- over the delays; every attempt keeps the options
  induction backoff generalizing c with
  | nil =>
    have h := options_attempt c method url body
    unfold sendTo
    split
    · rename_i hc
      simpa [hc] using h
    · rename_i hc
      split <;> simpa [hc] using h
  | cons delay rest ih =>
    have h := options_attempt c method url body
    unfold sendTo
    split
    · rename_i hc
      simpa [hc] using h
    · rename_i hc
      rw [hc] at h
      split
      · rw [ih]
        exact h
      · exact h

/-- A request keeps the options, whatever it is answered. -/
theorem options_send (c : Client) (method : Method) (path : String) (body : Option String)
    (accepted : List Nat) : (c.send method path body accepted).2.options = c.options := by
  unfold send
  split
  · rfl
  · exact options_sendTo c method _ path body accepted _

/-- A subscription keeps the options as well. -/
theorem options_subscribe (c : Client) (body : String) :
    (c.subscribe body).2.options = c.options := by
  have h := options_send c .post subscriptionPath (some body) [201]
  unfold subscribe
  split <;> rename_i hc <;> simpa [hc] using h

/-- Without the content of its answer a request has the same effects. -/
theorem Reply.discard_snd {α : Type} (reply : Reply α) : (Reply.discard reply).2 = reply.2 := by
  obtain ⟨outcome, c⟩ := reply
  cases outcome <;> rfl

/-- Discarding a result keeps whether there is one. -/
theorem Reply.discard_fst {α : Type} (reply : Reply α) :
    (Reply.discard reply).1 = reply.1.map fun _ => () := by
  obtain ⟨outcome, c⟩ := reply
  cases outcome <;> rfl

theorem options_updateSubscription (c : Client) (id body : String) :
    (c.updateSubscription id body).2.options = c.options := by
  rw [updateSubscription, Reply.discard_snd]
  exact options_send c .put (groupPath id) (some body) done

theorem options_unsubscribe (c : Client) (id : String) :
    (c.unsubscribe id).2.options = c.options := by
  rw [unsubscribe, Reply.discard_snd]
  exact options_send c .delete (groupPath id) none done

/-- The stream URL of a location depends on nothing but the options. -/
theorem streamUrl_of_options {c c' : Client} (h : c'.options = c.options) (location : String) :
    c'.streamUrl location = c.streamUrl location := by
  simp [streamUrl, resolve, h]

/-- The id of a new group is the one in the location of the answer. -/
theorem subscribe_eq_ok {c c' : Client} {body : String} {group : Group}
    (h : c.subscribe body = (.ok group, c')) : groupId? group.location = some group.id := by
  unfold subscribe at h
  split at h
  · simp at h
  · rename_i answer _ _
    obtain ⟨hg, -⟩ := Prod.mk.inj h
    unfold groupOfAnswer at hg
    split at hg
    · cases hg
    · split at hg
      · cases hg
      · rename_i id hid
        obtain rfl := Except.ok.inj hg
        exact hid

end RobotWeb.Http.Client
