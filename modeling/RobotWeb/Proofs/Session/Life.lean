import RobotWeb.Proofs.Session.Call

/-!
# Lives of sessions

What a session may do to the outside from its creation until it is let go. A `Life` is one of five
courses: nothing was done; no group was created; the group had no stream URL; its stream was not
opened; or it was opened, there was an exchange, and then one of three endings. Nothing else can be
written down as a life: one that forgets its group, closes its stream twice or goes on after its
end does not exist.

* `Life.effects`                        — the effects of a life.
* `Life.Fits`                           — the life that the replies to all calls tell of.
* `Life.Fits.deleted_append_abandoned`  — each group is deleted once or left to the holder.
* `Life.closed_eq_opened`               — each stream is closed once.
* `Life.addressed_mem_created`          — no effect is about a group that was not created.
-/

namespace RobotWeb.Stream

-- ---------------------------------------------------------------------------
-- Lives
-- ---------------------------------------------------------------------------

/-- What passes between a session and the outside while its stream is open. -/
inductive Exchange where
  /-- A wait for a frame. -/
  | wait
  /-- A replacement of the resources of the group. -/
  | replace (form : String) (ok : Bool)
  deriving DecidableEq, Repr

/-- How a session with an open stream ends. -/
inductive Ending where
  /-- Closed by its holder, on request, by the controller, or by being let go. -/
  | orderly (deleted closed : Bool)
  /-- A wait failed. -/
  | failed (closed deleted : Bool)
  /-- Detached; the group is left to the holder. -/
  | detached (closed : Bool)
  deriving DecidableEq, Repr

/-- All that a session does to the outside. -/
inductive Life where
  | untouched
  /-- No group was created, or its id could not be learned. -/
  | refused (form : String)
  /-- The location of the group has no stream. -/
  | unlocated (form : String) (group : Http.Client.Group) (deleted : Bool)
  /-- The stream could not be opened. -/
  | unconnected (form : String) (locator : Locator) (protocol : String) (deleted : Bool)
  | streamed (form : String) (locator : Locator) (protocol : String) (talk : List Exchange)
      (ending : Ending)
  deriving DecidableEq, Repr

/-- Calls that do nothing without an open stream. -/
def Call.needsStream : Call → Bool
  | receive .. | run .. | update .. | detach => true
  | start _ | close | requestClose => false

/-- An exchange about the given group as an effect. -/
def Exchange.effect (group : String) : Exchange → Effect
  | wait => .receive
  | replace form ok => .update group form ok

def Ending.effects (group : String) : Ending → List Effect
  | orderly deleted closed => [.unsubscribe group deleted, .closeStream closed]
  | failed closed deleted => [.closeStream closed, .unsubscribe group deleted]
  | detached closed => [.closeStream closed]

/-- The effects of opening a stream and of the exchange on it. -/
def streaming (form : String) (locator : Locator) (protocol : String) (talk : List Exchange) :
    List Effect :=
  .subscribe form (some locator.group) :: .connect locator protocol true ::
    talk.map (·.effect locator.group)

def Life.effects : Life → List Effect
  | untouched => []
  | refused form => [.subscribe form none]
  | unlocated form group deleted =>
    [.subscribe form (some group.id), .unsubscribe group.id deleted]
  | unconnected form locator protocol deleted =>
    [.subscribe form (some locator.group), .connect locator protocol false,
      .unsubscribe locator.group deleted]
  | streamed form locator protocol talk ending =>
    streaming form locator protocol talk ++ ending.effects locator.group

theorem streaming_concat (form : String) (locator : Locator) (protocol : String)
    (talk : List Exchange) (e : Exchange) :
    streaming form locator protocol (talk ++ [e]) =
      streaming form locator protocol talk ++ [e.effect locator.group] := by
  simp [streaming]

-- ---------------------------------------------------------------------------
-- What replies tell of a life
-- ---------------------------------------------------------------------------

/-- The id of a group that a detached session leaves to its holder. -/
def Reply.abandoned? : Reply → Option String
  | detached group? => group?
  | _ => none

/-- Whether a receive or a run ended because a wait failed. -/
def Reply.tellsFailedWait : Reply → Bool
  | received (.error (.transport _)) => true
  | ran (some (.error (.transport _))) => true
  | _ => false

def abandoned (replies : List Reply) : List String :=
  replies.filterMap Reply.abandoned?

def failedWaits (replies : List Reply) : Nat :=
  replies.countP Reply.tellsFailedWait

/-- No reply leaves a group to the holder or tells of a failed wait. -/
def Quiet (replies : List Reply) : Prop :=
  abandoned replies = [] ∧ failedWaits replies = 0

/-- An ending is what the replies say it was. -/
def Ending.Fits (group : String) (replies : List Reply) : Ending → Prop
  | orderly _ _ => Quiet replies
  | failed _ _ => abandoned replies = [] ∧ failedWaits replies = 1
  | detached _ => abandoned replies = [group] ∧ failedWaits replies = 0

/-- The group and the URL of a locator both come from the location of one answer. -/
def Locates (client : Http.Client) (locator : Locator) : Prop :=
  ∃ location, Http.Client.groupId? location = some locator.group ∧
    client.streamUrl location = .ok locator.url

/-- The location of a group gives its id but no stream. -/
def LacksStream (client : Http.Client) (group : Http.Client.Group) : Prop :=
  Http.Client.groupId? group.location = some group.id ∧
    ∃ e, client.streamUrl group.location = .error e

/-- A life is one that this client can lead to and that the replies tell of. -/
def Life.Fits (client : Http.Client) (replies : List Reply) : Life → Prop
  | untouched | refused _ => Quiet replies
  | unlocated _ group _ => LacksStream client group ∧ Quiet replies
  | unconnected _ locator _ _ => Locates client locator ∧ Quiet replies
  | streamed _ locator _ _ ending =>
    Locates client locator ∧ ending.Fits locator.group replies

/-- A reply that neither leaves a group to the holder nor tells of a failed wait. -/
def Reply.IsQuiet (reply : Reply) : Prop :=
  reply.abandoned? = none ∧ reply.tellsFailedWait = false

/-- One more reply abandons its own group, if any. -/
theorem abandoned_append (replies : List Reply) (reply : Reply) :
    abandoned (replies ++ [reply]) = abandoned replies ++ reply.abandoned?.toList := by
  cases h : reply.abandoned? <;> simp [abandoned, h]

/-- One more reply tells of its own failed wait, if any. -/
theorem failedWaits_append (replies : List Reply) (reply : Reply) :
    failedWaits (replies ++ [reply]) =
      failedWaits replies + if reply.tellsFailedWait then 1 else 0 := by
  simp [failedWaits, List.countP_append, List.countP_cons]

theorem Quiet.append {replies : List Reply} {reply : Reply} (h : Quiet replies)
    (hr : reply.IsQuiet) : Quiet (replies ++ [reply]) := by
  obtain ⟨ha, hf⟩ := h
  obtain ⟨hra, hrf⟩ := hr
  exact ⟨by simp [abandoned_append, ha, hra], by simp [failedWaits_append, hf, hrf]⟩

/-- Quiet replies do not change what is told of an ending. -/
theorem Ending.Fits.append {group : String} {replies : List Reply} {reply : Reply} {ending : Ending}
    (h : ending.Fits group replies) (hr : reply.IsQuiet) :
    ending.Fits group (replies ++ [reply]) := by
  cases ending with
  | orderly => exact Quiet.append h hr
  | failed =>
    obtain ⟨ha, hf⟩ := h
    exact ⟨by simp [abandoned_append, ha, hr.1], by simp [failedWaits_append, hf, hr.2]⟩
  | detached =>
    obtain ⟨ha, hf⟩ := h
    exact ⟨by simp [abandoned_append, ha, hr.1], by simp [failedWaits_append, hf, hr.2]⟩

/-- A reply that tells of neither changes nothing about the life that fits. -/
theorem Life.Fits.append {client : Http.Client} {replies : List Reply} {reply : Reply} {life : Life}
    (h : life.Fits client replies) (hr : reply.IsQuiet) :
    life.Fits client (replies ++ [reply]) := by
  cases life with
  | untouched => exact Quiet.append h hr
  | refused => exact Quiet.append h hr
  | unlocated => exact ⟨h.1, h.2.append hr⟩
  | unconnected => exact ⟨h.1, h.2.append hr⟩
  | streamed => exact ⟨h.1, h.2.append hr⟩

-- ---------------------------------------------------------------------------
-- Groups and streams in a trace
-- ---------------------------------------------------------------------------

namespace Effect

def createdGroup? : Effect → Option String
  | subscribe _ group? => group?
  | _ => none

def deletedGroup? : Effect → Option String
  | unsubscribe group _ => some group
  | _ => none

/-- The group that the effect is about, if it should exist already. -/
def addressedGroup? : Effect → Option String
  | unsubscribe group _ | update group _ _ => some group
  | connect locator _ _ => some locator.group
  | _ => none

def opensStream : Effect → Bool
  | connect _ _ ok => ok
  | _ => false

def closesStream : Effect → Bool
  | closeStream _ => true
  | _ => false

end Effect

/-- Who looks for neither waits nor replacements finds nothing in an exchange. -/
theorem filterMap_talk {α : Type} {f : Effect → Option α} (hwait : f .receive = none)
    (hreplace : ∀ group form ok, f (.update group form ok) = none) (group : String)
    (talk : List Exchange) : (talk.map (·.effect group)).filterMap f = [] := by
  rw [List.filterMap_eq_nil_iff]
  intro effect h
  obtain ⟨e, -, rfl⟩ := List.mem_map.mp h
  cases e with
  | wait => exact hwait
  | replace form ok => exact hreplace group form ok

/-- Waits and replacements are no effects of any other kind. -/
theorem filter_talk {p : Effect → Bool} (hwait : p .receive = false)
    (hreplace : ∀ group form ok, p (.update group form ok) = false) (group : String)
    (talk : List Exchange) : (talk.map (·.effect group)).filter p = [] := by
  rw [List.filter_eq_nil_iff]
  intro effect h
  obtain ⟨e, -, rfl⟩ := List.mem_map.mp h
  cases e with
  | wait => simp [Exchange.effect, hwait]
  | replace form ok => simp [Exchange.effect, hreplace]

/-- An open stream has created one group. -/
theorem createdGroups_streaming (form : String) (locator : Locator) (protocol : String)
    (talk : List Exchange) :
    (streaming form locator protocol talk).filterMap Effect.createdGroup? = [locator.group] :=
  congrArg (locator.group :: ·) (filterMap_talk rfl (fun _ _ _ => rfl) locator.group talk)

/-- It has deleted none yet. -/
theorem deletedGroups_streaming (form : String) (locator : Locator) (protocol : String)
    (talk : List Exchange) :
    (streaming form locator protocol talk).filterMap Effect.deletedGroup? = [] :=
  filterMap_talk rfl (fun _ _ _ => rfl) locator.group talk

/-- It has opened one stream. -/
theorem opened_streaming (form : String) (locator : Locator) (protocol : String)
    (talk : List Exchange) :
    ((streaming form locator protocol talk).filter Effect.opensStream).length = 1 :=
  congrArg (·.length + 1) (filter_talk rfl (fun _ _ _ => rfl) locator.group talk)

/-- It has closed none yet. -/
theorem closed_streaming (form : String) (locator : Locator) (protocol : String)
    (talk : List Exchange) :
    (streaming form locator protocol talk).filter Effect.closesStream = [] :=
  filter_talk rfl (fun _ _ _ => rfl) locator.group talk

/-- While a stream is open, no effect is about another group than its own. -/
theorem addressedGroup_streaming {form : String} {locator : Locator} {protocol : String}
    {talk : List Exchange} {effect : Effect} (h : effect ∈ streaming form locator protocol talk)
    {group : String} (hgroup : effect.addressedGroup? = some group) : group = locator.group := by
  simp only [streaming, List.mem_cons, List.mem_map] at h
  rcases h with rfl | rfl | ⟨e, -, rfl⟩
  · cases hgroup
  · exact (Option.some.inj hgroup).symm
  · cases e with
    | wait => cases hgroup
    | replace form ok => exact (Option.some.inj hgroup).symm

theorem createdGroups_ending (group : String) (ending : Ending) :
    (ending.effects group).filterMap Effect.createdGroup? = [] := by
  cases ending <;> rfl

/-- An ending addresses the group of the stream only. -/
theorem addressedGroup_ending {group other : String} {ending : Ending} {effect : Effect}
    (h : effect ∈ ending.effects group) (hother : effect.addressedGroup? = some other) :
    other = group := by
  cases ending <;> simp only [Ending.effects, List.mem_cons, List.not_mem_nil, or_false] at h
  case orderly =>
    rcases h with rfl | rfl
    · exact (Option.some.inj hother).symm
    · cases hother
  case failed =>
    rcases h with rfl | rfl
    · cases hother
    · exact (Option.some.inj hother).symm
  case detached =>
    subst h
    cases hother

/-- A life creates at most one group. -/
theorem Life.createdGroups_length (life : Life) :
    (life.effects.filterMap Effect.createdGroup?).length ≤ 1 := by
  cases life with
  | streamed form locator protocol talk ending =>
    rw [effects, List.filterMap_append, createdGroups_streaming, createdGroups_ending]
    exact Nat.le_refl 1
  | untouched => exact Nat.zero_le 1
  | refused form => exact Nat.zero_le 1
  | unlocated form group deleted => exact Nat.le_refl 1
  | unconnected form locator protocol deleted => exact Nat.le_refl 1

/-- The groups that were created are those that were deleted or left to the holder. -/
theorem Life.Fits.deleted_append_abandoned {client : Http.Client} {replies : List Reply}
    {life : Life} (h : life.Fits client replies) :
    life.effects.filterMap Effect.deletedGroup? ++ abandoned replies =
      life.effects.filterMap Effect.createdGroup? := by
  -- a group is left behind only by a session that was detached
  cases life with
  | untouched => exact h.1
  | refused form => exact h.1
  | unlocated form group deleted =>
    rw [h.2.1]
    rfl
  | unconnected form locator protocol deleted =>
    rw [h.2.1]
    rfl
  | streamed form locator protocol talk ending =>
    obtain ⟨-, hending⟩ := h
    rw [effects, List.filterMap_append, List.filterMap_append, createdGroups_streaming,
      deletedGroups_streaming, createdGroups_ending]
    cases ending <;> rw [hending.1] <;> rfl

/-- A life closes as many streams as it opens. -/
theorem Life.closed_eq_opened (life : Life) :
    (life.effects.filter Effect.closesStream).length =
      (life.effects.filter Effect.opensStream).length := by
  cases life with
  | streamed form locator protocol talk ending =>
    rw [effects, List.filter_append, List.filter_append, List.length_append, List.length_append,
      opened_streaming, closed_streaming]
    cases ending <;> rfl
  | untouched | refused | unlocated | unconnected => rfl

/-- Every group that an effect is about was created. -/
theorem Life.addressed_mem_created {life : Life} {effect : Effect} (h : effect ∈ life.effects)
    {group : String} (hgroup : effect.addressedGroup? = some group) :
    group ∈ life.effects.filterMap Effect.createdGroup? := by
  -- the effects of each life are listed, and all name the one group that was created
  cases life with
  | untouched => cases h
  | refused form =>
    obtain rfl := List.mem_singleton.mp h
    cases hgroup
  | unlocated form created deleted =>
    simp only [effects, List.mem_cons, List.not_mem_nil, or_false] at h
    rcases h with rfl | rfl
    · cases hgroup
    · obtain rfl := Option.some.inj hgroup
      exact List.mem_singleton_self _
  | unconnected form locator protocol deleted =>
    simp only [effects, List.mem_cons, List.not_mem_nil, or_false] at h
    rcases h with rfl | rfl | rfl
    · cases hgroup
    · obtain rfl := Option.some.inj hgroup
      exact List.mem_singleton_self _
    · obtain rfl := Option.some.inj hgroup
      exact List.mem_singleton_self _
  | streamed form locator protocol talk ending =>
    rw [effects, List.filterMap_append, createdGroups_streaming, createdGroups_ending,
      List.append_nil, List.mem_singleton]
    rcases List.mem_append.mp h with h | h
    · exact addressedGroup_streaming h hgroup
    · exact addressedGroup_ending h hgroup

end RobotWeb.Stream
