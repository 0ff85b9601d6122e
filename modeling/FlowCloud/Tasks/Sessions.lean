import FlowCloud.Tasks.Steps

/-! # Sessions

A handler of `Connect` writes the session id first and the client stream last, a handler of
`Disconnect` reads the session id first and removes the client stream last.  In between they
wait for subscriptions to stop, so the last step of an older one may come after all the steps
of a newer one.
-/

namespace FlowCloud.Tasks

open FlowCloud.Foundation FlowCloud.Entity FlowCloud.Server

def After.session {User : Type} : After User → Nat
  | .insertStream _ session | .removeStream _ session => session

section Server

variable {User : Type} [DecidableEq User] [RealtimeUser User]

namespace Server

/-- A `Connect` of the user waits. -/
def Connecting (self : Server User) (user : User) (session : Nat) : Prop :=
  ∃ number oldUser objectId remaining,
    self.futures number = some (.removing oldUser objectId remaining (.insertStream user session))

/-- No `Connect` and no `Disconnect` of the device waits. -/
def Settled (self : Server User) (device : UserDevice) : Prop :=
  ∀ number user objectId remaining after, self.futures number = some (.removing user objectId remaining after) →
    UserDevice.from after.user ≠ device

/-- The last step of a `Connect` or `Disconnect` does not come after the last `Connect` of the
    same user has had its own; and no client stream of the device is lost to a failing send. -/
def Orderly (device : UserDevice) (self : Server User) : Event User → Prop
  | .poll number => ∀ user objectId remaining after,
      self.futures number = some (.removing user objectId remaining after) → UserDevice.from after.user = device →
      (∀ editing ∈ remaining, self.containsUser editing.objectId user = false) →
      ∀ session, self.sessionIdByUser after.user = some session →
        after.session = session ∨ self.Connecting after.user session
  | .runner number received => received = true ∨ ∀ user, self.serves number = some user → UserDevice.from user ≠ device
  | _ => True

/-! ## Between the last `Connect` and the end -/

/-- No `Disconnect` of the session waits. -/
def NotLeaving (self : Server User) (session : Nat) : Prop :=
  ∀ number user objectId remaining other,
    self.futures number ≠ some (.removing user objectId remaining (.removeStream other session))

variable {user : User} {session : Nat}

omit [DecidableEq User] [RealtimeUser User] in
theorem NotLeaving.setFuture {self : Server User} (notLeaving : self.NotLeaving session) (number : Nat)
    {future : Option (Future User)}
    (stays : ∀ user objectId remaining other,
      future ≠ some (.removing user objectId remaining (.removeStream other session))) :
    (self.setFuture number future).NotLeaving session := by
  intro other user objectId remaining leaver found
  simp only [Server.setFuture, Function.update_apply] at found
  split at found
  · exact stays user objectId remaining leaver found
  · exact notLeaving other user objectId remaining leaver found

omit [DecidableEq User] [RealtimeUser User] in
theorem NotLeaving.of_frame {before after : Server User} (notLeaving : before.NotLeaving session)
    (frame : HandlerFrame before after) : after.NotLeaving session := by
  rw [NotLeaving, frame.futures]
  exact notLeaving

omit [RealtimeUser User] in
theorem NotLeaving.removeUser {self : Server User} (notLeaving : self.NotLeaving session) (number : Nat)
    (leaving : User) (editings : List Editing) {after : After User} (stays : ∀ other, after ≠ .removeStream other session) :
    (self.removeUser number leaving editings after).NotLeaving session := by
  refine removeUser_cases (motive := fun server => server.NotLeaving session) ?_ ?_
  · intro _
    refine NotLeaving.setFuture ?_ number (by simp)
    cases after <;> exact notLeaving
  · intro _ editing _ _ _ _
    have same : (self.modifyGroup editing.objectId fun group => group.removeUser leaving).NotLeaving session :=
      notLeaving
    refine same.setFuture number ?_
    rintro _ _ _ other ⟨⟩
    exact stays other rfl

omit [RealtimeUser User] in
theorem NotLeaving.beginRemoveUser {self : Server User} (notLeaving : self.NotLeaving session) (leaving : User)
    (order : List Editing) {after : After User} (stays : ∀ other, after ≠ .removeStream other session) :
    (self.beginRemoveUser leaving order after).NotLeaving session := by
  have taken : (self.takeEditing leaving).NotLeaving session := notLeaving
  exact taken.removeUser _ _ _ stays

theorem NotLeaving.step {self : Server User} (notLeaving : self.NotLeaving session) {event : Event User}
    (noDisconnect : ∀ other order, event ≠ .disconnect other session order) : (self.step event).NotLeaving session := by
  cases event with
  | connect other order =>
    rw [Server.step, connect]
    cases self.userByDevice (.from other) with
    | none => exact notLeaving
    | some oldUser =>
      have registered : ((self.register other).setStream oldUser none).NotLeaving session := notLeaving
      exact registered.beginRemoveUser oldUser order fun _ => insertStream_ne_removeStream
  | disconnect other otherSession order =>
    refine disconnect_cases (motive := fun server => server.NotLeaving session) (fun _ _ _ => notLeaving) fun _ => ?_
    refine notLeaving.beginRemoveUser other order ?_
    rintro _ ⟨⟩
    exact noDisconnect other order rfl
  | message other objectId collabMessages =>
    rw [Server.step, processClientCollabMessage]
    cases self.groupSenderByObjectId objectId <;> exact NotLeaving.setFuture notLeaving _ (by simp)
  | getEncodeCollab objectId =>
    rw [Server.step, getEncodeCollab]
    cases self.groupSenderByObjectId objectId with
    | none => exact notLeaving
    | some sender => exact NotLeaving.setFuture notLeaving _ (by simp)
  | poll number =>
    rw [Server.step, pollFuture]
    split
    · exact notLeaving
    · next leaving objectId remaining after found =>
      refine notLeaving.removeUser number leaving remaining ?_
      rintro other rfl
      exact notLeaving number leaving objectId remaining other found
    · rw [Server.send]
      split
      · exact notLeaving
      · split
        · exact NotLeaving.setFuture notLeaving number (by simp)
        · exact notLeaving
  | runner number received => exact notLeaving.of_frame (runRunner_handlerFrame self number received)
  | tick order elapsed => exact notLeaving.of_frame (tick_frame self order elapsed).toHandlerFrame

theorem run_notLeaving {events : List (Event User)}
    (noDisconnect : ∀ event ∈ events, ∀ other order, event ≠ .disconnect other session order) :
    (run Server.step new events).NotLeaving session := by
  have initial : (new : Server User).NotLeaving session := fun _ _ _ _ _ found => nomatch found
  exact Always.invariant
    (fun (self : Server User) _ (notLeaving : self.NotLeaving session) admitted => notLeaving.step admitted)
    initial (.of_forall noDisconnect)

/-- The connection has its client stream or is about to insert it. -/
structure Connected (user : User) (session : Nat) (server : Server User) : Prop where
  known : server.sessionIdByUser user = some session
  stream : server.Connecting user session ∨ server.clientStreamByUser user = some session

omit [DecidableEq User] [RealtimeUser User] in
/-- The futures that wait to insert the client stream, but for one that is set. -/
theorem Connecting.setFuture {self : Server User} (connecting : self.Connecting user session) {number : Nat}
    (future : Option (Future User))
    (other : ∀ oldUser objectId remaining,
      self.futures number ≠ some (.removing oldUser objectId remaining (.insertStream user session))) :
    (self.setFuture number future).Connecting user session := by
  obtain ⟨waiting, oldUser, objectId, remaining, found⟩ := connecting
  have different : waiting ≠ number := fun same => other oldUser objectId remaining (same ▸ found)
  exact ⟨waiting, oldUser, objectId, remaining, by simpa [Server.setFuture, different] using found⟩

omit [RealtimeUser User] in
/-- A handler ends.  Either its future is the one that inserts the stream, or that one goes on
    waiting. -/
theorem Connected.conclude {self : Server User} (connected : Connected user session self) {number : Nat}
    {leaving : User} {after : After User}
    (current : ∀ future, self.futures number = some future →
      ∃ objectId remaining, future = .removing leaving objectId remaining after)
    (stays : ∀ other, after ≠ .removeStream other session)
    (orderly : after.user = user → after.session = session ∨ self.Connecting user session) :
    Connected user session ((self.conclude after).setFuture number none) := by
  refine ⟨?_, ?_⟩
  · cases after <;> exact connected.known
  · by_cases inserts : after = .insertStream user session
    · subst inserts
      exact .inr (by simp [Server.conclude, setStream, Server.setFuture])
    · have waits (connecting : self.Connecting user session) :
          ((self.conclude after).setFuture number none).Connecting user session := by
        refine Connecting.setFuture ?_ none ?_
        · cases after <;> exact connecting
        · intro oldUser objectId remaining found
          have same : self.futures number =
              some (.removing oldUser objectId remaining (.insertStream user session)) := by
            cases after <;> exact found
          obtain ⟨_, _, future⟩ := current _ same
          cases future
          exact inserts rfl
      cases connected.stream with
      | inl connecting => exact .inl (waits connecting)
      | inr stream =>
        by_cases own : after.user = user
        · cases orderly own with
          | inl same =>
            cases after with
            | insertStream other otherSession =>
              cases own
              cases same
              exact absurd rfl inserts
            | removeStream other otherSession =>
              cases same
              exact absurd rfl (stays other)
          | inr connecting => exact .inl (waits connecting)
        · refine .inr (Eq.trans ?_ stream)
          cases after <;> exact Function.update_of_ne (Ne.symm own) _ _

omit [RealtimeUser User] in
/-- A handler goes on in its future.  Only the `Connect` of the session itself may conclude
    with the client stream of the user, or another one while that is still to come. -/
theorem Connected.removeUser {self : Server User} (connected : Connected user session self) {number : Nat}
    {leaving : User} {editings : List Editing} {after : After User}
    (current : ∀ future, self.futures number = some future →
      ∃ objectId remaining, future = .removing leaving objectId remaining after)
    (stays : ∀ other, after ≠ .removeStream other session)
    (orderly : after.user = user → (∀ editing ∈ editings, self.containsUser editing.objectId leaving = false) →
      after.session = session ∨ self.Connecting user session) :
    Connected user session (self.removeUser number leaving editings after) := by
  apply removeUser_cases
  · intro ended
    exact connected.conclude current stays fun own => orderly own ended
  · intro _ editing remaining _ _ _
    refine ⟨connected.known, ?_⟩
    cases connected.stream with
    | inl held =>
      obtain ⟨waiting, oldUser, objectId, rest, found⟩ := held
      by_cases here : waiting = number
      · subst here
        obtain ⟨_, _, future⟩ := current _ found
        cases future
        exact .inl ⟨waiting, leaving, editing.objectId, remaining, Function.update_self waiting _ _⟩
      · exact .inl ⟨waiting, oldUser, objectId, rest, (Function.update_of_ne here _ _).trans found⟩
    | inr stream => exact .inr stream

omit [DecidableEq User] [RealtimeUser User] in
theorem Connected.of_frame {before after : Server User} (connected : Connected user session before)
    (frame : HandlerFrame before after)
    (stream : after.clientStreamByUser user = before.clientStreamByUser user) : Connected user session after := by
  refine ⟨frame.sessionIdByUser ▸ connected.known, ?_⟩
  rw [Connecting, frame.futures, stream]
  exact connected.stream

theorem Connected.beginRemoveUser {self : Server User} (connected : Connected user session self)
    (wellFormed : self.WellFormed) (leaving : User) (order : List Editing) {after : After User}
    (stays : ∀ other, after ≠ .removeStream other session) (other : after.user ≠ user) :
    Connected user session (self.beginRemoveUser leaving order after) := by
  have taken : Connected user session (self.takeEditing leaving) :=
    ⟨connected.known, connected.stream⟩
  refine taken.removeUser (fun future found => ?_) stays fun own => absurd own other
  cases (wellFormed.fresh self.started (Nat.le_refl _)).symm.trans found

omit [DecidableEq User] in
/-- A new future that is not about the user's connection. -/
theorem Connected.start {self : Server User} (connected : Connected user session self) (wellFormed : self.WellFormed)
    (runner : Nat) (command : GroupCommand User) : Connected user session (self.start (.sending runner command)) := by
  refine ⟨connected.known, ?_⟩
  refine connected.stream.imp_left fun connecting => Connecting.setFuture connecting _ fun _ _ _ found => ?_
  cases (wellFormed.fresh self.started (Nat.le_refl _)).symm.trans found

omit [DecidableEq User] [RealtimeUser User] in
theorem Connected.send {self : Server User} (connected : Connected user session self) {future number : Nat}
    {command : GroupCommand User} (waits : self.futures future = some (.sending number command)) :
    Connected user session (self.send future number command) := by
  unfold Server.send
  split
  · exact connected
  · next runner _ =>
    split
    · have sent : Connected user session (self.setRunner number { runner with queue := runner.queue ++ [command] }) :=
        ⟨connected.known, connected.stream⟩
      refine ⟨sent.known, ?_⟩
      refine sent.stream.imp_left fun connecting => Connecting.setFuture connecting _ fun _ _ _ found => ?_
      cases waits.symm.trans found
    · exact connected

/-- A step that is no newer `Connect` of the device and no `Disconnect` of the session. -/
theorem Connected.step {self : Server User} (connected : Connected user session self) (wellFormed : self.WellFormed)
    (notLeaving : self.NotLeaving session) {event : Event User}
    (noConnect : ∀ other order, event = .connect other order → UserDevice.from other ≠ UserDevice.from user)
    (noDisconnect : ∀ other order, event ≠ .disconnect other session order)
    (orderly : self.Orderly (.from user) event) : Connected user session (self.step event) := by
  cases event with
  | connect other order =>
    have otherDevice := noConnect other order rfl
    have otherUser : user ≠ other := fun same => otherDevice (same ▸ rfl)
    have registered : Connected user session (self.register other) :=
      ⟨(Function.update_of_ne otherUser _ _).trans connected.known, connected.stream⟩
    rw [Server.step, connect]
    cases found : self.userByDevice (.from other) with
    | none => exact registered.of_frame ⟨rfl, rfl, rfl, rfl⟩ (Function.update_of_ne otherUser _ _)
    | some oldUser =>
      have oldOther : user ≠ oldUser := fun same => otherDevice ((wellFormed.device _ _ found).symm.trans (same ▸ rfl))
      have removed : Connected user session ((self.register other).setStream oldUser none) :=
        registered.of_frame ⟨rfl, rfl, rfl, rfl⟩ (Function.update_of_ne oldOther _ _)
      exact removed.beginRemoveUser ((wellFormed.register other).of_frame ⟨rfl, rfl, rfl, rfl⟩) oldUser order
        (fun _ => insertStream_ne_removeStream)
        otherUser.symm
  | disconnect other otherSession order =>
    have otherDisconnect : otherSession ≠ session := fun same => noDisconnect other order (same ▸ rfl)
    apply disconnect_cases
    · intro _ _ _
      exact connected
    · intro current
      refine connected.beginRemoveUser wellFormed other order ?_ fun same => ?_
      · rintro _ ⟨⟩
        exact otherDisconnect rfl
      · cases same
        exact otherDisconnect (current session connected.known).symm
  | message other objectId collabMessages =>
    rw [Server.step, processClientCollabMessage]
    cases self.groupSenderByObjectId objectId with
    | none =>
      refine Connected.start ?_ ?_ _ _
      · exact ⟨connected.known, connected.stream⟩
      · exact wellFormed.of_frame ⟨rfl, rfl, rfl, rfl⟩
    | some sender => exact connected.start wellFormed sender _
  | getEncodeCollab objectId =>
    rw [Server.step, getEncodeCollab]
    cases self.groupSenderByObjectId objectId with
    | none => exact connected
    | some sender => exact connected.start wellFormed sender _
  | poll number =>
    rw [Server.step, pollFuture]
    split
    · exact connected
    · next leaving objectId remaining after found =>
      refine connected.removeUser (fun future present => ?_) ?_ fun own ended => ?_
      · cases found.symm.trans present
        exact ⟨objectId, remaining, rfl⟩
      · rintro other rfl
        exact notLeaving number leaving objectId remaining other found
      · have concludes := orderly leaving objectId remaining after found (congrArg UserDevice.from own) ended
        rw [own] at concludes
        exact concludes session connected.known
    · next found => exact connected.send found
  | runner number received =>
    refine connected.of_frame (runRunner_handlerFrame self number received)
      (runRunner_stream self number ?_)
    exact orderly.imp_right fun otherDevice serves => otherDevice user serves rfl
  | tick order elapsed =>
    have frame := tick_frame self order elapsed
    exact connected.of_frame frame.toHandlerFrame (congrFun frame.clientStreamByUser user)

/-- A `Connect` has its stream at once or waits for the old connection to be gone. -/
theorem connected_connect (self : Server User) (user : User) (order : List Editing) :
    Connected user self.sessions (self.connect user order) := by
  have known : (self.register user).sessionIdByUser user = some self.sessions := Function.update_self user _ _
  rw [connect]
  cases self.userByDevice (.from user) with
  | none => exact ⟨known, .inr (Function.update_self user _ _)⟩
  | some oldUser =>
    apply removeUser_cases
    · intro _
      exact ⟨known, .inr (by simp [conclude, setStream, Server.setFuture])⟩
    · intro _ editing remaining _ _ _
      refine ⟨known, .inl ⟨self.started, oldUser, editing.objectId, remaining, ?_⟩⟩
      exact Function.update_self self.started _ _

/-- When the last `Connect` of a device is for the session, no `Disconnect` of the session is
    handled and everything about the device is orderly, then the user has the client stream
    of the session once all handlers for the device have finished. -/
theorem last_connect_keeps_stream (user : User) (order : List Editing) (first later : List (Event User))
    (last : ∀ other otherOrder, .connect other otherOrder ∈ later → UserDevice.from other ≠ UserDevice.from user)
    (noDisconnect : ∀ other otherOrder, .disconnect other (run step new first).sessions otherOrder ∉
      first ++ .connect user order :: later)
    (orderly : Always step (Orderly (.from user)) new (first ++ .connect user order :: later))
    (settled : (run step new (first ++ .connect user order :: later)).Settled (.from user)) :
    (run step new (first ++ .connect user order :: later)).clientStreamByUser user =
      some (run step new first).sessions := by
  obtain ⟨-, -, orderlyLater⟩ := always_append.mp orderly
  have noDisconnectFirst : ∀ event ∈ first,
      ∀ other otherOrder, event ≠ .disconnect other (run step new first).sessions otherOrder := by
    rintro event mem other otherOrder rfl
    exact noDisconnect other otherOrder (List.mem_append_left _ mem)
  have noDisconnectLater : ∀ event ∈ later,
      (∀ other otherOrder, event = .connect other otherOrder → UserDevice.from other ≠ UserDevice.from user) ∧
        ∀ other otherOrder, event ≠ .disconnect other (run step new first).sessions otherOrder := by
    refine fun event mem => ⟨?_, ?_⟩
    · rintro other otherOrder rfl
      exact last other otherOrder mem
    · rintro other otherOrder rfl
      exact noDisconnect other otherOrder (List.mem_append_right _ (List.mem_cons_of_mem _ mem))
  have wellFormed := run_wellFormed first
  have notLeaving : (run step new first).NotLeaving (run step new first).sessions := run_notLeaving noDisconnectFirst
  -- from the last connection on, its session has the stream or will have it
  have connected : (run step new (first ++ .connect user order :: later)).WellFormed ∧
      (run step new (first ++ .connect user order :: later)).NotLeaving (run step new first).sessions ∧
      Connected user (run step new first).sessions (run step new (first ++ .connect user order :: later)) := by
    rw [run_append, run_cons]
    exact Always.invariant
      (fun (self : Server User) _ (holds : self.WellFormed ∧ self.NotLeaving (run step new first).sessions ∧
          Connected user (run step new first).sessions self) admitted =>
        ⟨holds.1.step _, holds.2.1.step admitted.2.2,
          holds.2.2.step holds.1 holds.2.1 admitted.2.1 admitted.2.2 admitted.1⟩)
      ⟨wellFormed.step _, notLeaving.step (by simp), connected_connect _ user order⟩
      (orderlyLater.and (.of_forall noDisconnectLater))
  obtain ⟨-, -, -, connecting | stream⟩ := connected
  · obtain ⟨number, oldUser, objectId, remaining, found⟩ := connecting
    exact absurd rfl (settled number oldUser objectId remaining _ found)
  · exact stream

theorem orderly_of_current {self : Server User} {device : UserDevice} {number : Nat} {objectId : String}
    {remaining : List Editing} {after : After User}
    (found : self.futures number = some (.removing user objectId remaining after))
    (current : self.sessionIdByUser after.user = some after.session) : self.Orderly device (.poll number) := by
  intro _ _ _ _ present _ _ session known
  cases found.symm.trans present
  cases current.symm.trans known
  exact .inl rfl

theorem orderly_of_sending {self : Server User} {device : UserDevice} {number runner : Nat}
    {command : GroupCommand User} (found : self.futures number = some (.sending runner command)) :
    self.Orderly device (.poll number) := by
  intro _ _ _ _ present
  cases found.symm.trans present

/-- Every future that has started has finished. -/
theorem run_settled {events : List (Event User)} (device : UserDevice)
    (finished : ∀ number < (run step new events).started, ((run step new events).futures number).isNone = true) :
    (run step new events).Settled device := by
  intro number _ _ _ _ found
  cases ((run_wellFormed events).finished finished number).symm.trans found

end Server

end Server

/-! ## Two runs -/

/-- A user connects and opens an object. -/
def firstConnection : List (Event (Int × String)) := .connect (1, "device") [] :: opens 1 "doc" 0 0

/-- The user connects again, and the first connection ends when that is done. -/
theorem reconnection_keepsStream :
    (run Server.step Server.new (firstConnection ++ .connect (1, "device") [] ::
      [.poll 1, .disconnect (1, "device") 0 []])).clientStreamByUser (1, "device") = some 1 := by
  have session : (run Server.step Server.new firstConnection).sessions = 1 := rfl
  have noDisconnect : ∀ other otherOrder, .disconnect other (run Server.step Server.new firstConnection).sessions
      otherOrder ∉ firstConnection ++ .connect (1, "device") [] :: [.poll 1, .disconnect (1, "device") 0 []] := by
    rw [session]
    simp [firstConnection, opens]
  exact Server.last_connect_keeps_stream (1, "device") [] firstConnection [.poll 1, .disconnect (1, "device") 0 []]
    (by simp) noDisconnect
    ⟨trivial, trivial, Server.orderly_of_sending rfl, .inl rfl, .inl rfl, trivial,
      Server.orderly_of_current rfl rfl, trivial, trivial⟩
    (Server.run_settled _ (by decide +kernel))

/-- The first connection ends and its handler waits; the user connects again within the same
    second, and then the handler goes on.  The stop of a subscription yields where the budget of
    the task is used up: `"doc"` stands for the last of more than sixty-four open objects. -/
theorem second_connection_killed :
    ¬ ∀ (user : Int × String) (order : List Editing) (first later : List (Event (Int × String))),
      Always Server.step (fun self event => self.mayRun event = true) Server.new (first ++ .connect user order :: later) →
      (∀ other otherOrder, .connect other otherOrder ∈ later → UserDevice.from other ≠ UserDevice.from user) →
      (∀ other otherOrder, .disconnect other (run Server.step Server.new first).sessions otherOrder ∉
        first ++ .connect user order :: later) →
      (run Server.step Server.new (first ++ .connect user order :: later)).Settled (.from user) →
      (run Server.step Server.new (first ++ .connect user order :: later)).clientStreamByUser user =
        some (run Server.step Server.new first).sessions := by
  intro keepsStream
  have session : (run Server.step Server.new (firstConnection ++ [.disconnect (1, "device") 0 []])).sessions = 1 := rfl
  have kept := keepsStream (1, "device") [] (firstConnection ++ [.disconnect (1, "device") 0 []]) [.poll 1]
    (by decide +kernel) (by simp) (by rw [session]; simp [firstConnection, opens])
    (Server.run_settled _ (by decide +kernel))
  revert kept
  decide +kernel

end FlowCloud.Tasks
