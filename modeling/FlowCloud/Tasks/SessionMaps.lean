import FlowCloud.Tasks.Sessions

/-! # The maps of sessions

A user who connects is written into three maps, and only the client stream is ever taken out
again.  The other two agree with it as long as nobody leaves for good: neither by a `Disconnect`
nor by being replaced on his device.
-/

namespace FlowCloud.Tasks

open FlowCloud.Foundation FlowCloud.Entity FlowCloud.Server

section Server

variable {User : Type} [DecidableEq User] [RealtimeUser User]

namespace Server

/-- No handler of `Connect` or `Disconnect` waits. -/
def Idle (self : Server User) : Prop :=
  ∀ number user objectId remaining after, self.futures number ≠ some (.removing user objectId remaining after)

/-- The users with a session and the users of the devices are those with a client stream. -/
structure MapsAgree (server : Server User) : Prop where
  sessions : ∀ user, (server.sessionIdByUser user).isSome = (server.clientStreamByUser user).isSome
  devices : ∀ user, (∃ device, server.userByDevice device = some user) ↔ (server.clientStreamByUser user).isSome = true

/-- The user on the device of a new connection is the same one, no `Disconnect` is for the session
    that its user has, and no send takes a client stream away. -/
def NobodyLeaves (self : Server User) : Event User → Prop
  | .connect user _ => ∀ oldUser, self.userByDevice (.from user) = some oldUser → oldUser = user
  | .disconnect user session _ => self.sessionIdByUser user ≠ some session
  | .runner _ received => received = true
  | _ => True

/-! ## Every user with a session has a stream or is about to -/

/-- Whoever is known is so in all maps, but for a client stream that `away` is without. -/
structure Tracked (away : Option User) (server : Server User) : Prop where
  devices : ∀ device user, server.userByDevice device = some user ↔
    device = .from user ∧ (server.sessionIdByUser user).isSome = true
  streams : ∀ user, (server.clientStreamByUser user).isSome = true → (server.sessionIdByUser user).isSome = true
  connected : ∀ user, away ≠ some user → (server.sessionIdByUser user).isSome = true →
    (server.clientStreamByUser user).isSome = true ∨ ∃ session, server.Connecting user session
  known : ∀ number leaving objectId remaining user session,
    server.futures number = some (.removing leaving objectId remaining (.insertStream user session)) →
      (server.sessionIdByUser user).isSome = true
  staying : ∀ number leaving objectId remaining user session,
    server.futures number ≠ some (.removing leaving objectId remaining (.removeStream user session))
  editing : ∀ user, server.editingCollabByUser user ≠ [] → (server.sessionIdByUser user).isSome = true

omit [DecidableEq User] in
theorem tracked_new : Tracked none (new : Server User) where
  devices := by simp [new]
  streams := by simp [new]
  connected := by simp [new]
  known := by simp [new]
  staying := by simp [new]
  editing := by simp [new]

variable {self : Server User} {away : Option User} {user : User}

omit [DecidableEq User] in
/-- A quiet state has no stream that is still to come. -/
theorem Tracked.mapsAgree (tracked : self.Tracked none) (idle : self.Idle) : self.MapsAgree := by
  have present (user : User) :
      (self.sessionIdByUser user).isSome = true ↔ (self.clientStreamByUser user).isSome = true := by
    constructor
    · intro known
      cases tracked.connected user (by simp) known with
      | inl stream => exact stream
      | inr connecting =>
        obtain ⟨session, number, leaving, objectId, remaining, found⟩ := connecting
        exact absurd found (idle number leaving objectId remaining _)
    · exact tracked.streams user
  refine ⟨fun user => Bool.eq_iff_iff.mpr (present user), fun user => ?_⟩
  rw [← present user]
  constructor
  · rintro ⟨device, registered⟩
    exact ((tracked.devices device user).mp registered).2
  · exact fun known => ⟨.from user, (tracked.devices _ user).mpr ⟨rfl, known⟩⟩

omit [DecidableEq User] in
/-- A step that leaves the handlers' maps alone and gives no records to strangers. -/
theorem Tracked.of_frame {before after : Server User} (tracked : before.Tracked away)
    (frame : HandlerFrame before after) (streams : after.clientStreamByUser = before.clientStreamByUser)
    (editing : ∀ user, after.editingCollabByUser user ≠ [] →
      before.editingCollabByUser user ≠ [] ∨ (before.clientStreamByUser user).isSome = true) :
    after.Tracked away := by
  obtain ⟨devices, streamed, connected, known, staying, edits⟩ := tracked
  refine ⟨?_, ?_, ?_, ?_, ?_, ?_⟩
  · rw [frame.userByDevice, frame.sessionIdByUser]
    exact devices
  · rw [streams, frame.sessionIdByUser]
    exact streamed
  · intro user here present
    rw [frame.sessionIdByUser] at present
    rw [streams, show (∃ session, after.Connecting user session) ↔ ∃ session, before.Connecting user session by
      simp only [Connecting, frame.futures]]
    exact connected user here present
  · rw [frame.futures, frame.sessionIdByUser]
    exact known
  · rw [frame.futures]
    exact staying
  · intro user records
    rw [frame.sessionIdByUser]
    exact (editing user records).elim (edits user) (streamed user)

omit [DecidableEq User] in
/-- A future that goes on.  Whoever has no stream waits for one afterwards too. -/
theorem Tracked.setFuture {later : Option User} (tracked : self.Tracked away) {number : Nat}
    {future : Option (Future User)}
    (connected : ∀ user, later ≠ some user → (self.sessionIdByUser user).isSome = true →
      (self.clientStreamByUser user).isSome = true ∨ ∃ session, (self.setFuture number future).Connecting user session)
    (known : ∀ leaving objectId remaining user session,
      future = some (.removing leaving objectId remaining (.insertStream user session)) →
        (self.sessionIdByUser user).isSome = true)
    (staying : ∀ leaving objectId remaining user session,
      future ≠ some (.removing leaving objectId remaining (.removeStream user session))) :
    (self.setFuture number future).Tracked later := by
  refine ⟨tracked.devices, tracked.streams, connected, ?_, ?_, tracked.editing⟩
  · intro waiting leaving objectId remaining user session found
    simp only [Server.setFuture, Function.update_apply] at found
    split at found
    · exact known leaving objectId remaining user session found
    · exact tracked.known waiting leaving objectId remaining user session found
  · intro waiting leaving objectId remaining user session found
    simp only [Server.setFuture, Function.update_apply] at found
    split at found
    · exact staying leaving objectId remaining user session found
    · exact tracked.staying waiting leaving objectId remaining user session found

omit [DecidableEq User] in
/-- A future in which no `Connect` waits, before and after. -/
theorem Tracked.setSending (tracked : self.Tracked none) {number : Nat} {future : Option (Future User)}
    (free : ∀ leaving objectId remaining after, self.futures number ≠ some (.removing leaving objectId remaining after))
    (other : ∀ leaving objectId remaining after, future ≠ some (.removing leaving objectId remaining after)) :
    (self.setFuture number future).Tracked none := by
  refine tracked.setFuture (fun user here present => ?_) ?_ ?_
  · refine (tracked.connected user here present).imp_right ?_
    rintro ⟨session, waiting⟩
    exact ⟨session, waiting.setFuture future fun _ _ _ => free _ _ _ _⟩
  · exact fun _ _ _ _ _ same => absurd same (other _ _ _ _)
  · exact fun _ _ _ _ _ => other _ _ _ _

omit [DecidableEq User] in
theorem Tracked.of_sweep {before after : Server User} (tracked : before.Tracked away)
    (frame : SweepFrame before after) : after.Tracked away := by
  refine tracked.of_frame frame.toHandlerFrame frame.clientStreamByUser fun user records => .inl ?_
  rwa [frame.editingCollabByUser] at records

omit [DecidableEq User] in
theorem Tracked.weaken (tracked : self.Tracked none) (away : Option User) : self.Tracked away :=
  { tracked with connected := fun user _ => tracked.connected user (by simp) }

theorem Tracked.insertStream (tracked : self.Tracked (some user)) (known : (self.sessionIdByUser user).isSome = true)
    (session : Nat) : (self.setStream user (some session)).Tracked none := by
  refine ⟨tracked.devices, fun other stream => ?_, fun other _ present => ?_, tracked.known, tracked.staying,
    tracked.editing⟩
  · by_cases same : other = user
    · exact same ▸ known
    · refine tracked.streams other ?_
      simpa [setStream, same] using stream
  · by_cases same : other = user
    · exact .inl (by simp [setStream, same])
    · refine (tracked.connected other (by simpa using Ne.symm same) present).imp_left fun stream => ?_
      simpa [setStream, same] using stream

theorem Tracked.removeStream (tracked : self.Tracked away) (keeps : away = none ∨ away = some user) :
    (self.setStream user none).Tracked (some user) := by
  refine ⟨tracked.devices, fun other stream => ?_, fun other different present => ?_, tracked.known, tracked.staying,
    tracked.editing⟩
  · by_cases same : other = user
    · simp [setStream, same] at stream
    · refine tracked.streams other ?_
      simpa [setStream, same] using stream
  · have elsewhere : other ≠ user := fun same => different (congrArg some same.symm)
    have here : away ≠ some other := by
      cases keeps with
      | inl equal =>
        obtain rfl := equal
        simp
      | inr equal =>
        obtain rfl := equal
        exact different
    refine (tracked.connected other here present).imp_left fun stream => ?_
    simpa [setStream, elsewhere] using stream

/-- A `Connect` goes on in its future: in the end the user has a stream, until then he waits. -/
theorem Tracked.removeUser {session : Nat} (tracked : self.Tracked (some user))
    (known : (self.sessionIdByUser user).isSome = true) {number : Nat}
    (current : ∀ leaving objectId remaining other later,
      self.futures number = some (.removing leaving objectId remaining (.insertStream other later)) → other = user)
    (leaving : User) (editings : List Editing) :
    (self.removeUser number leaving editings (.insertStream user session)).Tracked none := by
  apply removeUser_cases
  · intro _
    have inserted := tracked.insertStream known session
    refine inserted.setFuture (fun other here present => ?_) ?_ ?_
    · by_cases same : other = user
      · exact .inl (by simp [setStream, same])
      · refine (inserted.connected other here present).imp_right ?_
        rintro ⟨later, connecting⟩
        exact ⟨later, connecting.setFuture none fun _ _ _ found => same (current _ _ _ _ _ found)⟩
    · rintro _ _ _ _ _ ⟨⟩
    · rintro _ _ _ _ _ ⟨⟩
  · intro _ editing remaining _ _ _
    have removed : (self.modifyGroup editing.objectId fun group => group.removeUser leaving).Tracked (some user) :=
      tracked.of_frame ⟨rfl, rfl, rfl, rfl⟩ rfl fun _ => .inl
    refine removed.setFuture (fun other _ present => ?_) ?_ ?_
    · by_cases same : other = user
      · subst same
        exact .inr ⟨session, number, leaving, editing.objectId, remaining, Function.update_self number _ _⟩
      · refine (removed.connected other (by simpa using Ne.symm same) present).imp_right ?_
        rintro ⟨later, connecting⟩
        exact ⟨later, connecting.setFuture _ fun _ _ _ found => same (current _ _ _ _ _ found)⟩
    · rintro _ _ _ _ _ ⟨⟩
      exact known
    · rintro _ _ _ _ _ ⟨⟩

omit [DecidableEq User] in
/-- A new future that sends. -/
theorem Tracked.start (tracked : self.Tracked none) (wellFormed : self.WellFormed) (runner : Nat)
    (command : GroupCommand User) : (self.start (.sending runner command)).Tracked none := by
  have fresh := wellFormed.fresh self.started (Nat.le_refl _)
  have started : (self.setFuture self.started (some (.sending runner command))).Tracked none :=
    tracked.setSending (by simp [fresh]) (by simp)
  exact ⟨started.devices, started.streams, started.connected, started.known, started.staying, started.editing⟩

omit [DecidableEq User] in
theorem Tracked.send (tracked : self.Tracked none) {future number : Nat} {command : GroupCommand User}
    (waits : self.futures future = some (.sending number command)) :
    (self.send future number command).Tracked none := by
  unfold Server.send
  split
  · exact tracked
  · next runner _ =>
    split
    · have queued : (self.setRunner number { runner with queue := runner.queue ++ [command] }).Tracked none :=
        tracked.of_frame ⟨rfl, rfl, rfl, rfl⟩ rfl fun _ => .inl
      refine queued.setSending (fun _ _ _ _ found => ?_) (by simp)
      cases waits.symm.trans found
    · exact tracked

/-! ## Messages -/

theorem Tracked.register (tracked : self.Tracked none)
    (own : ∀ oldUser, self.userByDevice (.from user) = some oldUser → oldUser = user) :
    (self.register user).Tracked (some user) := by
  have kept {other : User} (known : (self.sessionIdByUser other).isSome = true) :
      ((self.register user).sessionIdByUser other).isSome = true := by
    simp only [Server.register, Function.update_apply]
    split
    · rfl
    · exact known
  refine ⟨fun device other => ?_, fun other stream => kept (tracked.streams other stream), ?_, ?_, tracked.staying,
    fun other records => kept (tracked.editing other records)⟩
  · have registered := tracked.devices device other
    simp only [Server.register, Function.update_apply]
    by_cases same : other = user
    · subst same
      by_cases here : device = .from other
      · simp [here]
      · simp [here, registered]
    · by_cases here : device = .from user
      · subst here
        rw [if_pos rfl, if_neg same, ← registered]
        refine iff_of_false (fun found => same (Option.some.inj found).symm) fun found => same (own other found)
      · rw [if_neg here, if_neg same]
        exact registered
  · intro other different present
    have elsewhere : other ≠ user := fun same => different (congrArg some same.symm)
    simp only [Server.register, Function.update_of_ne elsewhere] at present
    exact tracked.connected other (by simp) present
  · intro number leaving objectId remaining other session found
    exact kept (tracked.known number leaving objectId remaining other session found)

theorem Tracked.takeEditing (tracked : self.Tracked away) (leaving : User) :
    (self.takeEditing leaving).Tracked away := by
  refine ⟨tracked.devices, tracked.streams, tracked.connected, tracked.known, tracked.staying, fun user records => ?_⟩
  refine tracked.editing user fun none => records ?_
  simp only [Server.takeEditing, setEditing, Function.update_apply]
  split
  · rfl
  · exact none

theorem Tracked.connect (tracked : self.Tracked none) (wellFormed : self.WellFormed)
    (own : ∀ oldUser, self.userByDevice (.from user) = some oldUser → oldUser = user) (order : List Editing) :
    (self.connect user order).Tracked none := by
  have registered := tracked.register own
  have known : ((self.register user).sessionIdByUser user).isSome = true := by simp [Server.register]
  rw [Server.connect]
  cases found : self.userByDevice (.from user) with
  | none => exact registered.insertStream known self.sessions
  | some oldUser =>
    have same := own oldUser found
    subst same
    have taken := (registered.removeStream (.inr rfl)).takeEditing oldUser
    refine taken.removeUser known (fun _ _ _ _ _ waits => ?_) _ _
    -- the future is new
    cases (wellFormed.fresh self.started (Nat.le_refl _)).symm.trans waits

/-- A stranger has nothing to lose. -/
theorem Tracked.disconnect (tracked : self.Tracked none) (wellFormed : self.WellFormed) {session : Nat}
    (other : self.sessionIdByUser user ≠ some session) (order : List Editing) :
    (self.disconnect user session order).Tracked none := by
  apply disconnect_cases
  · intro _ _ _
    exact tracked
  · intro current
    have unknown : self.sessionIdByUser user = none := by
      cases known : self.sessionIdByUser user with
      | none => rfl
      | some found => exact absurd (known.trans (congrArg some (current found known))) other
    have nothing : self.editingCollabByUser user = [] := by
      by_contra records
      have known := tracked.editing user records
      rw [unknown] at known
      cases known
    have unvisited : visit order ([] : List Editing) = [] := by
      refine List.eq_nil_iff_forall_not_mem.mpr fun editing member => ?_
      cases mem_visit.mp member
    rw [beginRemoveUser, nothing, unvisited]
    have left : ((self.takeEditing user).setStream user none).Tracked (some user) :=
      (tracked.takeEditing user).removeStream (.inl rfl)
    -- nothing stops, so the handler is at its end
    show (((self.takeEditing user).setStream user none).setFuture self.started none).Tracked none
    refine left.setFuture (fun stranger _ present => ?_) ?_ ?_
    · have different : user ≠ stranger := by
        rintro rfl
        have known : (self.sessionIdByUser user).isSome = true := present
        rw [unknown] at known
        cases known
      refine (left.connected stranger (by simpa using different) present).imp_right ?_
      rintro ⟨later, connecting⟩
      refine ⟨later, connecting.setFuture none fun _ _ _ waits => ?_⟩
      cases (wellFormed.fresh self.started (Nat.le_refl _)).symm.trans waits
    · rintro _ _ _ _ _ ⟨⟩
    · rintro _ _ _ _ _ ⟨⟩

/-! ## Runners give records to connected users only -/

/-- Whoever has records afterwards had some before, or a client stream. -/
def KeepsRecords (before after : Server User) : Prop :=
  ∀ user, after.editingCollabByUser user ≠ [] →
    before.editingCollabByUser user ≠ [] ∨ (before.clientStreamByUser user).isSome = true

omit [RealtimeUser User] in
theorem keepsRecords_finish (before : Server User) {after : Server User} (kept : KeepsRecords before after)
    (number : Nat) (user : User) (received : Bool) : KeepsRecords before (after.finish number user received) := by
  cases received with
  | true => exact kept
  | false => exact kept

theorem keepsRecords_subscribeGroup (self : Server User) (number : Nat) (user : User)
    (first : ClientCollabMessage) (received : Bool) :
    KeepsRecords self (self.subscribeGroup number user first received) := by
  have begun (session : Nat) (connected : self.clientStreamByUser user = some session) :
      KeepsRecords self (self.beginSubscribe user first) := by
    intro other records
    by_cases same : other = user
    · subst same
      exact .inr (by simp [connected])
    · refine .inl fun none => records ?_
      simp [Server.beginSubscribe, modifyGroup, setGroup, setEditing, same, none]
  refine subscribeGroup_cases (motive := KeepsRecords self) ?_ ?_ ?_
  · exact keepsRecords_finish self (fun _ => .inl) number user received
  · intro session _ connected _ _ _
    exact begun session connected
  · intro session group connected _ _
    have joined : KeepsRecords self
        ((self.beginSubscribe user first).insertSubscriber first.objectId group.number user) := begun session connected
    exact keepsRecords_finish self joined number user received

theorem keepsRecords_resubscribe (self : Server User) (number : Nat) (user : User) (objectId : String)
    (first : ClientCollabMessage) (received : Bool) :
    KeepsRecords self (self.resubscribe number user objectId first received) :=
  resubscribe_cases (motive := KeepsRecords self) (keepsRecords_finish self (fun _ => .inl) number user received)
    (keepsRecords_subscribeGroup self number user first received)

theorem keepsRecords_runRunner (self : Server User) (number : Nat) (received : Bool) :
    KeepsRecords self (self.runRunner number received) := by
  apply runRunner_cases (motive := KeepsRecords self)
  case rests => exact fun _ => .inl
  case encoded => exact fun _ _ _ _ => .inl
  case takes =>
    intro runner command queue _ _ _
    cases command with
    | encodeCollab objectId => exact fun _ => .inl
    | handleClientCollabMessage user objectId messages =>
      refine handleCollabMessage_cases (motive := KeepsRecords self) ?_ ?_ ?_ ?_
      · exact fun _ => .inl
      · exact fun _ _ _ _ _ => .inl
      · intro first _ _
        have resubscribed := keepsRecords_resubscribe (self.setRunner number { runner with queue }) number user objectId
          first received
        exact resubscribed
      · exact fun _ _ _ _ _ => .inl
  case unsubscribed =>
    intro _ user objectId first _ _
    exact keepsRecords_resubscribe self number user objectId first received
  case created =>
    intro _ user first _ _
    have subscribed := keepsRecords_subscribeGroup (self.createGroup first.objectId) number user first received
    exact subscribed
  case subscribed =>
    intro _ user first group _ _
    have joined : KeepsRecords self (self.insertSubscriber first.objectId group user) := fun _ => .inl
    exact keepsRecords_finish self joined number user received

/-! ## Runs -/

theorem Tracked.step (tracked : self.Tracked none) (wellFormed : self.WellFormed) {event : Event User}
    (stays : self.NobodyLeaves event) : (self.step event).Tracked none := by
  cases event with
  | connect user order => exact tracked.connect wellFormed stays order
  | disconnect user session order => exact tracked.disconnect wellFormed stays order
  | message user objectId collabMessages =>
    rw [Server.step, processClientCollabMessage]
    cases self.groupSenderByObjectId objectId with
    | none =>
      refine Tracked.start ?_ ?_ _ _
      · exact tracked.of_frame ⟨rfl, rfl, rfl, rfl⟩ rfl fun _ => .inl
      · exact wellFormed.of_frame ⟨rfl, rfl, rfl, rfl⟩
    | some sender => exact tracked.start wellFormed sender _
  | getEncodeCollab objectId =>
    rw [Server.step, getEncodeCollab]
    cases self.groupSenderByObjectId objectId with
    | none => exact tracked
    | some sender => exact tracked.start wellFormed sender _
  | poll number =>
    rw [Server.step, pollFuture]
    split
    · exact tracked
    · next leaving objectId remaining after found =>
      cases after with
      | removeStream user session => exact absurd found (tracked.staying number leaving objectId remaining user session)
      | insertStream user session =>
        have known := tracked.known number leaving objectId remaining user session found
        refine (tracked.weaken (some user)).removeUser known (fun _ _ _ _ _ waits => ?_) leaving remaining
        cases found.symm.trans waits
        rfl
    · next found => exact tracked.send found
  | runner number received =>
    have streams : (self.runRunner number received).clientStreamByUser = self.clientStreamByUser :=
      funext fun user => runRunner_stream self number (.inl stays)
    exact tracked.of_frame (runRunner_handlerFrame self number received) streams
      (keepsRecords_runRunner self number received)
  | tick order elapsed => exact tracked.of_sweep (tick_frame self order elapsed)

/-- As long as nobody leaves for good, all maps are about the same users whenever no handler waits. -/
theorem session_maps_agree (events : List (Event User)) (stays : Always step NobodyLeaves new events)
    (idle : (run step new events).Idle) : (run step new events).MapsAgree := by
  have holds : (run step new events).WellFormed ∧ (run step new events).Tracked none :=
    Always.invariant (fun (self : Server User) event (holds : self.WellFormed ∧ self.Tracked none) admitted =>
      ⟨holds.1.step event, holds.2.step holds.1 admitted⟩) ⟨wellFormed_new, tracked_new⟩ stays
  exact holds.2.mapsAgree idle

/-- Every future that has started has finished. -/
theorem run_idle {events : List (Event User)}
    (finished : ∀ number < (run step new events).started, ((run step new events).futures number).isNone = true) :
    (run step new events).Idle := by
  intro number _ _ _ _ found
  cases ((run_wellFormed events).finished finished number).symm.trans found

/-! ## Whoever leaves stays in two of the maps -/

omit [DecidableEq User] [RealtimeUser User] in
theorem not_mapsAgree {server : Server User} (known : (server.sessionIdByUser user).isSome = true)
    (gone : server.clientStreamByUser user = none) : ¬ server.MapsAgree := by
  intro agree
  have same := agree.sessions user
  rw [known, gone] at same
  cases same

theorem Tracked.replaced_leaks (tracked : self.Tracked none) {oldUser : User} (order : List Editing)
    (found : self.userByDevice (.from user) = some oldUser) (other : oldUser ≠ user) :
    ¬ (self.connect user order).MapsAgree := by
  have known : (self.sessionIdByUser oldUser).isSome = true := ((tracked.devices _ oldUser).mp found).2
  have kept : ((self.register user).sessionIdByUser oldUser).isSome = true := by
    rwa [show (self.register user).sessionIdByUser oldUser = self.sessionIdByUser oldUser from
      Function.update_of_ne other _ _]
  rw [Server.connect, found]
  refine removeUser_cases (motive := fun server => ¬ server.MapsAgree) (fun _ => ?_) fun _ _ _ _ _ _ => ?_
  · refine not_mapsAgree kept ?_
    simp [conclude, setStream, Server.setFuture, other, Server.takeEditing, setEditing]
  · refine not_mapsAgree kept ?_
    exact Function.update_self oldUser _ _

omit [RealtimeUser User] in
theorem disconnected_leaks {session : Nat} (order : List Editing) (known : self.sessionIdByUser user = some session)
    (idle : (self.disconnect user session order).Idle) : ¬ (self.disconnect user session order).MapsAgree := by
  revert idle
  refine disconnect_cases (motive := fun server => server.Idle → ¬ server.MapsAgree) ?_ fun _ => ?_
  · intro current present different
    exact absurd (Option.some.inj (present.symm.trans known)) different
  · refine removeUser_cases (motive := fun server => server.Idle → ¬ server.MapsAgree) (fun _ _ => ?_) ?_
    · refine not_mapsAgree ?_ (Function.update_self user _ _)
      simp [conclude, setStream, Server.setFuture, Server.takeEditing, setEditing, known]
    · intro _ editing remaining _ _ _ idle
      exact absurd (Function.update_self self.started _ _) (idle self.started user editing.objectId remaining _)

end Server

end Server

/-! ## Two runs -/

/-- Two users connect, one of them a second time, and the first connection ends late. -/
def reconnection : List (Event (Int × String)) :=
  [.connect (1, "device") [], .connect (2, "phone") [], .connect (1, "device") [], .disconnect (1, "device") 0 []]

theorem reconnection_mapsAgree : (run Server.step Server.new reconnection).MapsAgree := by
  refine Server.session_maps_agree reconnection ⟨?_, ?_, ?_, ?_, trivial⟩ (Server.run_idle (by decide +kernel))
  · rintro _ ⟨⟩
  · intro oldUser found
    have free : ((Server.new : Server (Int × String)).step (.connect (1, "device") [])).userByDevice
        (.from ((2 : Int), "phone")) = none := by decide +kernel
    cases free.symm.trans found
  · intro oldUser found
    have own : (run Server.step Server.new (reconnection.take 2)).userByDevice (.from ((1 : Int), "device")) =
        some (1, "device") := by decide +kernel
    exact (Option.some.inj (own.symm.trans found)).symm
  · show (run Server.step Server.new (reconnection.take 3)).sessionIdByUser (1, "device") ≠ some 0
    decide +kernel

/-- The only user disconnects, and he keeps his session and his device. -/
theorem session_maps_leak :
    (run Server.step Server.new [.connect ((1 : Int), "device") [], .disconnect (1, "device") 0 []]).Idle ∧
      ¬ (run Server.step Server.new [.connect ((1 : Int), "device") [], .disconnect (1, "device") 0 []]).MapsAgree := by
  refine ⟨Server.run_idle (by decide +kernel), ?_⟩
  have known : ((run Server.step Server.new [.connect ((1 : Int), "device") [],
      .disconnect (1, "device") 0 []]).sessionIdByUser (1, "device")).isSome = true := by decide +kernel
  exact Server.not_mapsAgree known (by decide +kernel)

end FlowCloud.Tasks
