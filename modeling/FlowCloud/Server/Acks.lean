import FlowCloud.Server.GroupBroadcast

/-! # What a success ack says

The client deletes its copy of an edit on a success ack.  `handle_client_collab_message` runs
over the protocol messages of the payload and answers for all of them together; the results
here say when the answer is true of each.
-/

namespace FlowCloud.Server

open FlowCloud.Foundation FlowCloud.Entity FlowCloud.Protocol

variable {Op StateVector AwarenessUpdate : Type} [DecidableEq Op]

/-! ## Truthful answers -/

/-- At least one ack, and no other code than success. -/
def OnlySuccess (acks : List CollabAck) : Prop := acks ≠ [] ∧ ∀ ack ∈ acks, ack.code = .success

instance (acks : List CollabAck) : Decidable (OnlySuccess acks) := inferInstanceAs (Decidable (_ ∧ _))

section Truth

variable (yrs : Yrs Op StateVector AwarenessUpdate)

/-- The protocol messages of a payload, each with what the server leaves to it. -/
def innerMessages (environment : Nat → Moment) (payload : Bytes) :
    List (Message StateVector AwarenessUpdate × Moment) :=
  (MessageReader.read yrs.codec payload).messages.zipIdx.map fun message => (message.1, environment message.2)

/-- The message got the collab, and the handler had no error. -/
def Applied (collabMsg : ClientCollabMessage) (state : Handling Op AwarenessUpdate)
    (msg : Message StateVector AwarenessUpdate × Moment) : Prop :=
  msg.2.lockFree = true ∧
    (handleCollabMessage yrs msg.2.transactions collabMsg.origin (ServerSyncProtocol yrs) state.collab
      msg.1).1.isOk = true

instance (collabMsg : ClientCollabMessage) (state : Handling Op AwarenessUpdate)
    (msg : Message StateVector AwarenessUpdate × Moment) : Decidable (Applied yrs collabMsg state msg) :=
  inferInstanceAs (Decidable (_ ∧ _))

/-- The whole payload was decoded, and each message in it was applied. -/
def AppliedInFull (environment : Nat → Moment) (objectId : String) (collabMsg : ClientCollabMessage)
    (collab : Collab Op AwarenessUpdate) : Prop :=
  MessageReader.unread yrs.codec collabMsg.payload = [] ∧
    Always (handleMessage yrs objectId collabMsg) (Applied yrs collabMsg) ⟨collab, []⟩
      (innerMessages yrs environment collabMsg.payload)

instance (environment : Nat → Moment) (objectId : String) (collabMsg : ClientCollabMessage)
    (collab : Collab Op AwarenessUpdate) : Decidable (AppliedInFull yrs environment objectId collabMsg collab) :=
  inferInstanceAs (Decidable (_ ∧ _))

/-- The lock is to be had at each protocol message of the payload. -/
def LockFreeThroughout (environment : Nat → Moment) (payload : Bytes) : Prop :=
  ∀ msg ∈ innerMessages yrs environment payload, msg.2.lockFree = true

instance (environment : Nat → Moment) (payload : Bytes) : Decidable (LockFreeThroughout yrs environment payload) :=
  inferInstanceAs (Decidable (∀ msg ∈ _, _))

end Truth

/-! ## Failures are answered -/

theorem ackCodeFromError_ne_success (error : Error) : ackCodeFromError error ≠ .success := by
  cases error <;> rintro ⟨⟩

section Failures

variable (yrs : Yrs Op StateVector AwarenessUpdate)

theorem handleMessage_resps_kept (objectId : String) (collabMsg : ClientCollabMessage)
    (state : Handling Op AwarenessUpdate) (msg : Message StateVector AwarenessUpdate × Moment) :
    state.resps <+: (handleMessage yrs objectId collabMsg state msg).resps := by
  rw [handleMessage]
  split
  · split
    · simp only
      split
      · exact List.prefix_append _ _
      · exact List.prefix_refl _
    · exact List.prefix_append _ _
  · exact List.prefix_refl _

/-- A response that is given stays, and nothing comes before it. -/
theorem run_handleMessage_resps_kept (objectId : String) (collabMsg : ClientCollabMessage)
    (state : Handling Op AwarenessUpdate) (msgs : List (Message StateVector AwarenessUpdate × Moment)) :
    state.resps <+: (run (handleMessage yrs objectId collabMsg) state msgs).resps := by
  induction msgs generalizing state with
  | nil => exact List.prefix_refl _
  | cons msg msgs inductionHypothesis =>
    exact (handleMessage_resps_kept yrs objectId collabMsg state msg).trans (inductionHypothesis _)

/-- A message that gets the collab and fails leaves an ack that is no success. -/
theorem handleMessage_failure {objectId : String} {collabMsg : ClientCollabMessage}
    {state : Handling Op AwarenessUpdate} {msg : Message StateVector AwarenessUpdate × Moment}
    (lockFree : msg.2.lockFree = true) (failed : ¬ Applied yrs collabMsg state msg) :
    ∃ ack ∈ (handleMessage yrs objectId collabMsg state msg).resps, ack.code ≠ .success := by
  rw [Applied, lockFree] at failed
  rw [handleMessage, if_pos lockFree]
  split
  · rename_i handled
    rw [handled] at failed
    exact absurd ⟨rfl, rfl⟩ failed
  · rename_i err collab handled
    refine ⟨_, List.mem_append_right _ (List.mem_singleton_self _), ?_⟩
    exact ackCodeFromError_ne_success err

/-- When nothing but successes is answered, every message that got the collab was applied. -/
theorem always_applied_of_success {objectId : String} {collabMsg : ClientCollabMessage}
    {state : Handling Op AwarenessUpdate} {msgs : List (Message StateVector AwarenessUpdate × Moment)}
    (success : ∀ ack ∈ (run (handleMessage yrs objectId collabMsg) state msgs).resps, ack.code = .success)
    (lockFree : ∀ msg ∈ msgs, msg.2.lockFree = true) :
    Always (handleMessage yrs objectId collabMsg) (Applied yrs collabMsg) state msgs := by
  induction msgs generalizing state with
  | nil => trivial
  | cons msg msgs inductionHypothesis =>
    rw [List.forall_mem_cons] at lockFree
    refine ⟨?_, inductionHypothesis success lockFree.2⟩
    -- the ack of a failure stays among the responses to the end of the loop
    have answered := run_handleMessage_resps_kept yrs objectId collabMsg
      (handleMessage yrs objectId collabMsg state msg) msgs
    cases Decidable.em (Applied yrs collabMsg state msg) with
    | inl applied => exact applied
    | inr failed =>
      obtain ⟨ack, given, refused⟩ := handleMessage_failure yrs lockFree.1 failed
      exact absurd (success ack (answered.subset given)) refused

theorem lockFree_of_always_applied {objectId : String} {collabMsg : ClientCollabMessage}
    {state : Handling Op AwarenessUpdate} {msgs : List (Message StateVector AwarenessUpdate × Moment)}
    (applied : Always (handleMessage yrs objectId collabMsg) (Applied yrs collabMsg) state msgs) :
    ∀ msg ∈ msgs, msg.2.lockFree = true := by
  induction msgs generalizing state with
  | nil => exact List.forall_mem_nil _
  | cons msg msgs inductionHypothesis =>
    exact List.forall_mem_cons.mpr ⟨applied.1.1, inductionHypothesis applied.2⟩

end Failures

/-! ## When a success is the truth -/

/-- Of a message that is answered with successes only, everything was decoded and applied
    exactly when the lock was free at each message of the payload and the reader got to the
    payload's end. -/
theorem success_applied_iff (yrs : Yrs Op StateVector AwarenessUpdate) (environment : Nat → Moment)
    (objectId : String) (collabMsg : ClientCollabMessage) (collab : Collab Op AwarenessUpdate)
    (success : OnlySuccess (handleClientCollabMessage yrs environment objectId collabMsg collab).resps) :
    AppliedInFull yrs environment objectId collabMsg collab ↔
      LockFreeThroughout yrs environment collabMsg.payload ∧
        MessageReader.unread yrs.codec collabMsg.payload = [] := by
  constructor
  · rintro ⟨whole, applied⟩
    exact ⟨lockFree_of_always_applied yrs applied, whole⟩
  · rintro ⟨lockFree, whole⟩
    exact ⟨whole, always_applied_of_success yrs success.2 lockFree⟩

def updateMessage (payload : Bytes) : ClientCollabMessage :=
  .clientUpdateSync ⟨.client 1 "device", "object", 0, payload⟩

/-- Client 1's two edits in one payload. -/
def bothUpdates : ClientCollabMessage :=
  updateMessage
    ([0, 2, 11, 1, 1, 1, 0, 4, 1, 1, 116, 1, 97, 0] ++ [0, 2, 10, 1, 1, 1, 1, 132, 1, 0, 1, 98, 0])

theorem success_applied_both :
    AppliedInFull (UpdateTable.yrs typedUpdates) (fun _ => .idle) "object" bothUpdates ⟨∅, [], []⟩ :=
  (success_applied_iff (UpdateTable.yrs typedUpdates) (fun _ => .idle) "object" bothUpdates ⟨∅, [], []⟩
    (by decide)).mpr (by decide)

/-- The lock is taken when the second edit comes: one success is sent for both. -/
theorem success_for_skipped :
    ¬ ∀ (environment : Nat → Moment) (collabMsg : ClientCollabMessage)
        (collab : Collab (Nat × Nat) Lib0.AwarenessUpdate),
        OnlySuccess (handleClientCollabMessage (UpdateTable.yrs typedUpdates) environment "object" collabMsg
          collab).resps →
          AppliedInFull (UpdateTable.yrs typedUpdates) environment "object" collabMsg collab := by
  intro truthful
  have applied := truthful (fun index => if index = 1 then ⟨false, .free⟩ else .idle) bothUpdates ⟨∅, [], []⟩
    (by decide)
  revert applied
  decide

end FlowCloud.Server
