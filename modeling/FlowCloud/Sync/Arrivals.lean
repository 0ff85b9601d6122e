import FlowCloud.Sync.Uploads

/-! # What reaches a client

Every operation of the server's document is in the client's, or in a message that the client
is about to process, or a queued init sync waits for an ack that brings it.  A step of the
client keeps this, and it keeps what the client owes the server.
-/

namespace FlowCloud.Sync

open FlowCloud.Foundation FlowCloud.Entity FlowCloud.Protocol FlowCloud.Client FlowCloud.Server

variable {Op StateVector AwarenessUpdate : Type} [DecidableEq Op]

section Arrivals

variable (yrs : Yrs Op StateVector AwarenessUpdate)

/-- The operation is at the server, or the client has it in a message or answer to come. -/
def Sends (system : Exchange Op AwarenessUpdate) (op : Op) : Prop :=
  op ∈ system.server.content ∨ Held yrs system.client.sink op ∨
    ∃ msg, system.processing = some msg ∧ Asks yrs msg system.server.content

def Gives (ack : CollabAck) (op : Op) : Prop :=
  ∃ update ops known, yrs.decodeUpdate update = .ok ops ∧ op ∈ ops ∧ ack.payload = answerPayload yrs update known

/-- An init sync is queued, and every ack that was given for it brings the operation. -/
def Awaits (system : Exchange Op AwarenessUpdate) (op : Op) : Prop :=
  ∃ item ∈ system.client.sink.messageQueue, item.inner.isClientInitSync = true ∧
    ∀ ack ∈ system.acks, ack.source.msgId = item.msgId → Gives yrs ack op

/-- The client has the operation, is about to process it, or awaits it. -/
def Arrives (system : Exchange Op AwarenessUpdate) (op : Op) : Prop :=
  op ∈ system.client.collab.content ∨
    (∃ msg, system.processing = some msg ∧ op ∈ carriedOps yrs (MessageReader.read yrs.codec msg.payload).messages) ∨
    Awaits yrs system op

/-- The messages of the client are those of its document, and what it is sent comes from the
    document of the server. -/
structure Honest (origin : CollabOrigin) (system : Exchange Op AwarenessUpdate) : Prop where
  sink : ProperSink yrs origin system.client.sink system.transmitted system.client.collab.content
  acks : ∀ ack ∈ system.acks, Fit yrs origin system.server.content (.clientAck ack) ∧
    ∃ copy ∈ system.transmitted, copy.msgId = ack.source.msgId ∧ Answers yrs copy ack system.server.content
  processing : ∀ msg, system.processing = some msg → Fit yrs origin system.server.content msg

/-- A step after which the exchange is still honest, and which loses nothing on its way. -/
structure Advances (origin : CollabOrigin) (before after : Exchange Op AwarenessUpdate) : Prop where
  honest : Honest yrs origin after
  grows : before.server.content ⊆ after.server.content
  keeps : before.client.collab.content ⊆ after.client.collab.content
  /-- As long as no ack was given, an init sync stays in the queue. -/
  opened : before.acks = [] → (∃ item ∈ before.client.sink.messageQueue, item.inner.isClientInitSync = true) →
    ∃ item ∈ after.client.sink.messageQueue, item.inner.isClientInitSync = true
  sends : (∀ op ∈ before.client.collab.content, Sends yrs before op) →
    ∀ op ∈ after.client.collab.content, Sends yrs after op
  arrives : ∀ op ∈ before.server.content, Arrives yrs before op → Arrives yrs after op

variable {yrs} {origin : CollabOrigin} {self next : Exchange Op AwarenessUpdate} {op : Op}

theorem Advances.refl (honest : Honest yrs origin self) : Advances yrs origin self self :=
  ⟨honest, Finset.Subset.refl _, Finset.Subset.refl _, fun _ => id, id, fun _ _ => id⟩

theorem Advances.trans {last : Exchange Op AwarenessUpdate} (first : Advances yrs origin self next)
    (same : next.acks = self.acks) (second : Advances yrs origin next last) : Advances yrs origin self last where
  honest := second.honest
  grows := Finset.Subset.trans first.grows second.grows
  keeps := Finset.Subset.trans first.keeps second.keeps
  opened none queued := second.opened (same.trans none) (first.opened none queued)
  sends sends := second.sends (first.sends sends)
  arrives op has arrives := second.arrives op (first.grows has) (first.arrives op has arrives)

/-! ## The sink changes -/

/-- An init sync with a new id has no ack yet. -/
theorem Honest.unacked (honest : Honest yrs origin self) {ack : CollabAck} (given : ack ∈ self.acks) :
    ack.source.msgId < self.client.sink.msgIdCounter := by
  obtain ⟨_, copy, sent, source, _⟩ := honest.acks ack given
  rw [← source]
  exact honest.sink.posted.sentId copy sent

/-- What a change of the client keeps: everything but its sink and what it has transmitted. -/
structure SinkChange (before after : Exchange Op AwarenessUpdate) : Prop where
  collab : after.client.collab = before.client.collab
  server : after.server = before.server
  acks : after.acks = before.acks
  processing : after.processing = before.processing
  transmitted : before.transmitted ⊆ after.transmitted

theorem Honest.sinkChange (honest : Honest yrs origin self) (change : SinkChange self next)
    (proper : ProperSink yrs origin next.client.sink next.transmitted next.client.collab.content) :
    Honest yrs origin next where
  sink := proper
  acks := by
    rw [change.acks, change.server]
    intro ack given
    obtain ⟨fit, copy, sent, answers⟩ := honest.acks ack given
    exact ⟨fit, copy, change.transmitted sent, answers⟩
  processing := by
    rw [change.processing, change.server]
    exact honest.processing

/-- The sink keeps its init syncs and what it holds. -/
theorem Advances.of_kept (honest : Honest yrs origin self) (change : SinkChange self next)
    (proper : ProperSink yrs origin next.client.sink next.transmitted next.client.collab.content)
    (held : ∀ op, Held yrs self.client.sink op → Held yrs next.client.sink op)
    (inits : ∀ item ∈ self.client.sink.messageQueue, item.inner.isClientInitSync = true →
      item ∈ next.client.sink.messageQueue) : Advances yrs origin self next where
  honest := honest.sinkChange change proper
  grows := change.server ▸ Finset.Subset.refl _
  keeps := change.collab ▸ Finset.Subset.refl _
  opened := by
    rintro _ ⟨item, member, init⟩
    exact ⟨item, inits item member init, init⟩
  sends := by
    rw [change.collab]
    intro sends op own
    rcases sends op own with has | holds | asks
    · exact .inl (change.server.symm ▸ has)
    · exact .inr (.inl (held op holds))
    · rw [← change.processing, ← change.server] at asks
      exact .inr (.inr asks)
  arrives := by
    rintro op _ (own | processes | ⟨item, member, init, gives⟩)
    · exact .inl (change.collab.symm ▸ own)
    · rw [← change.processing] at processes
      exact .inr (.inl processes)
    · rw [← change.acks] at gives
      exact .inr (.inr ⟨item, inits item member init, init, gives⟩)

/-- With a new init sync in its queue the client awaits everything. -/
theorem Advances.of_opened (honest : Honest yrs origin self) (change : SinkChange self next)
    (proper : ProperSink yrs origin next.client.sink next.transmitted next.client.collab.content) {item : QueueItem}
    (member : item ∈ next.client.sink.messageQueue) (init : item.inner.isClientInitSync = true)
    (new : item.msgId = self.client.sink.msgIdCounter) : Advances yrs origin self next where
  honest := honest.sinkChange change proper
  grows := change.server ▸ Finset.Subset.refl _
  keeps := change.collab ▸ Finset.Subset.refl _
  opened _ _ := ⟨item, member, init⟩
  sends _ _ _ := .inr (.inl ⟨item, member, .inl init⟩)
  arrives op _ _ := by
    refine .inr (.inr ⟨item, member, init, ?_⟩)
    rw [change.acks]
    intro ack given same
    have before := honest.unacked given
    rw [same, new] at before
    exact absurd before (Nat.lt_irrefl _)

/-- The client queues an init sync, or it leaves its sink as it is. -/
theorem Advances.initSync (honest : Honest yrs origin self) (change : SinkChange self next) {moment : SyncMoment}
    {object : SyncObject} (transmitted : next.transmitted = self.transmitted)
    (sink : next.client.sink = Client.initSync yrs moment origin object self.client.collab self.client.sink)
    (onward : self.client.sink.msgIdCounter ≤ next.client.sink.msgIdCounter) : Advances yrs origin self next := by
  rw [sink, Client.initSync] at onward
  rw [Client.initSync] at sink
  cases started : docInitState yrs moment self.client.collab with
  | none =>
    rw [started] at sink
    simp only at sink
    refine .of_kept honest change ?_ (fun op held => by rwa [sink]) fun item member _ => by rwa [sink]
    rw [sink, transmitted, change.collab]
    exact honest.sink
  | some payload =>
    rw [started] at sink onward
    simp only [CollabSink.queueInitSync] at sink onward
    have opens : Proper yrs origin self.client.collab.content (.clientInitSync
        ⟨origin, object.objectId, object.collabType, object.workspaceId, self.client.sink.msgIdCounter, payload⟩) :=
      proper_init rfl (Finset.Subset.refl _) (docInitState_eq started)
    have proper := (honest.sink.clear moment.queueFree moment.flyingFree).push opens (room_of_le onward)
    obtain ⟨item, member, init, new⟩ : ∃ item ∈ next.client.sink.messageQueue,
        item.inner.isClientInitSync = true ∧ item.msgId = self.client.sink.msgIdCounter := by
      rw [sink]
      exact ⟨_, .head _, rfl, rfl⟩
    refine .of_opened honest change ?_ member init new
    rw [sink, transmitted, change.collab]
    exact proper

/-! ## Server messages -/

/-- The client takes a message that fits while it processes none. -/
theorem Advances.take (honest : Honest yrs origin self) (idle : self.processing = none)
    {msg : Option ServerCollabMessage} (fits : ∀ taken, msg = some taken → Fit yrs origin self.server.content taken)
    (stopped : Bool) : Advances yrs origin self { self with processing := msg, stopped } where
  honest := ⟨honest.sink, honest.acks, fits⟩
  grows := Finset.Subset.refl _
  keeps := Finset.Subset.refl _
  opened _ queued := queued
  sends sends op own := by
    rcases sends op own with has | held | ⟨taken, processes, _⟩
    · exact .inl has
    · exact .inr (.inl held)
    · rw [idle] at processes
      cases processes
  arrives := by
    rintro op _ (own | ⟨taken, processes, _⟩ | awaits)
    · exact .inl own
    · rw [idle] at processes
      cases processes
    · exact .inr (.inr awaits)

variable (object : SyncObject)

/-- A broadcast or an awareness message is always accepted. -/
theorem acceptMessage_unnumbered {moment : SyncMoment} {msg : ServerCollabMessage}
    {client : ObserveCollab Op AwarenessUpdate} (unnumbered : msg.msgId = none) :
    acceptMessage yrs moment origin object msg client =
      (.ok true, noticeBroadcast yrs moment origin object msg client) := by
  have lets : refusesUpdate msg = false := by
    cases msg with
    | clientAck | serverInitSync => cases unnumbered
    | awarenessSync | serverBroadcast => rfl
  simp only [acceptMessage, lets, Bool.false_eq_true, if_false, CollabSink.validateResponse, unnumbered]

/-- A broadcast or an awareness message is taken, and an init sync may be queued before. -/
theorem Advances.receive_unnumbered (honest : Honest yrs origin self) (moment : SyncMoment)
    {msg : ServerCollabMessage} (unnumbered : msg.msgId = none) (fit : Fit yrs origin self.server.content msg)
    (onward : self.client.sink.msgIdCounter ≤ (self.receive yrs origin object moment msg).client.sink.msgIdCounter) :
    Advances yrs origin self (self.receive yrs origin object moment msg) := by
  rw [Exchange.receive] at onward ⊢
  split
  · exact .refl honest
  · rename_i ready
    rw [if_neg ready] at onward
    rw [acceptMessage_unnumbered object unnumbered] at onward ⊢
    obtain ⟨collab, sink⟩ := noticeBroadcast_sink yrs moment origin object msg self.client
    let noticed := { self with client := noticeBroadcast yrs moment origin object msg self.client }
    have change : SinkChange self noticed := ⟨collab, rfl, rfl, rfl, List.Subset.refl _⟩
    have notices : Advances yrs origin self noticed := by
      cases sink with
      | inl same =>
        refine .of_kept honest change ?_ (fun op held => by rwa [same]) fun item member _ => by rwa [same]
        rw [same, collab]
        exact honest.sink
      | inr synced => exact .initSync honest change rfl synced onward
    refine notices.trans rfl (.take notices.honest (processing_of_ready ready) ?_ self.stopped)
    intro taken processes
    split at processes
    · cases processes
      exact fit
    · cases processes

/-- Taken, a message brings its operations. -/
theorem arrives_receive {moment : SyncMoment} {msg : ServerCollabMessage} (unnumbered : msg.msgId = none)
    (ready : ¬ (self.stopped || self.processing.isSome) = true)
    (carried : op ∈ carriedOps yrs (MessageReader.read yrs.codec msg.payload).messages) :
    Arrives yrs (self.receive yrs origin object moment msg) op := by
  have nonempty : msg.payload.isEmpty = false := by
    rw [List.isEmpty_eq_false_iff]
    intro empty
    rw [empty, MessageReader.read_nil] at carried
    exact absurd carried (Finset.notMem_empty op)
  rw [Exchange.receive, if_neg ready, acceptMessage_unnumbered object unnumbered]
  refine .inr (.inl ⟨msg, ?_, carried⟩)
  simp only [nonempty, Bool.not_false, Bool.and_self, if_true]

/-- The ack with an item's id was given for the item as it is. -/
theorem Honest.acknowledged (honest : Honest yrs origin self) {ack : CollabAck} (given : ack ∈ self.acks)
    {item : QueueItem} (member : item ∈ self.client.sink.messageQueue) (own : ack.source.msgId = item.msgId) :
    Answers yrs item.inner ack self.server.content := by
  obtain ⟨_, copy, sent, source, answers⟩ := honest.acks ack given
  obtain rfl := honest.sink.posted.unchanged copy sent item member trivial (source.trans own)
  exact answers

theorem acceptMessage_ack {moment : SyncMoment} {ack : CollabAck} {client : ObserveCollab Op AwarenessUpdate}
    (accepts : refusesUpdate (.clientAck ack) = false) :
    acceptMessage yrs moment origin object (.clientAck ack) client =
      (.ok (client.sink.validateResponse (.clientAck ack)).1,
        { client with sink := (client.sink.validateResponse (.clientAck ack)).2 }) := by
  simp only [acceptMessage, accepts, Bool.false_eq_true, if_false, noticeBroadcast]

/-- An ack takes an item out only when the server has what the item brings, or the client
    goes on with what it awaits. -/
theorem Advances.accept_ack (honest : Honest yrs origin self) (idle : self.processing = none) {ack : CollabAck}
    (given : ack ∈ self.acks) {item : QueueItem} {sink : CollabSink}
    (removed : (item :: sink.messageQueue).Perm self.client.sink.messageQueue)
    (counter : sink.msgIdCounter = self.client.sink.msgIdCounter) (own : ack.source.msgId = item.msgId) :
    Advances yrs origin self { self with
      client := { self.client with sink }
      processing := if !ack.payload.isEmpty then some (.clientAck ack) else none } := by
  have queued : item ∈ self.client.sink.messageQueue := removed.subset (.head _)
  have answers := honest.acknowledged given queued own
  have taken (known : Finset Op) (update : Bytes) (payload : ack.payload = answerPayload yrs update known) :
      (if !ack.payload.isEmpty then some (ServerCollabMessage.clientAck ack) else none) = some (.clientAck ack) := by
    have nonempty : ack.payload.isEmpty = false := by
      rw [payload, List.isEmpty_eq_false_iff]
      exact answerPayload_ne_nil yrs update known
    simp only [nonempty, Bool.not_false, if_true]
  constructor
  · refine ⟨honest.sink.of_removed removed counter, honest.acks, ?_⟩
    intro msg processes
    simp only at processes
    split at processes
    · cases processes
      exact (honest.acks ack given).1
    · cases processes
  · exact Finset.Subset.refl _
  · exact Finset.Subset.refl _
  · intro none _
    rw [none] at given
    cases given
  · intro sends op here
    rcases sends op here with has | ⟨held, member, brings⟩ | ⟨msg, processes, _⟩
    · exact .inl has
    · rcases List.mem_cons.mp (removed.symm.subset member) with rfl | stays
      · -- the item itself was answered
        cases brings with
        | inl init =>
          obtain ⟨update, ops, known, decoded, within, payload⟩ := answers.2 init
          exact .inr (.inr ⟨.clientAck ack, taken known update payload, update, ops, known, decoded, within, payload⟩)
        | inr carried => exact .inl (answers.1 carried)
      · exact .inr (.inl ⟨held, stays, brings⟩)
    · rw [idle] at processes
      cases processes
  · rintro op _ (here | ⟨msg, processes, _⟩ | ⟨held, member, init, gives⟩)
    · exact .inl here
    · rw [idle] at processes
      cases processes
    · rcases List.mem_cons.mp (removed.symm.subset member) with rfl | stays
      · obtain ⟨update, ops, known, decoded, inside, payload⟩ := gives ack given own
        refine .inr (.inl ⟨.clientAck ack, taken known update payload, ?_⟩)
        rw [ServerCollabMessage.payload, payload, carriedOps_answerPayload decoded]
        exact inside
      · exact .inr (.inr ⟨held, stays, init, gives⟩)

theorem Advances.receive_ack (honest : Honest yrs origin self) (moment : SyncMoment) {ack : CollabAck}
    (given : ack ∈ self.acks) : Advances yrs origin self (self.receive yrs origin object moment (.clientAck ack)) := by
  rw [Exchange.receive]
  split
  · exact .refl honest
  rename_i ready
  have idle := processing_of_ready ready
  cases refuses : refusesUpdate (.clientAck ack) with
  | true =>
    have accepts : acceptMessage yrs moment origin object (.clientAck ack) self.client =
        (.error (.cannotApplyUpdate object.objectId), self.client) := by
      rw [acceptMessage, if_pos refuses]
    rw [accepts]
    have ends : Advances yrs origin self { self with processing := none, stopped := true } :=
      .take honest idle (by rintro _ ⟨⟩) true
    rwa [← idle] at ends
  | false =>
    rw [acceptMessage_ack object refuses]
    have counter := self.client.sink.validateResponse_msgIdCounter (.clientAck ack)
    rcases self.client.sink.validateResponse_outcome (.clientAck ack) with
      ⟨unnumbered, _⟩ | ⟨refused, same, _⟩ | ⟨item, rest, named, _, popped, accepted, left, _⟩
    · cases unnumbered
    · -- the ack is not for the first item
      simp only [refused, Bool.false_and, Bool.false_eq_true, if_false]
      have change : SinkChange self { self with
          client := { self.client with sink := (self.client.sink.validateResponse (.clientAck ack)).2 } } :=
        ⟨rfl, rfl, rfl, rfl, List.Subset.refl _⟩
      have kept := Advances.of_kept honest change (honest.sink.of_perm same counter)
        (fun op held => held.of_subset same.symm.subset) fun item member _ => same.symm.subset member
      rwa [idle] at kept
    · simp only [accepted, Bool.true_and]
      have removed := popMax_perm popped
      rw [← left] at removed
      exact .accept_ack honest idle given removed counter (Option.some.inj named)

/-! ## Processing -/

theorem Advances.process (honest : Honest yrs origin self) (sets : ExactSets yrs) (config : SinkConfig)
    (objectId : String) {msg : ServerCollabMessage} (processes : self.processing = some msg)
    {surroundings : Surroundings} (lockFree : surroundings.payloadLockFree = true)
    (idle : ∀ index, surroundings.payload index = .idle)
    (fresh : MergesFresh yrs self.client.sink self.transmitted)
    (onward : self.client.sink.msgIdCounter ≤
      (processPayload yrs config surroundings msg.origin msg.payload objectId self.client).2.sink.msgIdCounter) :
    Advances yrs origin self { self with
      client := (processPayload yrs config surroundings msg.origin msg.payload objectId self.client).2
      processing := none } := by
  have fit := honest.processing msg processes
  rw [processPayload_snd, if_pos lockFree] at onward
  simp only [processPayload_snd, if_pos lockFree]
  have count : _ = questions yrs msg.payload := countP_payloadMessages surroundings.payload msg.payload
  have messages : (payloadMessages yrs surroundings.payload msg.payload).map Prod.fst =
      (MessageReader.read yrs.codec msg.payload).messages := by
    rw [payloadMessages, List.map_map]
    exact List.zipIdx_map_fst _ _
  have benign : ∀ message ∈ payloadMessages yrs surroundings.payload msg.payload,
      Benign yrs message.1 ∧ message.2 = .idle := by
    intro message member
    have inside := List.mem_map_of_mem (f := Prod.fst) member
    rw [messages] at inside
    refine ⟨fit.benign _ inside, ?_⟩
    obtain ⟨indexed, _, rfl⟩ := List.mem_map.mp member
    exact idle indexed.2
  have content := processInners_benign config msg.origin objectId sets benign self.client
  rw [messages] at content
  have once : (payloadMessages yrs surroundings.payload msg.payload).countP (fun msg => isSyncStep1 msg.1) ≤ 1 :=
    count.trans_le fit.once
  have own (asks : 0 < (payloadMessages yrs surroundings.payload msg.payload).countP fun msg => isSyncStep1 msg.1) :
      msg.origin = origin := by
    rw [count] at asks
    exact fit.asker asks
  obtain ⟨proper, holds⟩ := processInners_holds config objectId sets once own honest.sink fresh onward
  constructor
  · exact ⟨proper, honest.acks, by rintro _ ⟨⟩⟩
  · exact Finset.Subset.refl _
  · exact processInners_grows yrs config msg.origin objectId self.client _
  · rintro _ ⟨item, member, init⟩
    exact ⟨item, processInners_keeps yrs config msg.origin objectId (syncRank_of_initSync init) member _, init⟩
  · intro sends op here
    simp only [content] at here
    rcases Finset.mem_union.mp here with before | brought
    · rcases sends op before with has | held | ⟨taken, same, update, ops, known, decoded, within, payload⟩
      · exact .inl has
      · exact .inr (.inl (holds op held))
      · obtain rfl : taken = msg := Option.some.inj (same.symm.trans processes)
        cases Decidable.em (op ∈ known) with
        | inl asked => exact .inl (within asked)
        | inr missing =>
          refine .inr (.inl ?_)
          rw [payload, payloadMessages_answer idle]
          obtain ⟨item, member, conveys⟩ :=
            processInners_answer config taken.origin objectId self.client sets decoded before missing
          exact .of_conveys member conveys
    · exact .inl (fit.within brought)
  · rintro op _ (here | ⟨taken, same, carried⟩ | ⟨item, member, init, gives⟩)
    · left
      simp only [content]
      exact Finset.mem_union_left _ here
    · obtain rfl : taken = msg := Option.some.inj (same.symm.trans processes)
      left
      simp only [content]
      exact Finset.mem_union_right _ carried
    · have kept := processInners_keeps yrs config msg.origin objectId (syncRank_of_initSync init) member
        (payloadMessages yrs surroundings.payload msg.payload)
      exact .inr (.inr ⟨item, kept, init, gives⟩)

/-! ## The server's steps -/

/-- The server's document has grown, and the client is where it was. -/
theorem Advances.of_server (honest : Honest yrs origin self) (server : Collab Op AwarenessUpdate)
    (grows : self.server.content ⊆ server.content) : Advances yrs origin self { self with server } where
  honest := by
    refine ⟨honest.sink, ?_, fun msg processes => (honest.processing msg processes).mono grows⟩
    intro ack given
    obtain ⟨fit, copy, sent, source, answers⟩ := honest.acks ack given
    exact ⟨fit.mono grows, copy, sent, source, answers.mono yrs grows⟩
  grows := grows
  keeps := Finset.Subset.refl _
  opened _ queued := queued
  sends sends op own := by
    rcases sends op own with has | held | ⟨msg, processes, asks⟩
    · exact .inl (grows has)
    · exact .inr (.inl held)
    · exact .inr (.inr ⟨msg, processes, asks.mono grows⟩)
  arrives _ _ arrives := arrives

theorem handle_origin (environment : Nat → Moment) (objectId : String) (copy : ClientCollabMessage)
    (collab : Collab Op AwarenessUpdate) :
    ∀ ack ∈ (handleClientCollabMessage yrs environment objectId copy collab).resps, ack.origin = copy.origin := by
  have preserved : ∀ (state : Handling Op AwarenessUpdate) msg, (∀ ack ∈ state.resps, ack.origin = copy.origin) →
      ∀ ack ∈ (handleMessage yrs objectId copy state msg).resps, ack.origin = copy.origin := ?_
  · exact run_invariant preserved (List.forall_mem_nil _) _
  intro state msg own
  rw [handleMessage]
  split
  · split
    · simp only
      split
      · exact List.forall_mem_append.mpr ⟨own, List.forall_mem_singleton.mpr rfl⟩
      · exact own
    · exact List.forall_mem_append.mpr ⟨own, List.forall_mem_singleton.mpr rfl⟩
  · exact own

/-- A message that does not ask is answered with empty payloads. -/
theorem handle_silent (environment : Nat → Moment) (objectId : String) {copy : ClientCollabMessage}
    (silent : questions yrs copy.payload = 0) (collab : Collab Op AwarenessUpdate) :
    ∀ ack ∈ (handleClientCollabMessage yrs environment objectId copy collab).resps, ack.payload = [] := by
  have notAsking : ∀ msg ∈ (MessageReader.read yrs.codec copy.payload).messages, isSyncStep1 msg = false := by
    simpa [questions, List.countP_eq_zero] using silent
  have always : Always (handleMessage yrs objectId copy) (fun _ msg => isSyncStep1 msg.1 = false) ⟨collab, []⟩
      ((MessageReader.read yrs.codec copy.payload).messages.zipIdx.map
        fun message => (message.1, environment message.2)) := by
    refine .of_forall fun msg member => ?_
    obtain ⟨indexed, inside, rfl⟩ := List.mem_map.mp member
    exact notAsking indexed.1 (List.fst_mem_of_mem_zipIdx inside)
  have preserved : ∀ (state : Handling Op AwarenessUpdate) (msg : Message StateVector AwarenessUpdate × Moment),
      (∀ ack ∈ state.resps, ack.payload = []) → isSyncStep1 msg.1 = false →
        ∀ ack ∈ (handleMessage yrs objectId copy state msg).resps, ack.payload = [] := ?_
  · exact always.invariant preserved (List.forall_mem_nil _)
  intro state msg empty quiet
  rw [handleMessage]
  split
  · split
    · rename_i payload _ handled
      simp only
      split
      · refine List.forall_mem_append.mpr ⟨empty, List.forall_mem_singleton.mpr ?_⟩
        cases payload with
        | none => rfl
        | some answer =>
          obtain ⟨stateVector, asks, _⟩ := handleCollabMessage_answer yrs (congrArg Prod.fst handled)
          rw [asks] at quiet
          cases quiet
      · exact empty
    · exact List.forall_mem_append.mpr ⟨empty, List.forall_mem_singleton.mpr rfl⟩
  · exact empty

/-- The server handles a copy of the client. -/
theorem Advances.handle (honest : Honest yrs origin self) (sets : ExactSets yrs) (objectId : String)
    {copy : ClientCollabMessage} (sent : copy ∈ self.transmitted) {environment : Nat → Moment}
    (idle : ∀ index, environment index = .idle) :
    Advances yrs origin self { self with
      server := (handleClientCollabMessage yrs environment objectId copy self.server).collab
      acks := self.acks ++ (handleClientCollabMessage yrs environment objectId copy self.server).resps } := by
  have grows := handleClientCollabMessage_grows yrs environment objectId copy self.server
  have ids : ∀ ack ∈ (handleClientCollabMessage yrs environment objectId copy self.server).resps,
      ack.source.msgId = copy.msgId := handle_ids environment objectId copy self.server
  have proper := honest.sink.sent copy sent
  have opens : Opens yrs copy := by
    intro init
    obtain ⟨known, presence, _, payload⟩ := proper.opens init
    exact ⟨known, presence, payload⟩
  have opening (known : Finset Op) (presence : AwarenessUpdate)
      (payload : copy.payload = openingPayload yrs known presence) :=
    handle_opening sets idle objectId payload self.server
  have moved := Advances.of_server honest _ grows
  constructor
  · refine ⟨honest.sink, List.forall_mem_append.mpr ⟨moved.honest.acks, ?_⟩, moved.honest.processing⟩
    intro ack given
    refine ⟨?_, copy, sent, (ids ack given).symm, handle_answers sets idle objectId opens self.server ack given⟩
    cases init : copy.isClientInitSync with
    | true =>
      obtain ⟨known, presence, _, payload⟩ := proper.opens init
      have own : ack.origin = origin := (handle_origin environment objectId copy self.server ack given).trans proper.own
      exact fit_answer own (opening known presence payload ack given) (sets.missing self.server.content known)
        (Finset.Subset.trans Finset.sdiff_subset grows)
    | false => exact fit_empty (handle_silent environment objectId (proper.silent init) self.server ack given)
  · exact grows
  · exact moved.keeps
  · exact moved.opened
  · exact moved.sends
  · rintro op has (here | processes | ⟨item, member, init, gives⟩)
    · exact .inl here
    · exact .inr (.inl processes)
    cases Decidable.em (op ∈ self.client.collab.content) with
    | inl here => exact .inl here
    | inr missing =>
      refine .inr (.inr ⟨item, member, init, List.forall_mem_append.mpr ⟨gives, ?_⟩⟩)
      intro ack given same
      -- the copy is the init sync itself, which asks for what the client does not have
      obtain rfl := honest.sink.posted.unchanged copy sent item member trivial ((ids ack given).symm.trans same)
      obtain ⟨known, presence, within, payload⟩ := proper.opens init
      exact ⟨_, _, _, sets.missing self.server.content known,
        Finset.mem_sdiff.mpr ⟨has, fun asked => missing (within asked)⟩, opening known presence payload ack given⟩

/-! ## The client's own steps -/

theorem Advances.edit (honest : Honest yrs origin self) (update : Bytes)
    (onward : self.client.sink.msgIdCounter ≤ (self.edit yrs origin object update).client.sink.msgIdCounter) :
    Advances yrs origin self (self.edit yrs origin object update) where
  honest := by
    have grown : ProperSink yrs origin self.client.sink self.transmitted
        (self.client.collab.content ∪ updateOps yrs update) := honest.sink.mono Finset.subset_union_left
    exact ⟨grown.push (proper_update rfl rfl Finset.subset_union_right) (room_of_le onward), honest.acks,
      honest.processing⟩
  grows := Finset.Subset.refl _
  keeps := Finset.subset_union_left
  opened := by
    rintro _ ⟨item, member, init⟩
    exact ⟨item, .tail _ member, init⟩
  sends sends op here := by
    rcases Finset.mem_union.mp here with before | typed
    · rcases sends op before with has | held | asks
      · exact .inl has
      · exact .inr (.inl (held.of_subset (List.subset_cons_self _ _)))
      · exact .inr (.inr asks)
    · refine .inr (.inl ⟨_, .head _, .inr ?_⟩)
      rw [QueueItem.messages, payload_setMsgId, receiveLocalState, ClientCollabMessage.payload,
        carriedOps_updatePayload]
      exact typed
  arrives := by
    rintro op _ (here | processes | ⟨item, member, init, gives⟩)
    · exact .inl (Finset.mem_union_left _ here)
    · exact .inr (.inl processes)
    · exact .inr (.inr ⟨item, .tail _ member, init, gives⟩)

/-- What the client does by itself, with the acks it is given. -/
def isLocal : ExchangeEvent Op AwarenessUpdate → Bool
  | .handle _ _ | .change _ | .receiveBroadcast _ _ _ _ | .receiveAwareness _ => false
  | .edit _ | .editAwareness _ | .merge _ | .initSync _ | .relayout _ | .processNextMsg _ | .sendFinished _ | .tick
  | .setPause _ | .receiveAck _ | .process _ => true

variable (yrs) in
/-- A merge drops no update and grows no message that is under way. -/
def MergesOnlyFresh (self : Exchange Op AwarenessUpdate) : ExchangeEvent Op AwarenessUpdate → Prop
  | .merge _ | .process _ => MergesFresh yrs self.client.sink self.transmitted
  | _ => True

instance (self : Exchange Op AwarenessUpdate) :
    (event : ExchangeEvent Op AwarenessUpdate) → Decidable (MergesOnlyFresh yrs self event)
  | .merge _ | .process _ => inferInstanceAs (Decidable (MergesFresh yrs self.client.sink self.transmitted))
  | .edit _ | .editAwareness _ | .initSync _ | .relayout _ | .processNextMsg _ | .sendFinished _ | .tick | .setPause _
  | .handle _ _ | .change _ | .receiveAck _ | .receiveBroadcast _ _ _ _ | .receiveAwareness _ => .isTrue trivial

variable (yrs origin) in
theorem Exchange.receive_shared (moment : SyncMoment) (msg : ServerCollabMessage) :
    (self.receive yrs origin object moment msg).server = self.server ∧
      (self.receive yrs origin object moment msg).acks = self.acks := by
  rw [Exchange.receive]
  split
  · exact ⟨rfl, rfl⟩
  · split <;> exact ⟨rfl, rfl⟩

variable (yrs origin) in
theorem Exchange.step_shared (config : SinkConfig) {event : ExchangeEvent Op AwarenessUpdate}
    (own : isLocal event = true) :
    (self.step yrs config origin object event).server = self.server ∧
      (self.step yrs config origin object event).acks = self.acks := by
  cases event with
  | handle | change | receiveBroadcast | receiveAwareness => cases own
  | edit | editAwareness | merge | initSync | processNextMsg | sendFinished | tick | setPause => exact ⟨rfl, rfl⟩
  | relayout layout =>
    simp only [Exchange.step]
    split <;> exact ⟨rfl, rfl⟩
  | receiveAck ack =>
    simp only [Exchange.step]
    split
    · exact self.receive_shared yrs origin object _ _
    · exact ⟨rfl, rfl⟩
  | process surroundings =>
    simp only [Exchange.step]
    split <;> exact ⟨rfl, rfl⟩

theorem Advances.step_local (honest : Honest yrs origin self) (sets : ExactSets yrs) (config : SinkConfig)
    {event : ExchangeEvent Op AwarenessUpdate} (own : isLocal event = true) (undisturbed : Undisturbed event)
    (fresh : FreshIds yrs config origin object self event) (merges : MergesOnlyFresh yrs self event) :
    Advances yrs origin self (self.step yrs config origin object event) := by
  rw [FreshIds] at fresh
  -- steps that leave the queue as it is or change its order
  have kept {sink : CollabSink} (permuted : sink.messageQueue.Perm self.client.sink.messageQueue)
      (counter : sink.msgIdCounter = self.client.sink.msgIdCounter) :
      Advances yrs origin self (self.withSink sink) :=
    .of_kept honest ⟨rfl, rfl, rfl, rfl, List.Subset.refl _⟩ (honest.sink.of_perm permuted counter)
      (fun op held => held.of_subset permuted.symm.subset) fun item member _ => permuted.symm.subset member
  cases event with
  | handle | change | receiveBroadcast | receiveAwareness => cases own
  | edit update => exact .edit object honest update fresh
  | editAwareness update =>
    have proper : Proper yrs origin self.client.collab.content
        (receiveLocalUpdate yrs origin object self.client.sink.msgIdCounter update) := proper_awareness rfl rfl
    exact .of_kept honest ⟨rfl, rfl, rfl, rfl, List.Subset.refl _⟩ (honest.sink.push proper (room_of_le fresh))
      (fun op held => held.of_subset (List.subset_cons_self _ _)) fun item member _ => .tail _ member
  | merge locksFree =>
    exact .of_kept honest ⟨rfl, rfl, rfl, rfl, List.Subset.refl _⟩ (honest.sink.merge merges config locksFree)
      (fun op held => held.merge honest.sink merges config locksFree)
      fun item member init => merge_keeps yrs _ config (syncRank_of_initSync init) member locksFree
  | initSync moment => exact .initSync honest ⟨rfl, rfl, rfl, rfl, List.Subset.refl _⟩ rfl rfl fresh
  | relayout layout =>
    simp only [Exchange.step]
    split
    · rename_i permuted
      exact kept (List.isPerm_iff.mp permuted) rfl
    · exact .refl honest
  | processNextMsg locksFree =>
    have permuted := self.client.sink.processNextMsg_perm locksFree
    exact .of_kept honest ⟨rfl, rfl, rfl, rfl, List.subset_append_left _ _⟩ (honest.sink.processNextMsg locksFree)
      (fun op held => held.of_subset permuted.symm.subset) fun item member _ => permuted.symm.subset member
  | sendFinished success =>
    refine kept ?_ (self.client.sink.sendFinished_msgIdCounter success)
    rw [CollabSink.sendFinished_messageQueue]
  | tick => exact kept (.refl _) rfl
  | setPause pause => exact kept (.refl _) rfl
  | receiveAck ack =>
    simp only [Exchange.step]
    split
    · rename_i given
      exact .receive_ack object honest _ given
    · exact .refl honest
  | process surroundings =>
    simp only [Exchange.step] at fresh ⊢
    cases processes : self.processing with
    | none => exact .refl honest
    | some msg =>
      rw [processes] at fresh
      exact .process honest sets config object.objectId processes undisturbed.1 undisturbed.2 merges fresh

end Arrivals

end FlowCloud.Sync
