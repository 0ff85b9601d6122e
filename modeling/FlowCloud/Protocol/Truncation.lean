import FlowCloud.Protocol.Lib0

/-! # Truncated payloads

The end of the buffer ends the iteration over a payload.  It is met between two messages, where
the payload ends, and everywhere inside a message that is cut.
-/

namespace FlowCloud.Protocol

open FlowCloud.Foundation FlowCloud.Entity

variable {StateVector AwarenessUpdate : Type}

section Reader

variable (codec : Codec StateVector AwarenessUpdate)

/-! ## Where the bytes run out -/

/-- The tag of a sync message, its buffer, or the state vector in it is not there as a whole. -/
inductive SyncRunsOut : Bytes → Prop where
  | tag {input : Bytes} (cut : codec.var.read.run input = .error .endOfBuffer) : SyncRunsOut input
  | buf {input rest : Bytes} {tag : UInt8} (read : codec.var.read.run input = .ok (tag, rest))
      (known : tag = MSG_SYNC_STEP_1 ∨ tag = MSG_SYNC_STEP_2 ∨ tag = MSG_SYNC_UPDATE)
      (cut : codec.buf.read.run rest = .error .endOfBuffer) : SyncRunsOut input
  | stateVector {input rest after buf : Bytes} (read : codec.var.read.run input = .ok (MSG_SYNC_STEP_1, rest))
      (bufRead : codec.buf.read.run rest = .ok (buf, after))
      (cut : codec.decodeStateVector buf = .error .endOfBuffer) : SyncRunsOut input

inductive CustomRunsOut : Bytes → Prop where
  | tag {input : Bytes} (cut : codec.var.read.run input = .error .endOfBuffer) : CustomRunsOut input
  | buf {input rest : Bytes} (read : codec.var.read.run input = .ok (MSG_CUSTOM_START_SYNC, rest))
      (cut : codec.buf.read.run rest = .error .endOfBuffer) : CustomRunsOut input

/-- What a message with this tag consists of is not there as a whole. -/
inductive BodyRunsOut : UInt8 → Bytes → Prop where
  | sync {input : Bytes} (msg : SyncRunsOut codec input) : BodyRunsOut MSG_SYNC input
  | awarenessBuf {input : Bytes} (cut : codec.buf.read.run input = .error .endOfBuffer) :
      BodyRunsOut MSG_AWARENESS input
  | awareness {input rest data : Bytes} (read : codec.buf.read.run input = .ok (data, rest))
      (cut : codec.decodeAwareness data = .error .endOfBuffer) : BodyRunsOut MSG_AWARENESS input
  | permission {input : Bytes} (cut : codec.var.read.run input = .error .endOfBuffer) : BodyRunsOut MSG_AUTH input
  | reason {input rest : Bytes} (read : codec.var.read.run input = .ok (PERMISSION_DENIED, rest))
      (cut : codec.string.read.run rest = .error .endOfBuffer) : BodyRunsOut MSG_AUTH input
  | custom {input : Bytes} (msg : CustomRunsOut codec input) : BodyRunsOut MSG_CUSTOM input

inductive RunsOut : Bytes → Prop where
  | tag {input : Bytes} (cut : codec.var.read.run input = .error .endOfBuffer) : RunsOut input
  | body {input rest : Bytes} {tag : UInt8} (read : codec.var.read.run input = .ok (tag, rest))
      (msg : BodyRunsOut codec tag rest) : RunsOut input

theorem SyncMessage.decode_endOfBuffer {input : Bytes} :
    (SyncMessage.decode codec).run input = .error .endOfBuffer ↔ SyncRunsOut codec input := by
  rw [SyncMessage.decode, Decoder.run_bind_eq_error]
  constructor
  · rintro (cut | ⟨tag, rest, read, failed⟩)
    · exact .tag cut
    · split at failed
      · next step1 =>
        subst step1
        cases Decoder.run_lift_eq_error.mp failed with
        | inl cut => exact .buf read (.inl rfl) cut
        | inr held =>
          obtain ⟨buf, after, bufRead, cut⟩ := held
          exact .stateVector read bufRead cut
      · split at failed
        · next step2 => exact .buf read (.inr (.inl step2)) (Decoder.run_map_eq_error.mp failed)
        · split at failed
          · next update => exact .buf read (.inr (.inr update)) (Decoder.run_map_eq_error.mp failed)
          · cases failed
  · rintro (cut | ⟨read, known, cut⟩ | ⟨read, bufRead, cut⟩)
    · exact .inl cut
    · refine .inr ⟨_, _, read, ?_⟩
      rcases known with rfl | rfl | rfl
      · exact Decoder.run_lift_eq_error.mpr (.inl cut)
      · exact Decoder.run_map_eq_error.mpr cut
      · exact Decoder.run_map_eq_error.mpr cut
    · exact .inr ⟨_, _, read, Decoder.run_lift_eq_error.mpr (.inr ⟨_, _, bufRead, cut⟩)⟩

/-- A time that cannot be decoded is another error. -/
theorem CustomMessage.decode_endOfBuffer {input : Bytes} :
    (CustomMessage.decode codec).run input = .error .endOfBuffer ↔ CustomRunsOut codec input := by
  rw [CustomMessage.decode, Decoder.run_bind_eq_error]
  constructor
  · rintro (cut | ⟨tag, rest, read, failed⟩)
    · exact .tag cut
    · split at failed
      · next check =>
        subst check
        cases Decoder.run_lift_eq_error.mp failed with
        | inl cut => exact .buf read cut
        | inr held =>
          obtain ⟨buf, after, bufRead, cut⟩ := held
          rw [SyncMeta.fromVec] at cut
          split at cut
          · cases cut
          · cases cut
      · cases failed
  · rintro (cut | ⟨read, cut⟩)
    · exact .inl cut
    · exact .inr ⟨_, _, read, Decoder.run_lift_eq_error.mpr (.inl cut)⟩

theorem Message.decodeBody_endOfBuffer {tag : UInt8} {input : Bytes} :
    (Message.decodeBody codec tag).run input = .error .endOfBuffer ↔ BodyRunsOut codec tag input := by
  rw [Message.decodeBody]
  constructor
  · intro failed
    split at failed
    · next sync =>
      subst sync
      exact .sync ((SyncMessage.decode_endOfBuffer codec).mp (Decoder.run_map_eq_error.mp failed))
    · split at failed
      · next awareness =>
        subst awareness
        cases Decoder.run_lift_eq_error.mp failed with
        | inl cut => exact .awarenessBuf cut
        | inr held =>
          obtain ⟨data, rest, read, cut⟩ := held
          exact .awareness read cut
      · split at failed
        · next auth =>
          subst auth
          cases Decoder.run_bind_eq_error.mp failed with
          | inl cut => exact .permission cut
          | inr held =>
            obtain ⟨permission, rest, read, failed⟩ := held
            split at failed
            · next denied =>
              subst denied
              exact .reason read (Decoder.run_map_eq_error.mp failed)
            · cases failed
        · split at failed
          · next custom =>
            subst custom
            exact .custom ((CustomMessage.decode_endOfBuffer codec).mp (Decoder.run_map_eq_error.mp failed))
          · cases failed
  · intro msg
    cases msg with
    | sync msg => exact Decoder.run_map_eq_error.mpr ((SyncMessage.decode_endOfBuffer codec).mpr msg)
    | awarenessBuf cut => exact Decoder.run_lift_eq_error.mpr (.inl cut)
    | awareness read cut => exact Decoder.run_lift_eq_error.mpr (.inr ⟨_, _, read, cut⟩)
    | permission cut => exact Decoder.run_bind_eq_error.mpr (.inl cut)
    | reason read cut => exact Decoder.run_bind_eq_error.mpr (.inr ⟨_, _, read, Decoder.run_map_eq_error.mpr cut⟩)
    | custom msg => exact Decoder.run_map_eq_error.mpr ((CustomMessage.decode_endOfBuffer codec).mpr msg)

theorem Message.decode_endOfBuffer {input : Bytes} :
    (Message.decode codec).run input = .error .endOfBuffer ↔ RunsOut codec input := by
  rw [Message.decode, Decoder.run_bind_eq_error]
  constructor
  · rintro (cut | ⟨tag, rest, read, failed⟩)
    · exact .tag cut
    · exact .body read ((Message.decodeBody_endOfBuffer codec).mp failed)
  · rintro (cut | ⟨read, msg⟩)
    · exact .inl cut
    · exact .inr ⟨_, _, read, (Message.decodeBody_endOfBuffer codec).mpr msg⟩

/-! ## What ends the iteration -/

/-- The rest of a payload behind some whole messages. -/
inductive Boundary : Bytes → Bytes → Prop where
  | start (payload : Bytes) : Boundary payload payload
  | behind {payload rest later : Bytes} {msg : Message StateVector AwarenessUpdate}
      (decoded : (Message.decode codec).run payload = .ok (msg, later)) (boundary : Boundary later rest) :
      Boundary payload rest

/-- When no error is reported, everything was read. -/
def ReportsTruncation (payload : Bytes) : Prop :=
  (MessageReader.read codec payload).failure = none → MessageReader.unread codec payload = []

theorem MessageReader.unreadFrom_enough {fuel otherFuel : Nat} {input : Bytes} (enough : input.length < fuel)
    (otherEnough : input.length < otherFuel) :
    MessageReader.unreadFrom codec fuel input = MessageReader.unreadFrom codec otherFuel input := by
  refine enough_fuel ?_ enough otherEnough
  intro fuel otherFuel input sameLater
  rw [MessageReader.unreadFrom, MessageReader.unreadFrom]
  split
  · next msg rest next => exact sameLater rest (MessageReader.next_shorter codec next)
  · rfl

theorem MessageReader.unread_unfold (payload : Bytes) :
    MessageReader.unread codec payload =
      match MessageReader.next codec payload with
      | some (.ok (_, rest)) => MessageReader.unread codec rest
      | _ => payload := by
  rw [MessageReader.unread, MessageReader.unreadFrom]
  cases next : MessageReader.next codec payload with
  | none => rfl
  | some result =>
    cases result with
    | error failure => rfl
    | ok success =>
      obtain ⟨msg, rest⟩ := success
      exact MessageReader.unreadFrom_enough codec (MessageReader.next_shorter codec next) (Nat.lt_succ_self _)

/-- Only the payload itself is a rest of a payload whose first message cannot be decoded. -/
theorem Boundary.eq_of_error {payload rest : Bytes} {failure : ReadError} (boundary : Boundary codec payload rest)
    (failed : (Message.decode codec).run payload = .error failure) : rest = payload := by
  cases boundary with
  | start => rfl
  | behind decoded => cases failed.symm.trans decoded

/-- Truncation is reported exactly if the bytes run out nowhere but at the end of the payload. -/
theorem reportsTruncation_iff (payload : Bytes) :
    ReportsTruncation codec payload ↔ ∀ rest, Boundary codec payload rest → RunsOut codec rest → rest = [] := by
  induction size : payload.length using Nat.strongRecOn generalizing payload with
  | ind size inductionHypothesis =>
    subst size
    rw [ReportsTruncation, MessageReader.read_unfold, MessageReader.unread_unfold, MessageReader.next]
    cases decoded : (Message.decode codec).run payload with
    | ok success =>
      obtain ⟨msg, later⟩ := success
      have whole := inductionHypothesis later.length (Message.decode_shorter codec decoded) later rfl
      refine whole.trans ⟨fun ends rest boundary runsOut => ?_,
        fun ends rest boundary => ends rest (.behind decoded boundary)⟩
      cases boundary with
      | start =>
        cases decoded.symm.trans ((Message.decode_endOfBuffer codec).mpr runsOut)
      | behind otherDecoded boundary =>
        cases decoded.symm.trans otherDecoded
        exact ends rest boundary runsOut
    | error failure =>
      cases failure with
      | endOfBuffer =>
        constructor
        · intro reports rest boundary _
          exact (boundary.eq_of_error codec decoded).trans (reports rfl)
        · exact fun ends _ => ends payload (.start payload) ((Message.decode_endOfBuffer codec).mp decoded)
      | unexpectedValue | other message =>
        refine iff_of_true (fun reported => by cases reported) fun rest boundary runsOut => ?_
        rw [boundary.eq_of_error codec decoded] at runsOut
        cases decoded.symm.trans ((Message.decode_endOfBuffer codec).mpr runsOut)

/-! ## Cut messages -/

structure Codec.Cuts : Prop where
  var : codec.var.Cuts
  buf : codec.buf.Cuts
  string : codec.string.Cuts

variable {codec}

theorem SyncMessage.runsOut_of_cut (cuts : codec.Cuts) {msg : SyncMessage StateVector} {before after : Bytes}
    (parts : msg.encode codec = before ++ after) (cut : after ≠ []) : SyncRunsOut codec before := by
  have either {tag : UInt8} (known : tag = MSG_SYNC_STEP_1 ∨ tag = MSG_SYNC_STEP_2 ∨ tag = MSG_SYNC_UPDATE)
      {buf : Bytes} (parts : codec.var.write tag ++ codec.buf.write buf = before ++ after) :
      SyncRunsOut codec before := by
    cases Wire.append_cut parts with
    | inl held =>
      obtain ⟨missing, nonempty, inTag⟩ := held
      exact .tag (cuts.var _ _ _ inTag nonempty)
    | inr held =>
      obtain ⟨part, rfl, inBuf⟩ := held
      exact .buf (codec.var.read_write _ _) known (cuts.buf _ _ _ inBuf cut)
  cases msg with
  | syncStep1 stateVector => exact either (.inl rfl) parts
  | syncStep2 data => exact either (.inr (.inl rfl)) parts
  | update data => exact either (.inr (.inr rfl)) parts

theorem CustomMessage.runsOut_of_cut (cuts : codec.Cuts) {msg : CustomMessage} {before after : Bytes}
    (parts : msg.encode codec = before ++ after) (cut : after ≠ []) : CustomRunsOut codec before := by
  cases msg with
  | syncCheck value =>
    cases Wire.append_cut parts with
    | inl held =>
      obtain ⟨missing, nonempty, inTag⟩ := held
      exact .tag (cuts.var _ _ _ inTag nonempty)
    | inr held =>
      obtain ⟨part, rfl, inBuf⟩ := held
      exact .buf (codec.var.read_write _ _) (cuts.buf _ _ _ inBuf cut)

/-- Wherever a message is cut, its bytes run out. -/
theorem Message.runsOut_of_cut (cuts : codec.Cuts) {msg : Message StateVector AwarenessUpdate} {before after : Bytes}
    (parts : msg.encode codec = before ++ after) (cut : after ≠ []) : RunsOut codec before := by
  have either {tag : UInt8} {body : Bytes} (parts : codec.var.write tag ++ body = before ++ after)
      (bodyRunsOut : ∀ part, body = part ++ after → BodyRunsOut codec tag part) : RunsOut codec before := by
    cases Wire.append_cut parts with
    | inl held =>
      obtain ⟨missing, nonempty, inTag⟩ := held
      exact .tag (cuts.var _ _ _ inTag nonempty)
    | inr held =>
      obtain ⟨part, rfl, inBody⟩ := held
      exact .body (codec.var.read_write _ _) (bodyRunsOut part inBody)
  cases msg with
  | sync msg => exact either parts fun part inBody => .sync (msg.runsOut_of_cut cuts inBody cut)
  | awareness update => exact either parts fun part inBody => .awarenessBuf (cuts.buf _ _ _ inBody cut)
  | custom msg => exact either parts fun part inBody => .custom (msg.runsOut_of_cut cuts inBody cut)
  | auth reason =>
    cases reason with
    | none => exact either parts fun part inBody => .permission (cuts.var _ _ _ inBody cut)
    | some reason =>
      refine either parts fun part inBody => ?_
      cases Wire.append_cut inBody with
      | inl held =>
        obtain ⟨missing, nonempty, inTag⟩ := held
        exact .permission (cuts.var _ _ _ inTag nonempty)
      | inr held =>
        obtain ⟨text, rfl, inText⟩ := held
        exact .reason (codec.var.read_write _ _) (cuts.string _ _ _ inText cut)

/-- A payload that is cut inside a message is read like one that ends before it. -/
theorem read_cut (cuts : codec.Cuts) (msgs : List (Message StateVector AwarenessUpdate))
    {msg : Message StateVector AwarenessUpdate} {before after : Bytes}
    (parts : msg.encode codec = before ++ after) (cut : after ≠ []) :
    MessageReader.read codec ((msgs.flatMap fun msg => msg.encode codec) ++ before) = ⟨msgs, none⟩ ∧
      MessageReader.unread codec ((msgs.flatMap fun msg => msg.encode codec) ++ before) = before := by
  induction msgs with
  | nil =>
    have ended : MessageReader.next codec before = none := by
      rw [MessageReader.next, (Message.decode_endOfBuffer codec).mpr (msg.runsOut_of_cut cuts parts cut)]
    rw [List.flatMap_nil, List.nil_append, MessageReader.read_unfold, MessageReader.unread_unfold, ended]
    exact ⟨rfl, rfl⟩
  | cons first msgs inductionHypothesis =>
    rw [List.flatMap_cons, List.append_assoc, MessageReader.read_unfold, MessageReader.unread_unfold,
      MessageReader.next_encode]
    simp only [inductionHypothesis]
    exact ⟨trivial, trivial⟩

end Reader

/-- Numbers and texts are cut where the number or the buffer is that they are read from. -/
theorem lib0_cuts : lib0.Cuts where
  var tag before after parts cut := Decoder.run_bind_error (Wire.nat_cuts tag.toNat before after parts cut)
  buf := Wire.buf_cuts
  string text before after parts cut :=
    Decoder.run_bind_error (Wire.buf_cuts text.toByteArray.data.toList before after parts cut)

/-- An update of eleven bytes of which one has arrived. -/
theorem cut_update_ends_silently :
    ¬ ∀ payload, (MessageReader.read lib0 payload).failure = none → MessageReader.unread lib0 payload = [] := by
  intro reported
  exact absurd (reported [0, 2, 11, 1] (by decide)) (by decide)

end FlowCloud.Protocol
