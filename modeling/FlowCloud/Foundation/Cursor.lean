import FlowCloud.Foundation.Wire

/-! # Cursors

A cursor stays where a read has left it, whether the read succeeded or failed.  A decoder over
a cursor is a decoder of `Wire` that also says where it leaves the buffer when it fails.
-/

namespace FlowCloud.Foundation

/-- The state is what the cursor has before it. -/
abbrev CursorDecoder (Value : Type) := ExceptT ReadError (StateM (List UInt8)) Value

namespace CursorDecoder

variable {Value Other : Type}

/-- The outcome of a read, and what the cursor has before it afterwards. -/
def readAt (decoder : CursorDecoder Value) (input : List UInt8) : Except ReadError Value × List UInt8 := decoder input

theorem readAt_bind (first : CursorDecoder Value) (next : Value → CursorDecoder Other) (input : List UInt8) :
    (first >>= next).readAt input =
      match first.readAt input with
      | (.ok value, rest) => (next value).readAt rest
      | (.error failure, rest) => (.error failure, rest) := by
  show (ExceptT.bindCont next (first.readAt input).1).run (first.readAt input).2 = _
  cases first.readAt input with
  | mk outcome rest => cases outcome <;> rfl

/-! ## Where a read leaves the cursor -/

/-- The cursor does not move backwards. -/
def NeverBack (decoder : CursorDecoder Value) : Prop := ∀ input, (decoder.readAt input).2 <:+ input

/-- The cursor moves on, unless the buffer ends. -/
def Advances (decoder : CursorDecoder Value) : Prop :=
  ∀ input, (decoder.readAt input).1 = .error .endOfBuffer ∨ (decoder.readAt input).2.length < input.length

/-- What is relied on of a primitive read. -/
structure MovesOn (decoder : CursorDecoder Value) : Prop where
  neverBack : decoder.NeverBack
  advances : decoder.Advances

theorem neverBack_pure (value : Value) : NeverBack (pure value) := fun input => List.suffix_refl input

theorem neverBack_throw (failure : ReadError) : NeverBack (throw failure : CursorDecoder Value) :=
  fun input => List.suffix_refl input

theorem neverBack_lift (outcome : Except ReadError Value) : NeverBack (liftM outcome) :=
  fun input => List.suffix_refl input

theorem NeverBack.bind {first : CursorDecoder Value} {next : Value → CursorDecoder Other}
    (firstNeverBack : first.NeverBack) (nextNeverBack : ∀ value, (next value).NeverBack) :
    (first >>= next).NeverBack := by
  intro input
  have before := firstNeverBack input
  rw [readAt_bind]
  generalize first.readAt input = read at before
  obtain ⟨outcome, rest⟩ := read
  cases outcome with
  | error failure => exact before
  | ok value => exact (nextNeverBack value rest).trans before

/-- The first part moves the cursor on, whatever comes of the others. -/
theorem Advances.bind {first : CursorDecoder Value} {next : Value → CursorDecoder Other}
    (firstAdvances : first.Advances) (nextNeverBack : ∀ value, (next value).NeverBack) : (first >>= next).Advances := by
  intro input
  have before := firstAdvances input
  rw [readAt_bind]
  generalize first.readAt input = read at before
  obtain ⟨outcome, rest⟩ := read
  cases outcome with
  | error failure => exact before.imp_left fun ended => by cases ended; rfl
  | ok value =>
    cases before with
    | inl ended => cases ended
    | inr shorter => exact .inr (Nat.lt_of_le_of_lt (nextNeverBack value rest).length_le shorter)

theorem MovesOn.bind {first : CursorDecoder Value} {next : Value → CursorDecoder Other} (movesOn : first.MovesOn)
    (nextNeverBack : ∀ value, (next value).NeverBack) : (first >>= next).MovesOn :=
  ⟨movesOn.neverBack.bind nextNeverBack, movesOn.advances.bind nextNeverBack⟩

/-! ## Cursors and buffers -/

/-- The cursor decoder reads what the decoder reads and fails where it fails. -/
structure Agrees (cursor : CursorDecoder Value) (decoder : Decoder Value) : Prop where
  ok : ∀ input value rest, decoder.run input = .ok (value, rest) → cursor.readAt input = (.ok value, rest)
  error : ∀ input failure, decoder.run input = .error failure → (cursor.readAt input).1 = .error failure

theorem agrees_pure (value : Value) : Agrees (pure value) (pure value) := by
  constructor
  · rintro input _ _ ⟨⟩
    rfl
  · rintro input _ ⟨⟩

theorem agrees_throw (failure : ReadError) : Agrees (throw failure : CursorDecoder Value) (throw failure) := by
  constructor
  · rintro input _ _ ⟨⟩
  · rintro input _ ⟨⟩
    rfl

theorem agrees_lift (outcome : Except ReadError Value) : Agrees (liftM outcome) (liftM outcome) := by
  cases outcome with
  | error failure => exact agrees_throw failure
  | ok value => exact agrees_pure value

theorem Agrees.bind {cursor : CursorDecoder Value} {decoder : Decoder Value} {next : Value → CursorDecoder Other}
    {following : Value → Decoder Other} (first : cursor.Agrees decoder)
    (later : ∀ value, (next value).Agrees (following value)) : (cursor >>= next).Agrees (decoder >>= following) := by
  constructor
  · intro input result after read
    obtain ⟨value, rest, firstRead, laterRead⟩ := Decoder.run_bind_eq_ok read
    rw [readAt_bind, first.ok input value rest firstRead]
    exact (later value).ok rest result after laterRead
  · intro input failure failed
    rw [readAt_bind]
    cases Decoder.run_bind_eq_error.mp failed with
    | inl firstFailed =>
      have reached := first.error input failure firstFailed
      generalize cursor.readAt input = read at reached
      obtain ⟨outcome, rest⟩ := read
      cases reached
      rfl
    | inr held =>
      obtain ⟨value, rest, firstRead, laterFailed⟩ := held
      rw [first.ok input value rest firstRead]
      exact (later value).error rest failure laterFailed

/-! ## Numbers and buffers -/

def readNat : CursorDecoder Nat := fun input => go input
where
  go : List UInt8 → Except ReadError Nat × List UInt8
    | [] => (.error .endOfBuffer, [])
    | head :: tail =>
      if head.toNat < 128 then (.ok head.toNat, tail)
      else
        match go tail with
        | (.ok high, rest) => (.ok (head.toNat - 128 + 128 * high), rest)
        | (.error failure, rest) => (.error failure, rest)

/-- Too few bytes are left where they are. -/
def readExact (count : Nat) : CursorDecoder (List UInt8) := fun input =>
  if input.length < count then (.error .endOfBuffer, input) else (.ok (input.take count), input.drop count)

def readBuf : CursorDecoder (List UInt8) := do
  let length ← readNat
  readExact length

theorem readNat_movesOn : readNat.MovesOn := by
  have go (input : List UInt8) : (readNat.go input).2 <:+ input ∧
      ((readNat.go input).1 = .error .endOfBuffer ∨ (readNat.go input).2.length < input.length) := by
    induction input with
    | nil => exact ⟨List.suffix_refl [], .inl rfl⟩
    | cons head tail inductionHypothesis =>
      rw [readNat.go]
      split
      · exact ⟨List.suffix_cons head tail, .inr (Nat.lt_succ_self _)⟩
      · obtain ⟨behind, shorter⟩ := inductionHypothesis
        generalize readNat.go tail = read at behind shorter
        obtain ⟨outcome, rest⟩ := read
        have further : rest <:+ head :: tail := behind.trans (List.suffix_cons head tail)
        cases outcome with
        | error failure => exact ⟨further, shorter.imp (fun ended => by cases ended; rfl) Nat.lt_succ_of_lt⟩
        | ok high =>
          exact ⟨further, shorter.elim (fun ended => by cases ended) fun less => .inr (Nat.lt_succ_of_lt less)⟩
  exact ⟨fun input => (go input).1, fun input => (go input).2⟩

theorem readAt_readExact (count : Nat) (input : List UInt8) :
    (readExact count).readAt input =
      if input.length < count then (.error .endOfBuffer, input) else (.ok (input.take count), input.drop count) := rfl

theorem readExact_neverBack (count : Nat) : (readExact count).NeverBack := by
  intro input
  rw [readAt_readExact]
  split
  · exact List.suffix_refl input
  · exact List.drop_suffix count input

theorem readBuf_movesOn : readBuf.MovesOn := readNat_movesOn.bind readExact_neverBack

theorem readNat_agrees : readNat.Agrees Wire.readNat := by
  have go (input : List UInt8) :
      (∀ value rest, Wire.readNat.go input = .ok (value, rest) → readNat.go input = (.ok value, rest)) ∧
        ∀ failure, Wire.readNat.go input = .error failure → (readNat.go input).1 = .error failure := by
    induction input with
    | nil => exact ⟨(fun _ _ read => by cases read), fun _ failed => by cases failed; rfl⟩
    | cons head tail inductionHypothesis =>
      rw [Wire.readNat.go, readNat.go]
      split
      · exact ⟨(fun _ _ read => by cases read; rfl), fun _ failed => by cases failed⟩
      · obtain ⟨reads, fails⟩ := inductionHypothesis
        cases read : Wire.readNat.go tail with
        | error failure =>
          have reached := fails failure read
          generalize readNat.go tail = cursor at reached
          obtain ⟨outcome, rest⟩ := cursor
          cases reached
          exact ⟨(fun _ _ other => by cases other), fun _ failed => by cases failed; rfl⟩
        | ok success =>
          obtain ⟨high, rest⟩ := success
          rw [reads high rest read]
          exact ⟨(fun _ _ done => by cases done; rfl), fun _ failed => by cases failed⟩
  exact ⟨fun input => (go input).1, fun input => (go input).2⟩

theorem readExact_agrees (count : Nat) : (readExact count).Agrees (Decoder.take count) := by
  have read (input : List UInt8) : (Decoder.take count).run input =
      if input.length < count then .error .endOfBuffer else .ok (input.take count, input.drop count) := rfl
  constructor
  · intro input value rest taken
    rw [read] at taken
    rw [readAt_readExact]
    split at taken
    · cases taken
    · next enough =>
      cases taken
      rw [if_neg enough]
  · intro input failure missing
    rw [read] at missing
    rw [readAt_readExact]
    split at missing
    · next short =>
      cases missing
      rw [if_pos short]
    · cases missing

theorem readBuf_agrees : readBuf.Agrees Wire.buf.read := readNat_agrees.bind readExact_agrees

end CursorDecoder

/-! ## Iterations -/

section Iteration

variable {Input Item : Type} {next : Input → Option Item × Input}

variable (next) in
/-- Iterating gives these items one after the other and then ends. -/
def Gives : Input → List Item → Prop
  | input, [] => (next input).1 = none
  | input, item :: items => (next input).1 = some item ∧ Gives (next input).2 items

/-- Where every item makes the rest smaller the iteration ends, after no more items than that. -/
theorem exists_gives (size : Input → Nat)
    (smaller : ∀ input item, (next input).1 = some item → size (next input).2 < size input) (input : Input) :
    ∃ items, items.length ≤ size input ∧ Gives next input items := by
  induction bound : size input using Nat.strongRecOn generalizing input with
  | ind bound inductionHypothesis =>
    cases given : (next input).1 with
    | none => exact ⟨[], Nat.zero_le _, given⟩
    | some item =>
      have less := smaller input item given
      obtain ⟨items, short, gives⟩ := inductionHypothesis (size (next input).2) (bound ▸ less) (next input).2 rfl
      refine ⟨item :: items, ?_, given, gives⟩
      rw [List.length_cons]
      omega

theorem Gives.unique {input : Input} {first second : List Item} (gives : Gives next input first)
    (again : Gives next input second) : first = second := by
  induction first generalizing input second with
  | nil =>
    cases second with
    | nil => rfl
    | cons item items => cases gives.symm.trans again.1
  | cons item items inductionHypothesis =>
    cases second with
    | nil => cases again.symm.trans gives.1
    | cons other others =>
      cases gives.1.symm.trans again.1
      rw [inductionHypothesis gives.2 again.2]

end Iteration

end FlowCloud.Foundation
