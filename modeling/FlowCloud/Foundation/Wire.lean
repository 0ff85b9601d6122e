import Mathlib.Data.List.Basic

/-! # Wire formats

A wire format writes values as bytes and reads them back from the front of a buffer.  The
two laws every format carries are that reading undoes writing and leaves the bytes behind
it alone, and that reading never hands back more bytes than it was given.  Formats compose:
pairs, counted lists and length-prefixed buffers of formats are formats.
-/

namespace FlowCloud.Foundation

inductive ReadError where
  /-- The buffer ends inside a value. -/
  | endOfBuffer
  | unexpectedValue
  | other (message : String)
  deriving DecidableEq, Repr

/-- Where each step goes on with a smaller state, any fuel beyond the size of the state gives one result. -/
theorem enough_fuel {State Result : Type} {compute : Nat → State → Result} {size : State → Nat}
    (unfolds : ∀ fuel other state, (∀ next, size next < size state → compute fuel next = compute other next) →
      compute (fuel + 1) state = compute (other + 1) state)
    {fuel other : Nat} {state : State} (enough : size state < fuel) (otherEnough : size state < other) :
    compute fuel state = compute other state := by
  induction fuel generalizing other state with
  | zero => exact absurd enough (Nat.not_lt_zero _)
  | succ fuel inductionHypothesis =>
    cases other with
    | zero => exact absurd otherEnough (Nat.not_lt_zero _)
    | succ other =>
      apply unfolds
      intro next smaller
      exact inductionHypothesis (by omega) (by omega)

/-- A decoder takes bytes from the front of a buffer. -/
abbrev Decoder (Value : Type) := StateT (List UInt8) (Except ReadError) Value

namespace Decoder

variable {Value Other : Type}

theorem run_bind_ok {first : Decoder Value} {next : Value → Decoder Other} {input rest : List UInt8} {value : Value}
    (read : first.run input = .ok (value, rest)) : (first >>= next).run input = (next value).run rest := by
  rw [StateT.run_bind, read]
  rfl

theorem run_bind_error {first : Decoder Value} {next : Value → Decoder Other} {input : List UInt8}
    {failure : ReadError}
    (read : first.run input = .error failure) : (first >>= next).run input = .error failure := by
  rw [StateT.run_bind, read]
  rfl

theorem run_bind_eq_ok {first : Decoder Value} {next : Value → Decoder Other} {input rest : List UInt8}
    {result : Other}
    (read : (first >>= next).run input = .ok (result, rest)) :
    ∃ value middle, first.run input = .ok (value, middle) ∧ (next value).run middle = .ok (result, rest) := by
  cases firstRead : first.run input with
  | error failure =>
    rw [run_bind_error firstRead] at read
    cases read
  | ok success =>
    obtain ⟨value, middle⟩ := success
    rw [run_bind_ok firstRead] at read
    exact ⟨value, middle, rfl, read⟩

/-- A sequence fails where its first part does, or behind it. -/
theorem run_bind_eq_error {first : Decoder Value} {next : Value → Decoder Other} {input : List UInt8}
    {failure : ReadError} :
    (first >>= next).run input = .error failure ↔ first.run input = .error failure ∨
      ∃ value middle, first.run input = .ok (value, middle) ∧ (next value).run middle = .error failure := by
  cases firstRead : first.run input with
  | error other =>
    rw [run_bind_error firstRead]
    simp
  | ok success =>
    obtain ⟨value, middle⟩ := success
    rw [run_bind_ok firstRead]
    simp

/-- Wrapping the value adds no failure. -/
theorem run_map_eq_error {decoder : Decoder Value} {wrap : Value → Other} {input : List UInt8} {failure : ReadError} :
    (do let value ← decoder; return wrap value : Decoder Other).run input = .error failure ↔
      decoder.run input = .error failure := by
  rw [run_bind_eq_error]
  refine or_iff_left ?_
  rintro ⟨_, _, _, ⟨⟩⟩

/-- A buffer whose value is decoded by itself. -/
theorem run_lift_eq_error {Result : Type} {decoder : Decoder Value} {decode : Value → Except ReadError Other}
    {wrap : Other → Result} {input : List UInt8} {failure : ReadError} :
    (do let value ← decoder; let other ← liftM (decode value); return wrap other : Decoder Result).run input =
        .error failure ↔
      decoder.run input = .error failure ∨
        ∃ value rest, decoder.run input = .ok (value, rest) ∧ decode value = .error failure := by
  rw [run_bind_eq_error]
  refine or_congr_right (exists₂_congr fun value rest => and_congr_right fun _ => ?_)
  rw [run_map_eq_error]
  cases decode value with
  | error other =>
    show (Except.error other : Except ReadError _) = _ ↔ _
    simp
  | ok other =>
    refine iff_of_false ?_ (by simp)
    rintro ⟨⟩

def Shrinks (decoder : Decoder Value) : Prop :=
  ∀ input value rest, decoder.run input = .ok (value, rest) → rest.length ≤ input.length

theorem shrinks_pure (value : Value) : Shrinks (pure value) := by
  intro input result rest read
  cases read
  exact Nat.le_refl _

theorem shrinks_throw (failure : ReadError) : Shrinks (throw failure : Decoder Value) := by
  intro input result rest read
  cases read

theorem Shrinks.bind {first : Decoder Value} {next : Value → Decoder Other} (firstShrinks : Shrinks first)
    (nextShrinks : ∀ value, Shrinks (next value)) : Shrinks (first >>= next) := by
  intro input result rest read
  obtain ⟨value, middle, firstRead, nextRead⟩ := run_bind_eq_ok read
  exact Nat.le_trans (nextShrinks value middle result rest nextRead) (firstShrinks input value middle firstRead)

/-- A decoder of a whole buffer used inside another one consumes nothing of it. -/
theorem shrinks_lift (outcome : Except ReadError Value) : Shrinks (liftM outcome) := by
  intro input result rest read
  cases outcome with
  | error failure => cases read
  | ok value =>
    cases read
    exact Nat.le_refl _

def byte : Decoder UInt8 := fun input =>
  match input with
  | [] => .error .endOfBuffer
  | head :: rest => .ok (head, rest)

def take (count : Nat) : Decoder (List UInt8) := fun input =>
  if input.length < count then .error .endOfBuffer else .ok (input.take count, input.drop count)

def replicate (decoder : Decoder Value) : Nat → Decoder (List Value)
  | 0 => return []
  | count + 1 => do
    let head ← decoder
    let tail ← replicate decoder count
    return head :: tail

end Decoder

structure Wire (Value : Type) where
  write : Value → List UInt8
  read : Decoder Value
  read_write : ∀ value rest, read.run (write value ++ rest) = .ok (value, rest)
  shrinks : read.Shrinks

namespace Wire

variable {Value Other : Type}

def pair (first : Wire Value) (second : Wire Other) : Wire (Value × Other) where
  write value := first.write value.1 ++ second.write value.2
  read := do
    let left ← first.read
    let right ← second.read
    return (left, right)
  read_write := by
    intro value rest
    rw [List.append_assoc, Decoder.run_bind_ok (first.read_write _ _), Decoder.run_bind_ok (second.read_write _ _)]
    rfl
  shrinks := first.shrinks.bind fun _ => second.shrinks.bind fun _ => Decoder.shrinks_pure _

theorem replicate_write (wire : Wire Value) (values : List Value) (rest : List UInt8) :
    (wire.read.replicate values.length).run (values.flatMap wire.write ++ rest) = .ok (values, rest) := by
  induction values with
  | nil => rfl
  | cons head tail inductionHypothesis =>
    rw [List.flatMap_cons, List.append_assoc]
    change (wire.read >>= _).run _ = _
    rw [Decoder.run_bind_ok (wire.read_write _ _), Decoder.run_bind_ok inductionHypothesis]
    rfl

theorem shrinks_replicate (wire : Wire Value) : ∀ count, (wire.read.replicate count).Shrinks
  | 0 => Decoder.shrinks_pure _
  | count + 1 => wire.shrinks.bind fun _ => (shrinks_replicate wire count).bind fun _ => Decoder.shrinks_pure _

/-! ## Variable-length numbers -/

/-- Seven bits a byte, the lowest first, the high bit set on every byte but the last. -/
def writeNat (value : Nat) : List UInt8 := go value value
where
  go : Nat → Nat → List UInt8
    | 0, value => [value.toUInt8]
    | fuel + 1, value =>
      if value < 128 then [value.toUInt8] else (value % 128 + 128).toUInt8 :: go fuel (value / 128)

def readNat : Decoder Nat := fun input => go input
where
  go : List UInt8 → Except ReadError (Nat × List UInt8)
    | [] => .error .endOfBuffer
    | head :: tail =>
      if head.toNat < 128 then .ok (head.toNat, tail)
      else
        match go tail with
        | .ok (high, rest) => .ok (head.toNat - 128 + 128 * high, rest)
        | .error failure => .error failure

theorem readNat_go_last {head : UInt8} (last : head.toNat < 128) (rest : List UInt8) :
    readNat.go (head :: rest) = .ok (head.toNat, rest) := by
  rw [readNat.go, if_pos last]

theorem readNat_go_continued {head : UInt8} {tail rest : List UInt8} {high : Nat} (continued : 128 ≤ head.toNat)
    (tailRead : readNat.go tail = .ok (high, rest)) :
    readNat.go (head :: tail) = .ok (head.toNat - 128 + 128 * high, rest) := by
  rw [readNat.go, if_neg (Nat.not_lt.mpr continued), tailRead]

theorem readNat_writeNat_go {fuel value : Nat} (enough : value ≤ fuel) (rest : List UInt8) :
    readNat.go (writeNat.go fuel value ++ rest) = .ok (value, rest) := by
  induction fuel generalizing value with
  | zero =>
    obtain rfl : value = 0 := Nat.le_zero.mp enough
    rfl
  | succ fuel inductionHypothesis =>
    rw [writeNat.go]
    split
    · have same : value.toUInt8.toNat = value := Nat.mod_eq_of_lt (by omega)
      rw [List.singleton_append, readNat_go_last (by omega), same]
    · have same : (value % 128 + 128).toUInt8.toNat = value % 128 + 128 := Nat.mod_eq_of_lt (by omega)
      -- the bytes after the first are the number without its lowest seven bits
      have high : readNat.go (writeNat.go fuel (value / 128) ++ rest) = .ok (value / 128, rest) :=
        inductionHypothesis (by omega)
      rw [List.cons_append, readNat_go_continued (by omega) high, same]
      have parts : value % 128 + 128 - 128 + 128 * (value / 128) = value := by omega
      rw [parts]

theorem readNat_writeNat (value : Nat) (rest : List UInt8) :
    readNat.run (writeNat value ++ rest) = .ok (value, rest) :=
  readNat_writeNat_go (Nat.le_refl value) rest

theorem readNat_go_shorter : ∀ {input rest : List UInt8} {value : Nat},
    readNat.go input = .ok (value, rest) → rest.length < input.length
  | [], _, _, read => by cases read
  | head :: tail, rest, value, read => by
    rw [readNat.go] at read
    split at read
    · cases read
      simp
    · split at read
      · rename_i high after tailRead
        cases read
        exact Nat.lt_succ_of_lt (readNat_go_shorter tailRead)
      · cases read

def nat : Wire Nat where
  write := writeNat
  read := readNat
  read_write := readNat_writeNat
  shrinks := fun _ _ _ read => Nat.le_of_lt (readNat_go_shorter read)

/-! ## Counted and length-prefixed values -/

def list (wire : Wire Value) : Wire (List Value) where
  write values := writeNat values.length ++ values.flatMap wire.write
  read := do
    let count ← readNat
    wire.read.replicate count
  read_write := by
    intro values rest
    rw [List.append_assoc, Decoder.run_bind_ok (readNat_writeNat _ _)]
    exact replicate_write wire values rest
  shrinks := nat.shrinks.bind (shrinks_replicate wire)

def buf : Wire (List UInt8) where
  write bytes := writeNat bytes.length ++ bytes
  read := do
    let length ← readNat
    Decoder.take length
  read_write := by
    intro bytes rest
    rw [List.append_assoc, Decoder.run_bind_ok (readNat_writeNat _ _)]
    change (if (bytes ++ rest).length < bytes.length then _ else _) = _
    rw [if_neg (by simp)]
    simp
  shrinks := by
    refine nat.shrinks.bind fun length input bytes rest read => ?_
    change (if input.length < length then _ else _) = _ at read
    split at read
    · cases read
    · cases read
      simp

/-- A value whose bytes are an encoded other value. -/
def convert (wire : Wire Value) (encode : Other → Value) (decode : Value → Except ReadError Other)
    (decode_encode : ∀ other, decode (encode other) = .ok other) : Wire Other where
  write other := wire.write (encode other)
  read := do
    let value ← wire.read
    liftM (decode value)
  read_write := by
    intro other rest
    rw [Decoder.run_bind_ok (wire.read_write _ _), decode_encode]
    rfl
  shrinks := wire.shrinks.bind fun value => Decoder.shrinks_lift (decode value)

end Wire

/-! ## Cut values -/

namespace Wire

variable {Value : Type}

/-- A value that is not there as a whole ends the buffer. -/
def Cuts (wire : Wire Value) : Prop :=
  ∀ value before after, wire.write value = before ++ after → after ≠ [] → wire.read.run before = .error .endOfBuffer

/-- Of two parts the first one is cut, or it is there and the second one is cut. -/
theorem append_cut {first second before after : List UInt8} (parts : first ++ second = before ++ after) :
    (∃ missing, missing ≠ [] ∧ first = before ++ missing) ∨ ∃ part, before = first ++ part ∧ second = part ++ after := by
  cases List.append_eq_append_iff.mp parts with
  | inl held =>
    obtain ⟨part, whole, behind⟩ := held
    exact .inr ⟨part, whole, behind⟩
  | inr held =>
    obtain ⟨missing, cut, behind⟩ := held
    by_cases nothing : missing = []
    · subst nothing
      exact .inr ⟨[], by simpa using cut.symm, by simpa using behind.symm⟩
    · exact .inl ⟨missing, nothing, cut⟩

theorem readNat_go_cut {fuel value : Nat} {before after : List UInt8} (parts : writeNat.go fuel value = before ++ after)
    (cut : after ≠ []) : readNat.go before = .error .endOfBuffer := by
  -- the last byte is the only one without the high bit
  have last (byte : UInt8) {before : List UInt8} (parts : [byte] = before ++ after) :
      readNat.go before = .error .endOfBuffer := by
    cases before with
    | nil => rfl
    | cons head tail =>
      rw [List.cons_append, List.cons.injEq, eq_comm, List.nil_eq, List.append_eq_nil_iff] at parts
      exact absurd parts.2.2 cut
  induction fuel generalizing value before with
  | zero => exact last _ parts
  | succ fuel inductionHypothesis =>
    rw [writeNat.go] at parts
    split at parts
    · exact last _ parts
    · cases before with
      | nil => rfl
      | cons head tail =>
        rw [List.cons_append, List.cons.injEq] at parts
        have continued : ¬ head.toNat < 128 := by
          have same : (value % 128 + 128).toUInt8.toNat = value % 128 + 128 := Nat.mod_eq_of_lt (by omega)
          rw [← parts.1, same]
          omega
        rw [readNat.go, if_neg continued, inductionHypothesis parts.2]

theorem nat_cuts : nat.Cuts := fun _ _ _ parts cut => readNat_go_cut parts cut

theorem buf_cuts : buf.Cuts := by
  intro bytes before after parts cut
  cases append_cut parts with
  | inl held =>
    obtain ⟨missing, nonempty, inLength⟩ := held
    exact Decoder.run_bind_error (readNat_go_cut inLength nonempty)
  | inr held =>
    obtain ⟨part, rfl, content⟩ := held
    show (readNat >>= Decoder.take).run _ = _
    rw [Decoder.run_bind_ok (readNat_writeNat _ _)]
    have short : part.length < bytes.length := by
      have lengths := congrArg List.length content
      have some := List.length_pos_iff.mpr cut
      rw [List.length_append] at lengths
      omega
    exact if_pos short

end Wire

/-! ## Texts -/

def utf8 (text : String) : List UInt8 := text.toByteArray.data.toList

def ofUtf8 (bytes : List UInt8) : Option String := String.fromUTF8? ⟨bytes.toArray⟩

theorem ofUtf8_utf8 (text : String) : ofUtf8 (utf8 text) = some text := by
  have whole : (⟨text.toByteArray.data.toList.toArray⟩ : ByteArray) = text.toByteArray := by
    rw [Array.toArray_toList]
  rw [ofUtf8, utf8, whole, String.fromUTF8?, dif_pos text.isValidUTF8]
  rfl

end FlowCloud.Foundation
