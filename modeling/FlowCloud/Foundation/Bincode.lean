import Mathlib.Algebra.Group.Int.Defs
import Mathlib.Algebra.Group.Nat.Defs
import FlowCloud.Foundation.Wire

/-! # Serialised forms

Values written with integers of a fixed width, the lowest byte first: a length stands in
front of texts, buffers and lists, a byte in front of options and four bytes in front of the
variants of an enumeration.  The fields of a structure follow each other.  Only numbers that
fit their widths can be written, and a count only if what is counted fits in memory.
-/

namespace FlowCloud.Foundation

/-! ## Numbers of a fixed width -/

/-- The lowest `count` bytes of a number, the lowest first. -/
def littleEndian : Nat → Nat → List UInt8
  | 0, _ => []
  | count + 1, value => (value % 256).toUInt8 :: littleEndian count (value / 256)

def ofLittleEndian : List UInt8 → Nat
  | [] => 0
  | head :: tail => head.toNat + 256 * ofLittleEndian tail

@[simp] theorem length_littleEndian (count value : Nat) : (littleEndian count value).length = count := by
  induction count generalizing value with
  | zero => rfl
  | succ count inductionHypothesis => rw [littleEndian, List.length_cons, inductionHypothesis]

theorem ofLittleEndian_littleEndian {count value : Nat} (fits : value < 256 ^ count) :
    ofLittleEndian (littleEndian count value) = value := by
  induction count generalizing value with
  | zero => simpa [littleEndian, ofLittleEndian, eq_comm] using fits
  | succ count inductionHypothesis =>
    have lowByte : (value % 256).toUInt8.toNat = value % 256 := Nat.mod_eq_of_lt (by omega)
    -- the rest of the number fits in one byte less
    have highFits : value / 256 < 256 ^ count := Nat.div_lt_of_lt_mul (by rwa [Nat.pow_succ, Nat.mul_comm] at fits)
    rw [littleEndian, ofLittleEndian, inductionHypothesis highFits, lowByte, Nat.mod_add_div]

theorem Decoder.take_append {count : Nat} {bytes : List UInt8} (length : bytes.length = count) (rest : List UInt8) :
    (Decoder.take count).run (bytes ++ rest) = .ok (bytes, rest) := by
  subst length
  show (if (bytes ++ rest).length < bytes.length then _ else _) = _
  rw [if_neg (by simp)]
  simp

/-! ## Serialised forms -/

structure Serde (Value : Type) where
  /-- The numbers of the value fit their widths. -/
  Valid : Value → Prop
  serialize : Value → List UInt8
  deserialize : Decoder Value
  deserialize_serialize : ∀ value rest, Valid value → (serialize value).length < 2 ^ 64 →
    deserialize.run (serialize value ++ rest) = .ok (value, rest)

namespace Serde

variable {Value Other : Type}

def uint (width : Nat) : Serde Nat where
  Valid value := value < 256 ^ width
  serialize := littleEndian width
  deserialize := do
    let bytes ← Decoder.take width
    return ofLittleEndian bytes
  deserialize_serialize := by
    intro value rest fits _
    rw [Decoder.run_bind_ok (Decoder.take_append (by simp) rest), ofLittleEndian_littleEndian fits]
    rfl

/-- The fields of a structure. -/
def record (serde : Serde Other) (fields : Value → Other) (build : Other → Value)
    (build_fields : ∀ value, build (fields value) = value) : Serde Value where
  Valid value := serde.Valid (fields value)
  serialize value := serde.serialize (fields value)
  deserialize := do
    let read ← serde.deserialize
    return build read
  deserialize_serialize := by
    intro value rest valid short
    rw [Decoder.run_bind_ok (serde.deserialize_serialize _ rest valid short), build_fields]
    rfl

/-- Of fewer values. -/
def restrict (serde : Serde Value) (Valid : Value → Prop) (valid : ∀ value, Valid value → serde.Valid value) :
    Serde Value where
  Valid := Valid
  serialize := serde.serialize
  deserialize := serde.deserialize
  deserialize_serialize := by
    intro value rest fits short
    exact serde.deserialize_serialize value rest (valid value fits) short

def u32 : Serde UInt32 :=
  ((uint 4).record UInt32.toNat Nat.toUInt32 (by simp)).restrict (fun _ => True)
    (fun value _ => value.toNat_lt)

/-- The two's complement of a signed number. -/
def i64 : Serde Int where
  Valid value := -2 ^ 63 ≤ value ∧ value < 2 ^ 63
  serialize value := littleEndian 8 (value % 2 ^ 64).toNat
  deserialize := do
    let read ← (uint 8).deserialize
    return if read < 2 ^ 63 then (read : Int) else read - 2 ^ 64
  deserialize_serialize := by
    intro value rest valid short
    have fits : (value % 2 ^ 64).toNat < 256 ^ 8 := by omega
    refine (Decoder.run_bind_ok ((uint 8).deserialize_serialize _ rest fits short)).trans ?_
    have same : (if (value % 2 ^ 64).toNat < 2 ^ 63 then ((value % 2 ^ 64).toNat : Int)
        else (value % 2 ^ 64).toNat - 2 ^ 64) = value := by
      split
      · omega
      · omega
    rw [same]
    rfl

def pair (first : Serde Value) (second : Serde Other) : Serde (Value × Other) where
  Valid value := first.Valid value.1 ∧ second.Valid value.2
  serialize value := first.serialize value.1 ++ second.serialize value.2
  deserialize := do
    let left ← first.deserialize
    let right ← second.deserialize
    return (left, right)
  deserialize_serialize := by
    intro value rest valid short
    rw [List.length_append] at short
    rw [List.append_assoc, Decoder.run_bind_ok (first.deserialize_serialize _ _ valid.1 (by omega)),
      Decoder.run_bind_ok (second.deserialize_serialize _ _ valid.2 (by omega))]
    rfl

def option (serde : Serde Value) : Serde (Option Value) where
  Valid value := ∀ inner ∈ value, serde.Valid inner
  serialize value := match value with
    | none => [0]
    | some inner => 1 :: serde.serialize inner
  deserialize := do
    let tag ← Decoder.byte
    if tag = 0 then return none
    if tag = 1 then
      let inner ← serde.deserialize
      return some inner
    throw .unexpectedValue
  deserialize_serialize := by
    intro value rest valid short
    cases value with
    | none => rfl
    | some inner =>
      have innerShort : (serde.serialize inner).length < 2 ^ 64 := Nat.lt_of_succ_lt short
      have byte : Decoder.byte.run (1 :: serde.serialize inner ++ rest) = .ok (1, serde.serialize inner ++ rest) := rfl
      rw [Decoder.run_bind_ok byte]
      show (serde.deserialize >>= _).run _ = _
      rw [Decoder.run_bind_ok (serde.deserialize_serialize inner rest (valid inner rfl) innerShort)]
      rfl

/-! ## Counted values -/

def bytes : Serde (List UInt8) where
  Valid _ := True
  serialize value := littleEndian 8 value.length ++ value
  deserialize := do
    let length ← (uint 8).deserialize
    Decoder.take length
  deserialize_serialize := by
    intro value rest _ short
    have fits : value.length < 256 ^ 8 := by simp at short; omega
    have count := (uint 8).deserialize_serialize value.length (value ++ rest) fits (by simp [uint])
    rw [List.append_assoc]
    exact (Decoder.run_bind_ok count).trans (Decoder.take_append rfl rest)

def string : Serde String where
  Valid _ := True
  serialize value := bytes.serialize (utf8 value)
  deserialize := do
    let read ← bytes.deserialize
    match ofUtf8 read with
    | some value => return value
    | none => throw .unexpectedValue
  deserialize_serialize := by
    intro value rest _ short
    rw [Decoder.run_bind_ok (bytes.deserialize_serialize _ rest trivial short), ofUtf8_utf8]
    rfl

theorem deserialize_replicate (serde : Serde Value) {values : List Value} (valid : ∀ value ∈ values, serde.Valid value)
    (short : (values.flatMap serde.serialize).length < 2 ^ 64) (rest : List UInt8) :
    (serde.deserialize.replicate values.length).run (values.flatMap serde.serialize ++ rest) = .ok (values, rest) := by
  induction values with
  | nil => rfl
  | cons head tail inductionHypothesis =>
    rw [List.forall_mem_cons] at valid
    simp only [List.flatMap_cons, List.length_append] at short
    rw [List.flatMap_cons, List.append_assoc]
    show (serde.deserialize >>= _).run _ = _
    rw [Decoder.run_bind_ok (serde.deserialize_serialize head _ valid.1 (by omega)),
      Decoder.run_bind_ok (inductionHypothesis valid.2 (by omega))]
    rfl

theorem length_le_flatMap (serde : Serde Value) (nonempty : ∀ value, 0 < (serde.serialize value).length)
    (values : List Value) : values.length ≤ (values.flatMap serde.serialize).length := by
  induction values with
  | nil => simp
  | cons head tail inductionHypothesis =>
    have first := nonempty head
    simp only [List.flatMap_cons, List.length_append, List.length_cons]
    omega

/-- What takes no byte could not be counted by its bytes. -/
def list (serde : Serde Value) (nonempty : ∀ value, 0 < (serde.serialize value).length) : Serde (List Value) where
  Valid values := ∀ value ∈ values, serde.Valid value
  serialize values := littleEndian 8 values.length ++ values.flatMap serde.serialize
  deserialize := do
    let count ← (uint 8).deserialize
    serde.deserialize.replicate count
  deserialize_serialize := by
    intro values rest valid short
    have counted := serde.length_le_flatMap nonempty values
    simp only [List.length_append, length_littleEndian] at short
    have fits : values.length < 256 ^ 8 := by omega
    have count := (uint 8).deserialize_serialize values.length (values.flatMap serde.serialize ++ rest) fits
      (by simp [uint])
    rw [List.append_assoc]
    exact (Decoder.run_bind_ok count).trans (serde.deserialize_replicate valid (by omega) rest)

/-! ## Enumerations -/

/-- A variant is its number and what it holds. -/
def enum (variant : Value → Nat) (payload : Value → List UInt8) (deserialize : Nat → Decoder Value)
    (Valid : Value → Prop) (variant_lt : ∀ value, variant value < 256 ^ 4)
    (payload_read : ∀ value rest, Valid value → (payload value).length < 2 ^ 64 →
      (deserialize (variant value)).run (payload value ++ rest) = .ok (value, rest)) : Serde Value where
  Valid := Valid
  serialize value := littleEndian 4 (variant value) ++ payload value
  deserialize := do
    let tag ← (uint 4).deserialize
    deserialize tag
  deserialize_serialize := by
    intro value rest valid short
    rw [List.length_append] at short
    have tag := (uint 4).deserialize_serialize (variant value) (payload value ++ rest) (variant_lt value)
      (by simp [uint])
    rw [List.append_assoc]
    exact (Decoder.run_bind_ok tag).trans (payload_read value rest valid (by omega))

theorem enum_nonempty (variant : Value → Nat) (payload : Value → List UInt8) (deserialize : Nat → Decoder Value)
    (Valid : Value → Prop) (variant_lt : ∀ value, variant value < 256 ^ 4)
    (payload_read : ∀ value rest, Valid value → (payload value).length < 2 ^ 64 →
      (deserialize (variant value)).run (payload value ++ rest) = .ok (value, rest)) (value : Value) :
    0 < ((enum variant payload deserialize Valid variant_lt payload_read).serialize value).length := by
  simp only [enum, List.length_append, length_littleEndian]
  omega

/-- A variant that holds one value. -/
def deserializeAs (serde : Serde Other) (build : Other → Value) : Decoder Value := do
  let held ← serde.deserialize
  return build held

theorem deserializeAs_serialize (serde : Serde Other) (build : Other → Value) {held : Other} (valid : serde.Valid held)
    (short : (serde.serialize held).length < 2 ^ 64) (rest : List UInt8) :
    (serde.deserializeAs build).run (serde.serialize held ++ rest) = .ok (build held, rest) := by
  rw [deserializeAs, Decoder.run_bind_ok (serde.deserialize_serialize held rest valid short)]
  rfl

/-! ## Whole messages -/

def sizeLimit : ReadError := .other "the size limit has been reached"

/-- With a limit on the number of bytes. -/
def serializeWithin (limit : Nat) (serde : Serde Value) (value : Value) : Except ReadError (List UInt8) :=
  if limit < (serde.serialize value).length then .error sizeLimit else .ok (serde.serialize value)

/-- Bytes behind the value are allowed. -/
def deserializeAll (serde : Serde Value) (data : List UInt8) : Except ReadError Value :=
  match serde.deserialize.run data with
  | .error failure => .error failure
  | .ok (value, _) => .ok value

/-- The limit is on the bytes that are read. -/
def deserializeWithin (limit : Nat) (serde : Serde Value) (data : List UInt8) : Except ReadError Value :=
  match serde.deserialize.run data with
  | .error failure => .error failure
  | .ok (value, rest) => if limit < data.length - rest.length then .error sizeLimit else .ok value

theorem serializeWithin_eq_ok {limit : Nat} {serde : Serde Value} {value : Value} {data : List UInt8} :
    serde.serializeWithin limit value = .ok data ↔ serde.serialize value = data ∧ data.length ≤ limit := by
  rw [serializeWithin]
  split
  · rename_i long
    constructor
    · intro written
      cases written
    · rintro ⟨rfl, short⟩
      omega
  · rename_i short
    constructor
    · intro written
      cases written
      exact ⟨rfl, by omega⟩
    · rintro ⟨rfl, _⟩
      rfl

theorem deserialize_whole {serde : Serde Value} {value : Value} (valid : serde.Valid value)
    (short : (serde.serialize value).length < 2 ^ 64) :
    serde.deserialize.run (serde.serialize value) = .ok (value, []) := by
  simpa using serde.deserialize_serialize value [] valid short

theorem deserializeAll_serialize {serde : Serde Value} {value : Value} (valid : serde.Valid value)
    (short : (serde.serialize value).length < 2 ^ 64) : serde.deserializeAll (serde.serialize value) = .ok value := by
  rw [deserializeAll, deserialize_whole valid short]

theorem deserializeWithin_serialize {limit : Nat} {serde : Serde Value} {value : Value} (valid : serde.Valid value)
    (short : (serde.serialize value).length < 2 ^ 64) (within : (serde.serialize value).length ≤ limit) :
    serde.deserializeWithin limit (serde.serialize value) = .ok value := by
  rw [deserializeWithin, deserialize_whole valid short]
  simp only [List.length_nil]
  rw [if_neg (by omega)]

end Serde

end FlowCloud.Foundation
