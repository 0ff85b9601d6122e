import FlowCloud.Foundation.Bincode
import FlowCloud.Protocol.Message

/-! # The library's encoding

A codec in the format the library documents: variable-length numbers, length-prefixed
buffers and texts, state vectors as counted pairs of client and clock, awareness updates as
counted triples of client, clock and state, and eight little-endian bytes for a time.
-/

namespace FlowCloud.Protocol

open FlowCloud.Foundation FlowCloud.Entity

namespace Lib0

def var : Wire UInt8 :=
  Wire.nat.convert UInt8.toNat
    (fun value => if value < 256 then .ok value.toUInt8 else .error (.other "the number is too large"))
    (by
      intro byte
      rw [if_pos byte.toNat_lt]
      simp)

def string : Wire String :=
  Wire.buf.convert (fun text => text.toByteArray.data.toList)
    (fun bytes =>
      match String.fromUTF8? ⟨bytes.toArray⟩ with
      | some text => .ok text
      | none => .error .unexpectedValue)
    (by
      intro text
      have read : String.fromUTF8? ⟨text.toByteArray.data.toList.toArray⟩ = some text := ofUtf8_utf8 text
      rw [read])

abbrev StateVector := List (Nat × Nat)

abbrev AwarenessUpdate := List (Nat × Nat × String)

def stateVector : Wire StateVector := (Wire.nat.pair Wire.nat).list

def awareness : Wire AwarenessUpdate := (Wire.nat.pair (Wire.nat.pair string)).list

/-- Decode a whole buffer; bytes behind the value are ignored. -/
def decodeBuffer {Value : Type} (wire : Wire Value) (buffer : Bytes) : Except ReadError Value :=
  match wire.read.run buffer with
  | .ok (value, _) => .ok value
  | .error failure => .error failure

theorem decodeBuffer_write {Value : Type} (wire : Wire Value) (value : Value) :
    decodeBuffer wire (wire.write value) = .ok value := by
  have written := wire.read_write value []
  rw [List.append_nil] at written
  rw [decodeBuffer, written]

def serialize (value : SyncMeta) : Bytes := littleEndian 8 value.lastSyncAt.toUInt64.toNat

def deserialize (bytes : Bytes) : Option SyncMeta :=
  if bytes.length < 8 then none else some ⟨(UInt64.ofNat (ofLittleEndian (bytes.take 8))).toInt64⟩

theorem deserialize_serialize (value : SyncMeta) : deserialize (serialize value) = some value := by
  have fits : value.lastSyncAt.toUInt64.toNat < 256 ^ 8 := value.lastSyncAt.toUInt64.toNat_lt
  have whole : (serialize value).take 8 = serialize value := List.take_of_length_le (by simp [serialize])
  rw [deserialize, if_neg (by simp [serialize]), whole, serialize, ofLittleEndian_littleEndian fits,
    UInt64.ofNat_toNat, Int64.toInt64_toUInt64]

end Lib0

def lib0 : Codec Lib0.StateVector Lib0.AwarenessUpdate where
  var := Lib0.var
  buf := Wire.buf
  string := Lib0.string
  encodeStateVector := Lib0.stateVector.write
  decodeStateVector := Lib0.decodeBuffer Lib0.stateVector
  encodeAwareness := Lib0.awareness.write
  decodeAwareness := Lib0.decodeBuffer Lib0.awareness
  serialize := Lib0.serialize
  deserialize := Lib0.deserialize
  var_shorter := by
    intro input value rest read
    obtain ⟨number, after, numberRead, converted⟩ := Decoder.run_bind_eq_ok read
    exact Nat.lt_of_le_of_lt (Decoder.shrinks_lift _ after value rest converted) (Wire.readNat_go_shorter numberRead)
  var_nil := rfl
  stateVector_decode := Lib0.decodeBuffer_write Lib0.stateVector
  awareness_decode := Lib0.decodeBuffer_write Lib0.awareness
  meta_deserialize := Lib0.deserialize_serialize

end FlowCloud.Protocol
