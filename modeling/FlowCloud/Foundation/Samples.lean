import FlowCloud.Foundation.Wire

/-! # Sampled encodings

An encoding known on some samples only.  Every other value is written by a wire format,
behind a mark that no sample starts with, so that decoding takes back every encoding.
-/

namespace FlowCloud.Foundation

structure Samples (Value : Type) where
  entries : List (List UInt8 × Value)
  mark : UInt8
  wire : Wire Value
  unmarked : ∀ entry ∈ entries, entry.1.head? ≠ some mark

namespace Samples

variable {Value : Type} [DecidableEq Value] (samples : Samples Value)

def decodeMarked : List UInt8 → Except ReadError Value
  | [] => .error .endOfBuffer
  | head :: tail =>
    if head = samples.mark then (samples.wire.read.run tail).map Prod.fst else .error .unexpectedValue

def decode (data : List UInt8) : Except ReadError Value :=
  match samples.entries.find? fun entry => entry.1 == data with
  | some entry => .ok entry.2
  | none => samples.decodeMarked data

def encode (value : Value) : List UInt8 :=
  match samples.entries.find? fun entry => samples.decode entry.1 = .ok value with
  | some entry => entry.1
  | none => samples.mark :: samples.wire.write value

theorem encode_ne_nil (nonempty : ∀ entry ∈ samples.entries, entry.1 ≠ []) (value : Value) :
    samples.encode value ≠ [] := by
  rw [encode]
  split
  · rename_i entry found
    exact nonempty entry (List.mem_of_find?_eq_some found)
  · exact List.cons_ne_nil _ _

@[simp] theorem decode_encode (value : Value) : samples.decode (samples.encode value) = .ok value := by
  rw [encode]
  split
  · rename_i entry found
    have same := List.find?_some found
    exact of_decide_eq_true same
  · -- the mark keeps the samples out
    have outside :
        samples.entries.find? (fun entry => entry.1 == samples.mark :: samples.wire.write value) = none := by
      rw [List.find?_eq_none]
      intro entry member same
      refine samples.unmarked entry member ?_
      rw [beq_iff_eq.mp same]
      rfl
    have taken := samples.wire.read_write value []
    rw [List.append_nil] at taken
    rw [decode, outside]
    simp [decodeMarked, taken, Except.map]

end Samples

end FlowCloud.Foundation
