import Mathlib.Algebra.Group.Nat.Defs
import Mathlib.Data.List.Basic

/-! # Framed streams

A frame is its length in four bytes, the highest first, and that many bytes.  A stream of
frames arrives in chunks that may begin and end anywhere: the reader keeps what it cannot use
yet in a buffer and parses the frames that are complete.
-/

namespace FlowCloud.Foundation

/-! ## Lengths -/

def toBeBytes (value : UInt32) : List UInt8 :=
  [(value.toNat / 2 ^ 24).toUInt8, (value.toNat / 2 ^ 16).toUInt8, (value.toNat / 2 ^ 8).toUInt8, value.toNat.toUInt8]

def fromBeBytes (first second third last : UInt8) : UInt32 :=
  (first.toNat * 2 ^ 24 + second.toNat * 2 ^ 16 + third.toNat * 2 ^ 8 + last.toNat).toUInt32

theorem fromBeBytes_toBeBytes (value : UInt32) :
    fromBeBytes (value.toNat / 2 ^ 24).toUInt8 (value.toNat / 2 ^ 16).toUInt8 (value.toNat / 2 ^ 8).toUInt8
      value.toNat.toUInt8 = value := by
  have bound : value.toNat < 2 ^ 32 := value.toNat_lt
  rw [fromBeBytes, ← UInt32.toNat_inj]
  simp only [Nat.toUInt8, Nat.toUInt32, UInt8.toNat_ofNat', UInt32.toNat_ofNat']
  omega

/-! ## Frames -/

def frame (data : List UInt8) : List UInt8 := toBeBytes data.length.toUInt32 ++ data

/-- The first frame of a buffer, if it is complete, and the bytes behind it. -/
def splitFrame : List UInt8 → Option (List UInt8 × List UInt8)
  | first :: second :: third :: last :: behind =>
    let size := (fromBeBytes first second third last).toNat
    if behind.length < size then none else some (behind.take size, behind.drop size)
  | _ => none

theorem splitFrame_frame {data : List UInt8} (short : data.length < 2 ^ 32) (behind : List UInt8) :
    splitFrame (frame data ++ behind) = some (data, behind) := by
  have length : data.length.toUInt32.toNat = data.length := by
    rw [Nat.toUInt32, UInt32.toNat_ofNat', Nat.mod_eq_of_lt short]
  have size := (congrArg UInt32.toNat (fromBeBytes_toBeBytes data.length.toUInt32)).trans length
  have complete : ¬ (data ++ behind).length < data.length := by
    rw [List.length_append]
    exact Nat.not_lt.mpr (Nat.le_add_right _ _)
  rw [frame, toBeBytes]
  simp only [List.cons_append, List.nil_append, splitFrame, size, if_neg complete, List.take_left, List.drop_left]

theorem splitFrame_cases {buffer data behind : List UInt8} (split : splitFrame buffer = some (data, behind)) :
    ∃ first second third last rest, buffer = first :: second :: third :: last :: rest ∧
      (fromBeBytes first second third last).toNat ≤ rest.length ∧
      data = rest.take (fromBeBytes first second third last).toNat ∧
      behind = rest.drop (fromBeBytes first second third last).toNat := by
  unfold splitFrame at split
  split at split
  · rename_i first second third last rest
    simp only at split
    split at split
    · cases split
    · rename_i complete
      cases split
      exact ⟨first, second, third, last, rest, rfl, Nat.not_lt.mp complete, rfl, rfl⟩
  · cases split

theorem splitFrame_append {buffer data behind : List UInt8} (split : splitFrame buffer = some (data, behind))
    (more : List UInt8) : splitFrame (buffer ++ more) = some (data, behind ++ more) := by
  obtain ⟨first, second, third, last, rest, rfl, complete, rfl, rfl⟩ := splitFrame_cases split
  have longer : ¬ (rest ++ more).length < (fromBeBytes first second third last).toNat := by
    rw [List.length_append]
    exact Nat.not_lt.mpr (Nat.le_add_right_of_le complete)
  simp only [List.cons_append, splitFrame, if_neg longer, List.take_append_of_le_length complete,
    List.drop_append_of_le_length complete]

theorem splitFrame_shorter {buffer data behind : List UInt8} (split : splitFrame buffer = some (data, behind)) :
    behind.length < buffer.length := by
  obtain ⟨first, second, third, last, rest, rfl, _, rfl, rfl⟩ := splitFrame_cases split
  simp only [List.length_drop, List.length_cons]
  omega

/-- What does not reach the end of a frame is no frame. -/
theorem splitFrame_of_begun {data begun missing : List UInt8} (short : data.length < 2 ^ 32)
    (cut : begun ++ missing = frame data) (proper : missing ≠ []) : splitFrame begun = none := by
  cases split : splitFrame begun with
  | none => rfl
  | some found =>
    obtain ⟨other, behind⟩ := found
    have whole := splitFrame_frame short []
    rw [List.append_nil, ← cut, splitFrame_append split missing] at whole
    have nothing : behind ++ missing = [] := congrArg Prod.snd (Option.some.inj whole)
    exact absurd (List.append_eq_nil_iff.mp nothing).2 proper

/-! ## All the frames of a buffer -/

/-- The complete frames, and what is left behind them. -/
def splitFrames (buffer : List UInt8) : List (List UInt8) × List UInt8 :=
  match _split : splitFrame buffer with
  | none => ([], buffer)
  | some (data, behind) =>
    let later := splitFrames behind
    (data :: later.1, later.2)
termination_by buffer.length
decreasing_by exact splitFrame_shorter _split

theorem splitFrames_none {buffer : List UInt8} (split : splitFrame buffer = none) :
    splitFrames buffer = ([], buffer) := by
  rw [splitFrames]
  split
  · rfl
  · rename_i found
    rw [split] at found
    cases found

theorem splitFrames_some {buffer data behind : List UInt8} (split : splitFrame buffer = some (data, behind)) :
    splitFrames buffer = (data :: (splitFrames behind).1, (splitFrames behind).2) := by
  rw [splitFrames]
  split
  · rename_i found
    rw [split] at found
    cases found
  · rename_i found
    rw [split] at found
    cases found
    rfl

/-- The frames that were put together, and the begun one behind them. -/
theorem splitFrames_frames {frames : List (List UInt8)} (short : ∀ data ∈ frames, data.length < 2 ^ 32)
    {rest : List UInt8} (split : splitFrame rest = none) :
    splitFrames (frames.flatMap frame ++ rest) = (frames, rest) := by
  induction frames with
  | nil => exact splitFrames_none split
  | cons data frames inductionHypothesis =>
    rw [List.forall_mem_cons] at short
    rw [List.flatMap_cons, List.append_assoc, splitFrames_some (splitFrame_frame short.1 _),
      inductionHypothesis short.2]

/-! ## The reader -/

structure FrameReader (Value : Type) where
  values : List Value
  buffer : List UInt8
  deriving DecidableEq, Repr

namespace FrameReader

variable {Value Failure : Type} (parse : List UInt8 → Except Failure Value)

def empty : FrameReader Value := ⟨[], []⟩

/-- Parse frames as long as there is a complete one. -/
def takeFrames (self : FrameReader Value) : Except Failure (FrameReader Value) := go self.buffer.length self
where
  go : Nat → FrameReader Value → Except Failure (FrameReader Value)
    | 0, self => .ok self
    | fuel + 1, self =>
      match splitFrame self.buffer with
      | none => .ok self
      | some (data, behind) => do
        let value ← parse data
        go fuel ⟨self.values ++ [value], behind⟩

/-- The next chunk of the stream. -/
def feed (self : FrameReader Value) (chunk : List UInt8) : Except Failure (FrameReader Value) :=
  takeFrames parse { self with buffer := self.buffer ++ chunk }

def read (chunks : List (List UInt8)) : Except Failure (FrameReader Value) := chunks.foldlM (feed parse) empty

/-! ## The cuts do not matter -/

variable {parse}

theorem takeFrames_go_enough {fuel other : Nat} {self : FrameReader Value} (enough : self.buffer.length ≤ fuel)
    (otherEnough : self.buffer.length ≤ other) : takeFrames.go parse fuel self = takeFrames.go parse other self := by
  induction fuel generalizing other self with
  | zero =>
    have nothing : splitFrame self.buffer = none := by
      rw [List.length_eq_zero_iff.mp (Nat.le_zero.mp enough)]
      rfl
    cases other with
    | zero => rfl
    | succ other => rw [takeFrames.go, takeFrames.go, nothing]
  | succ fuel inductionHypothesis =>
    cases split : splitFrame self.buffer with
    | none =>
      cases other with
      | zero => rw [takeFrames.go, takeFrames.go, split]
      | succ other => rw [takeFrames.go, takeFrames.go, split]
    | some found =>
      obtain ⟨data, behind⟩ := found
      have shorter := splitFrame_shorter split
      cases other with
      | zero => exact absurd (Nat.lt_of_lt_of_le shorter otherEnough) (Nat.not_lt_zero _)
      | succ other =>
        rw [takeFrames.go, takeFrames.go, split]
        refine congrArg (parse data >>= ·) (funext fun value => inductionHypothesis ?_ ?_)
        · exact Nat.le_of_lt_succ (Nat.lt_of_lt_of_le shorter enough)
        · exact Nat.le_of_lt_succ (Nat.lt_of_lt_of_le shorter otherEnough)

theorem takeFrames_none (values : List Value) {buffer : List UInt8} (split : splitFrame buffer = none) :
    takeFrames parse ⟨values, buffer⟩ = .ok ⟨values, buffer⟩ := by
  rw [takeFrames]
  cases buffer.length with
  | zero => rfl
  | succ fuel => rw [takeFrames.go, split]

theorem takeFrames_some (values : List Value) {buffer data behind : List UInt8}
    (split : splitFrame buffer = some (data, behind)) :
    takeFrames parse ⟨values, buffer⟩ =
      parse data >>= fun value => takeFrames parse ⟨values ++ [value], behind⟩ := by
  have shorter := splitFrame_shorter split
  rw [takeFrames, takeFrames_go_enough (Nat.le_refl _) (Nat.le_succ _), takeFrames.go, split]
  exact congrArg (parse data >>= ·) (funext fun value => takeFrames_go_enough (Nat.le_of_lt shorter) (Nat.le_refl _))

/-- What comes later does not change which frames are taken now. -/
theorem takeFrames_append (values : List Value) (buffer more : List UInt8) :
    takeFrames parse ⟨values, buffer ++ more⟩ =
      takeFrames parse ⟨values, buffer⟩ >>= fun reader => reader.feed parse more := by
  -- by induction on what is in the buffer
  induction length : buffer.length using Nat.strongRecOn generalizing values buffer with
  | ind _ inductionHypothesis =>
    cases split : splitFrame buffer with
    | none =>
      rw [takeFrames_none values split]
      rfl
    | some found =>
      obtain ⟨data, behind⟩ := found
      have shorter : behind.length < _ := length ▸ splitFrame_shorter split
      rw [takeFrames_some values split, takeFrames_some values (splitFrame_append split more), bind_assoc]
      exact congrArg (parse data >>= ·) (funext fun value => inductionHypothesis _ shorter _ behind rfl)

theorem takeFrames_settled {values : List Value} {buffer : List UInt8} {settled : FrameReader Value}
    (taken : takeFrames parse ⟨values, buffer⟩ = .ok settled) : splitFrame settled.buffer = none := by
  induction length : buffer.length using Nat.strongRecOn generalizing values buffer with
  | ind _ inductionHypothesis =>
    cases split : splitFrame buffer with
    | none =>
      rw [takeFrames_none values split] at taken
      cases taken
      exact split
    | some found =>
      obtain ⟨data, behind⟩ := found
      have shorter : behind.length < _ := length ▸ splitFrame_shorter split
      rw [takeFrames_some values split] at taken
      cases parsed : parse data with
      | error failure =>
        rw [parsed] at taken
        cases taken
      | ok value =>
        rw [parsed] at taken
        exact inductionHypothesis _ shorter taken rfl

/-- However a stream is cut, it is read as if it had come in one piece. -/
theorem foldlM_feed {self : FrameReader Value} (settled : splitFrame self.buffer = none) (chunks : List (List UInt8)) :
    chunks.foldlM (feed parse) self = self.feed parse chunks.flatten := by
  induction chunks generalizing self with
  | nil =>
    rw [feed, List.flatten_nil, List.append_nil]
    exact (takeFrames_none self.values settled).symm
  | cons chunk chunks inductionHypothesis =>
    rw [List.foldlM_cons, List.flatten_cons, feed, feed, ← List.append_assoc,
      takeFrames_append self.values (self.buffer ++ chunk)]
    cases taken : takeFrames parse ⟨self.values, self.buffer ++ chunk⟩ with
    | error failure => rfl
    | ok reader => exact inductionHypothesis (takeFrames_settled taken)

theorem read_eq (chunks : List (List UInt8)) : read parse chunks = feed parse empty chunks.flatten :=
  foldlM_feed rfl chunks

/-! ## Whole frames -/

theorem takeFrames_frames {frames : List (List UInt8)} {parsed : List Value}
    (each : List.Forall₂ (fun data value => parse data = .ok value) frames parsed)
    (short : ∀ data ∈ frames, data.length < 2 ^ 32) (values : List Value) :
    takeFrames parse ⟨values, frames.flatMap frame⟩ = .ok ⟨values ++ parsed, []⟩ := by
  induction each generalizing values with
  | nil =>
    rw [List.append_nil]
    exact takeFrames_none values rfl
  | cons first _ inductionHypothesis =>
    rw [List.forall_mem_cons] at short
    rw [List.flatMap_cons, takeFrames_some values (splitFrame_frame short.1 _), first, List.append_cons]
    exact inductionHypothesis short.2 _

/-- A stream of frames is read frame by frame, wherever it is cut, and nothing is left. -/
theorem read_frames {frames chunks : List (List UInt8)} {values : List Value}
    (each : List.Forall₂ (fun data value => parse data = .ok value) frames values)
    (short : ∀ data ∈ frames, data.length < 2 ^ 32) (cut : chunks.flatten = frames.flatMap frame) :
    read parse chunks = .ok ⟨values, []⟩ := by
  rw [read_eq, cut, feed]
  exact takeFrames_frames each short []

end FrameReader

end FlowCloud.Foundation
