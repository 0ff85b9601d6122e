import FlowCloud.Foundation.Runs
import FlowCloud.Stream.Model

/-! # Reading a stream step by step

`nextAfter` asks Redis for the entries after an id and returns one of them.  A reader that
passes on the id of the message it was last given should see every entry in turn, also while
entries keep arriving.  But the request sets no count, and of a longer reply the last message
is returned.
-/

namespace FlowCloud.Stream

open FlowCloud.Foundation FlowCloud.Entity

/-! ## Ids -/

instance : DecidableRel EntryId.lt := fun first second =>
  inferInstanceAs (Decidable (first.ms < second.ms ∨ first.ms = second.ms ∧ first.seq < second.seq))

theorem EntryId.lt_iff (first second : EntryId) :
    first.lt second ↔ first.ms.toNat < second.ms.toNat ∨
      first.ms.toNat = second.ms.toNat ∧ first.seq.toNat < second.seq.toNat := by
  rw [EntryId.lt, UInt64.lt_iff_toNat_lt, UInt64.lt_iff_toNat_lt, UInt64.toNat_inj]

theorem EntryId.lt_trans {first second third : EntryId} (before : first.lt second) (after : second.lt third) :
    first.lt third := by
  rw [lt_iff] at before after ⊢
  omega

theorem EntryId.lt_irrefl (id : EntryId) : ¬ id.lt id := by
  rw [lt_iff]
  omega

theorem EntryId.lt_asymm {first second : EntryId} (before : first.lt second) : ¬ second.lt first :=
  fun after => lt_irrefl first (lt_trans before after)

def MessageId.text (id : MessageId) : String :=
  String.ofList (Nat.toDigits 10 id.timestampMs.toNat ++ '-' :: Nat.toDigits 10 id.sequenceNumber.toNat)

def MessageId.entryId (id : MessageId) : EntryId := ⟨id.timestampMs, id.sequenceNumber.toNat.toUInt64⟩

/-- The id as Redis reads it, both of its numbers in 64 bits. -/
def EntryId.ofText (text : String) : Option EntryId :=
  match splitFirst '-' text.toList with
  | none => none
  | some (first, second) =>
    match parseUnsigned (2 ^ 64) first, parseUnsigned (2 ^ 64) second with
    | some ms, some seq => some ⟨ms.toUInt64, seq.toUInt64⟩
    | _, _ => none

theorem EntryId.ofText_text (id : MessageId) : EntryId.ofText id.text = some id.entryId := by
  have timestamp : id.timestampMs.toNat < 2 ^ 64 := id.timestampMs.toNat_lt
  have sequence : id.sequenceNumber.toNat < 2 ^ 64 := by
    have short := id.sequenceNumber.toNat_lt
    omega
  rw [EntryId.ofText, MessageId.text, String.toList_ofList, splitFirst_append (hyphen_notMem_toDigits _)]
  simp only [parseUnsigned_toDigits, if_pos timestamp, if_pos sequence]
  simp only [MessageId.entryId, Nat.toUInt64, UInt64.ofNat_toNat]

theorem Entry.entryId_streamMessage {entry : Entry} (short : entry.id.seq.toNat < 2 ^ 16) :
    entry.streamMessage.messageId.entryId = entry.id := by
  have kept : (UInt64.ofNat (entry.id.seq.toNat % 2 ^ 16)) = entry.id.seq := by
    rw [Nat.mod_eq_of_lt short, UInt64.ofNat_toNat]
  exact congrArg (EntryId.mk entry.id.ms) kept

/-! ## Reads -/

structure StreamReadOptions where
  group : Option (String × String) := none
  block : Option Nat := none
  count : Option Nat := none

/-- The entries after an id, in their order. -/
def entriesAfter (after : EntryId) (log : List Entry) : List Entry := log.filter fun entry => after.lt entry.id

/-- What a read is answered with: what is there when it asks or else, as it waits, what has come meanwhile. -/
def foundAfter (after : EntryId) (asked answered : List Entry) : List Entry :=
  if entriesAfter after asked = [] then entriesAfter after answered else entriesAfter after asked

/-- `$` is the id of the stream's last entry. -/
def readId (log : List Entry) (text : String) : Option EntryId :=
  if text = "$" then some ((log.getLast?.map Entry.id).getD ⟨0, 0⟩) else EntryId.ofText text

/-- The cases of `StreamError` that a read returns. -/
inductive StreamReadError where
  | redisError (error : RedisError)
  | unexpectedValue (message : String)
  deriving DecidableEq, Repr

/-- The first entry of the map, whose keys a `BTreeMap` holds in order. -/
def StreamMessageByStreamKey.first (map : StreamMessageByStreamKey) : Option (List StreamMessage) :=
  (map.keys.mergeSort fun first second => decide (first ≤ second)).head?.map map.messages

section
variable (lib : RedisLib) (debugAssertions : Bool) (streamKey : String)

/-- A read with options, of a stream that holds `asked` at first and `answered` when Redis replies. -/
def xreadOptions (asked answered : List Entry) (id : String) (options : StreamReadOptions) :
    Except RedisError StreamMessageByStreamKey :=
  match readId asked id with
  | none => .error ⟨"Invalid stream ID specified as stream command argument", ""⟩
  | some after =>
    let found := foundAfter after asked answered
    StreamMessageByStreamKey.fromRedisValue lib (reply streamKey ((options.count.map found.take).getD found))

def nextAfterOptions : StreamReadOptions := { group := some ("1", "2"), block := some 100 }

/-- `none` is a failed debug assertion. -/
def nextAfter (asked answered : List Entry) (after : Option MessageId) :
    Option (Except StreamReadError (Option StreamMessage)) :=
  let messageId := (after.map MessageId.text).getD "$"
  match xreadOptions lib streamKey asked answered messageId nextAfterOptions with
  | .error error => some (.error (.redisError error))
  | .ok map =>
    match map.first with
    | none => some (.error (.unexpectedValue "empty stream"))
    | some messages =>
      -- `pop` takes the last of the messages, however many there are
      if debugAssertions ∧ messages.length ≠ 1 then none else some (.ok messages.getLast?)

end

theorem keys_pushEntries (streamKey : String) (entries : List Entry) :
    (pushEntries ∅ streamKey entries).keys = if entries = [] then [] else [streamKey] := by
  have kept : ∀ (entries : List Entry) (map : StreamMessageByStreamKey), map.keys = [streamKey] →
      (pushEntries map streamKey entries).keys = [streamKey] := by
    intro entries
    induction entries with
    | nil => exact fun map only => only
    | cons entry rest ih =>
      intro map only
      apply ih
      simp only [StreamMessageByStreamKey.push, AList.keys_insert, only]
      simp
  cases entries with
  | nil => rfl
  | cons entry rest => exact kept rest _ rfl

theorem first_pushEntries (streamKey : String) (entries : List Entry) :
    (pushEntries ∅ streamKey entries).first =
      if entries = [] then none else some (entries.map Entry.streamMessage) := by
  rw [StreamMessageByStreamKey.first, keys_pushEntries]
  by_cases empty : entries = []
  · rw [if_pos empty, if_pos empty, List.mergeSort_nil]
    rfl
  · rw [if_neg empty, if_neg empty, List.mergeSort_singleton, List.head?_cons, Option.map_some,
      messages_pushEntries]
    rfl

theorem MessageId.text_ne_dollar (id : MessageId) : id.text ≠ "$" := by
  intro same
  have hyphen : '-' ∈ id.text.toList := by
    rw [text, String.toList_ofList]
    simp
  rw [same] at hyphen
  cases hyphen with
  | tail _ rest => cases rest

section
variable (lib : RedisLib) (debugAssertions : Bool) (streamKey : String) (asked answered : List Entry) (id : MessageId)

/-- The request sets no count. -/
theorem xreadOptions_text :
    xreadOptions lib streamKey asked answered id.text nextAfterOptions =
      StreamMessageByStreamKey.fromRedisValue lib (reply streamKey (foundAfter id.entryId asked answered)) := by
  have given : readId asked id.text = some id.entryId := by rw [readId, if_neg id.text_ne_dollar, EntryId.ofText_text]
  simp only [xreadOptions, given, nextAfterOptions, Option.map_none, Option.getD_none]

/-- The last of the entries found is returned, if all of their ids can be read. -/
theorem nextAfter_eq_ok (message : StreamMessage) :
    nextAfter lib debugAssertions streamKey asked answered (some id) = some (.ok (some message)) ↔
      let found := foundAfter id.entryId asked answered
      (∀ entry ∈ found, entry.id.seq.toNat < 2 ^ 16) ∧ (debugAssertions → found.length = 1) ∧
        ∃ last, found.getLast? = some last ∧ last.streamMessage = message := by
  simp only [nextAfter, Option.map_some, Option.getD_some, xreadOptions_text]
  generalize foundAfter id.entryId asked answered = found
  have decoded := fromRedisValue_reply_eq_ok streamKey lib found
  cases outcome : StreamMessageByStreamKey.fromRedisValue lib (reply streamKey found) with
  | error error =>
    -- one id that cannot be read fails the whole reply
    simp only [Option.some.injEq, reduceCtorEq, false_iff]
    intro read
    rw [(decoded _).mpr ⟨read.1, rfl⟩] at outcome
    cases outcome
  | ok map =>
    obtain ⟨short, rfl⟩ := (decoded map).mp outcome
    simp only [first_pushEntries]
    by_cases empty : found = []
    · simp [empty]
    · by_cases failed : debugAssertions = true ∧ found.length ≠ 1
      · simp [empty, failed]
      · have asserted : debugAssertions = true → found.length = 1 := by simpa using failed
        simp only [if_neg empty, List.length_map, if_neg failed, List.getLast?_map, Option.some.injEq,
          Except.ok.injEq, Option.map_eq_some_iff]
        exact ⟨fun last => ⟨short, asserted, last⟩, fun read => read.2.2⟩

end

/-! ## A reader -/

/-- An entry is added behind all others, or not at all. -/
def xadd (log : List Entry) (entry : Entry) : List Entry :=
  if ∀ held ∈ log, held.id.lt entry.id then log ++ [entry] else log

def xadds (log entries : List Entry) : List Entry := entries.foldl xadd log

/-- Who passes on the id of the message it was last given; at first it is the id it starts after. -/
structure Reader where
  log : List Entry
  after : MessageId
  returned : List StreamMessage

inductive ReaderEvent where
  | xadd (entry : Entry)
  | nextAfter (meanwhile : List Entry)

section
variable (lib : RedisLib) (debugAssertions : Bool) (streamKey : String)

def Reader.step (reader : Reader) : ReaderEvent → Reader
  | .xadd entry => { reader with log := xadd reader.log entry }
  | .nextAfter meanwhile =>
    let answered := xadds reader.log meanwhile
    match nextAfter lib debugAssertions streamKey reader.log answered (some reader.after) with
    | some (.ok (some message)) => ⟨answered, message.messageId, reader.returned ++ [message]⟩
    | _ => { reader with log := answered }

/-- After a call, one entry more has been returned of those after the start, if there is one more. -/
def ReturnsNext (start : MessageId) (reader : Reader) : ReaderEvent → Prop
  | .xadd _ => True
  | .nextAfter meanwhile =>
    List.Forall₂ StreamMessage.Shows (reader.step lib debugAssertions streamKey (.nextAfter meanwhile)).returned
      ((entriesAfter start.entryId (xadds reader.log meanwhile)).take (reader.returned.length + 1))

end

/-- A call finds at most one entry to return, and the number in its id fits in sixteen bits. -/
def OneUnread (reader : Reader) : ReaderEvent → Prop
  | .xadd _ => True
  | .nextAfter meanwhile =>
    let found := foundAfter reader.after.entryId reader.log (xadds reader.log meanwhile)
    found.length ≤ 1 ∧ ∀ entry ∈ found, entry.id.seq.toNat < 2 ^ 16

/-! ## What is left to read -/

def Ascending (log : List Entry) : Prop := log.Pairwise fun first second => first.id.lt second.id

theorem Ascending.xadd {log : List Entry} (ascending : Ascending log) (entry : Entry) : Ascending (xadd log entry) := by
  unfold Stream.xadd
  by_cases later : ∀ held ∈ log, held.id.lt entry.id
  · rw [if_pos later, Ascending, List.pairwise_append]
    refine ⟨ascending, List.pairwise_singleton _ _, ?_⟩
    intro held member other same
    rw [List.mem_singleton.mp same]
    exact later held member
  · rw [if_neg later]
    exact ascending

theorem Ascending.xadds {log : List Entry} (ascending : Ascending log) (entries : List Entry) :
    Ascending (xadds log entries) := by
  induction entries generalizing log with
  | nil => exact ascending
  | cons entry rest ih => exact ih (ascending.xadd entry)

theorem xadd_grows (log : List Entry) (entry : Entry) : log <+: xadd log entry := by
  unfold xadd
  split
  · exact List.prefix_append log [entry]
  · exact List.prefix_refl log

theorem xadds_grow (log entries : List Entry) : log <+: xadds log entries := by
  induction entries generalizing log with
  | nil => exact List.prefix_refl log
  | cons entry rest ih => exact (xadd_grows log entry).trans (ih _)

theorem entriesAfter_grows (after : EntryId) {log longer : List Entry} (grown : log <+: longer) :
    entriesAfter after log <+: entriesAfter after longer := grown.filter _

/-- Behind an entry of the log are those after its id. -/
theorem Ascending.entriesAfter_last {before after : List Entry} {last : Entry}
    (ascending : Ascending (before ++ last :: after)) : entriesAfter last.id (before ++ last :: after) = after := by
  obtain ⟨-, rest, across⟩ := List.pairwise_append.mp ascending
  obtain ⟨behind, -⟩ := List.pairwise_cons.mp rest
  have none : before.filter (fun entry => last.id.lt entry.id) = [] := by
    rw [List.filter_eq_nil_iff]
    intro entry member
    simpa using EntryId.lt_asymm (across entry member last List.mem_cons_self)
  have all : after.filter (fun entry => last.id.lt entry.id) = after := by
    rw [List.filter_eq_self]
    intro entry member
    simpa using behind entry member
  rw [entriesAfter, List.filter_append, none, List.filter_cons, all]
  simp [EntryId.lt_irrefl]

/-- After an id behind the start stand the same entries of the log and of those after the start. -/
theorem entriesAfter_after {start after : EntryId} (later : start.lt after) (log : List Entry) :
    entriesAfter after (entriesAfter start log) = entriesAfter after log := by
  rw [entriesAfter, entriesAfter, entriesAfter, List.filter_filter]
  apply List.filter_congr
  intro entry _
  by_cases behind : after.lt entry.id
  · simp [behind, EntryId.lt_trans later behind]
  · simp [behind]

/-- What was returned are the first entries after the start, and the id held is that of the last of them. -/
structure Synced (start : MessageId) (reader : Reader) : Prop where
  ascending : Ascending reader.log
  shown : List.Forall₂ StreamMessage.Shows reader.returned
    ((entriesAfter start.entryId reader.log).take reader.returned.length)
  position : reader.after.entryId =
    (((entriesAfter start.entryId reader.log).take reader.returned.length).getLast?.map Entry.id).getD start.entryId

section
variable {start : MessageId} {reader : Reader}

theorem Synced.count_le (synced : Synced start reader) :
    reader.returned.length ≤ (entriesAfter start.entryId reader.log).length := by
  have length := synced.shown.length_eq
  rw [List.length_take] at length
  omega

/-- Entries that are added do not change which were returned. -/
theorem Synced.grow (synced : Synced start reader) {longer : List Entry} (grown : reader.log <+: longer)
    (ascending : Ascending longer) : Synced start { reader with log := longer } := by
  have same : (entriesAfter start.entryId longer).take reader.returned.length =
      (entriesAfter start.entryId reader.log).take reader.returned.length := by
    obtain ⟨more, whole⟩ := entriesAfter_grows start.entryId grown
    rw [← whole, List.take_append_of_le_length synced.count_le]
  constructor
  · exact ascending
  · show List.Forall₂ StreamMessage.Shows reader.returned _
    rw [same]
    exact synced.shown
  · show reader.after.entryId = _
    rw [same]
    exact synced.position

theorem Synced.unread (synced : Synced start reader) :
    entriesAfter reader.after.entryId reader.log =
      (entriesAfter start.entryId reader.log).drop reader.returned.length := by
  have position := synced.position
  generalize known : entriesAfter start.entryId reader.log = entries at position ⊢
  have whole := List.take_append_drop reader.returned.length entries
  cases reached : (entries.take reader.returned.length).getLast? with
  | none =>
    -- nothing has been returned, and the id held is the one to start after
    rw [reached] at position
    rw [List.getLast?_eq_none_iff.mp reached, List.nil_append] at whole
    rw [whole, ← known, position]
    rfl
  | some last =>
    obtain ⟨before, split⟩ := List.getLast?_eq_some_iff.mp reached
    rw [reached] at position
    rw [split, List.append_assoc, List.singleton_append] at whole
    -- the id held is that of an entry behind the start, and the rest of the entries are behind it
    have later : start.entryId.lt last.id := by
      have member : last ∈ entriesAfter start.entryId reader.log := by
        rw [known, ← whole]
        simp
      simpa using (List.mem_filter.mp member).2
    have ascending : Ascending entries := by
      rw [← known]
      exact synced.ascending.sublist List.filter_sublist
    rw [← whole] at ascending
    rw [position, Option.map_some, Option.getD_some, ← entriesAfter_after later, known]
    conv_lhs => rw [← whole]
    exact ascending.entriesAfter_last

/-- What a call finds is the first part of what is left to read, and nothing only if nothing is left. -/
theorem Synced.found (synced : Synced start reader) {answered : List Entry} (grown : reader.log <+: answered)
    (ascending : Ascending answered) :
    let found := foundAfter reader.after.entryId reader.log answered
    let unread := (entriesAfter start.entryId answered).drop reader.returned.length
    found <+: unread ∧ (found = [] → unread = []) := by
  have later := (synced.grow grown ascending).unread
  have kept := entriesAfter_grows reader.after.entryId grown
  simp only [foundAfter, ← later]
  by_cases empty : entriesAfter reader.after.entryId reader.log = []
  · rw [if_pos empty]
    exact ⟨List.prefix_refl _, id⟩
  · rw [if_neg empty]
    exact ⟨kept, fun none => absurd none empty⟩

/-! ## What a call returns -/

variable {lib : RedisLib} {debugAssertions : Bool} {streamKey : String} {meanwhile : List Entry}

theorem Reader.step_ok {message : StreamMessage}
    (read : nextAfter lib debugAssertions streamKey reader.log (xadds reader.log meanwhile) (some reader.after) =
      some (.ok (some message))) :
    reader.step lib debugAssertions streamKey (.nextAfter meanwhile) =
      ⟨xadds reader.log meanwhile, message.messageId, reader.returned ++ [message]⟩ := by
  simp only [Reader.step, read]

theorem Reader.step_none
    (nothing : ∀ message, nextAfter lib debugAssertions streamKey reader.log (xadds reader.log meanwhile)
      (some reader.after) ≠ some (.ok (some message))) :
    reader.step lib debugAssertions streamKey (.nextAfter meanwhile) =
      { reader with log := xadds reader.log meanwhile } := by
  rw [Reader.step]
  split
  · rename_i message read
    exact absurd read (nothing message)
  · rfl

/-- Where nothing is returned though an entry is left to read, a call does not return the next one. -/
theorem not_returnsNext
    (nothing : ∀ message, nextAfter lib debugAssertions streamKey reader.log (xadds reader.log meanwhile)
      (some reader.after) ≠ some (.ok (some message)))
    (left : (entriesAfter start.entryId (xadds reader.log meanwhile)).drop reader.returned.length ≠ []) :
    ¬ ReturnsNext lib debugAssertions streamKey start reader (.nextAfter meanwhile) := by
  intro returned
  rw [ReturnsNext, Reader.step_none nothing] at returned
  have length := returned.length_eq
  have more := List.length_pos_of_ne_nil left
  rw [List.length_drop] at more
  rw [List.length_take] at length
  simp only at length
  omega

/-- The next entry is the one behind those returned. -/
theorem take_next {entries rest : List Entry} {next : Entry} {count : Nat} (left : entries.drop count = next :: rest) :
    entries.take (count + 1) = entries.take count ++ [next] := by
  have reached : entries[count]? = some next := by
    rw [← List.head?_drop, left]
    rfl
  rw [List.take_add_one, reached]
  rfl

/-- Where a message is returned, the call returns the next one exactly if that is the message's entry. -/
theorem Synced.returnsNext_ok (synced : Synced start reader) {last next : Entry} {rest : List Entry}
    (read : nextAfter lib debugAssertions streamKey reader.log (xadds reader.log meanwhile) (some reader.after) =
      some (.ok (some last.streamMessage)))
    (left : (entriesAfter start.entryId (xadds reader.log meanwhile)).drop reader.returned.length = next :: rest) :
    ReturnsNext lib debugAssertions streamKey start reader (.nextAfter meanwhile) ↔
      last.streamMessage.Shows next := by
  have answered := synced.grow (xadds_grow reader.log meanwhile) (synced.ascending.xadds meanwhile)
  rw [ReturnsNext, Reader.step_ok read, take_next left]
  constructor
  · intro returned
    have behind := List.forall₂_drop_append _ _ _ returned
    rw [← answered.shown.length_eq, List.drop_left] at behind
    cases behind with
    | cons shows _ => exact shows
  · intro shows
    exact List.rel_append answered.shown (.cons shows .nil)

theorem StreamMessage.Shows.entryId {message : StreamMessage} {entry : Entry} (shows : message.Shows entry) :
    message.messageId.entryId = entry.id := by
  have timestamp : message.messageId.timestampMs = entry.id.ms := UInt64.toNat_inj.mp shows.timestampMs
  have sequence : message.messageId.sequenceNumber.toNat.toUInt64 = entry.id.seq := by
    rw [shows.sequenceNumber, Nat.toUInt64, UInt64.ofNat_toNat]
  rw [MessageId.entryId, timestamp, sequence]

/-- The last of several entries is not the next one. -/
theorem last_not_shows {next last : Entry} {others : List Entry} (ascending : Ascending (next :: others))
    (among : last ∈ others) (short : last.id.seq.toNat < 2 ^ 16) : ¬ last.streamMessage.Shows next := by
  intro shows
  have same : last.id = next.id := by rw [← Entry.entryId_streamMessage short, shows.entryId]
  have later : next.id.lt last.id := (List.pairwise_cons.mp ascending).1 last among
  rw [same] at later
  exact EntryId.lt_irrefl _ later

/-- Where there is nothing left to read, a call returns nothing, and need not. -/
theorem Synced.returnsNext_nil (synced : Synced start reader)
    (known : foundAfter reader.after.entryId reader.log (xadds reader.log meanwhile) = []) :
    ReturnsNext lib debugAssertions streamKey start reader (.nextAfter meanwhile) := by
  have grown := xadds_grow reader.log meanwhile
  have ascending := synced.ascending.xadds meanwhile
  have nothing : ∀ message, nextAfter lib debugAssertions streamKey reader.log (xadds reader.log meanwhile)
      (some reader.after) ≠ some (.ok (some message)) := by
    intro message returned
    obtain ⟨-, -, last, none, -⟩ := (nextAfter_eq_ok _ _ _ _ _ _ message).mp returned
    rw [known] at none
    cases none
  have all := List.drop_eq_nil_iff.mp ((synced.found grown ascending).2 known)
  have shown := (synced.grow grown ascending).shown
  rw [List.take_of_length_le all] at shown
  rw [ReturnsNext, Reader.step_none nothing, List.take_of_length_le (Nat.le_succ_of_le all)]
  exact shown

/-- Where entries are found, a call returns the first of them exactly if it is the only one and its id can be read. -/
theorem Synced.returnsNext_cons (synced : Synced start reader) {next : Entry} {others : List Entry}
    (known : foundAfter reader.after.entryId reader.log (xadds reader.log meanwhile) = next :: others) :
    ReturnsNext lib debugAssertions streamKey start reader (.nextAfter meanwhile) ↔
      others = [] ∧ next.id.seq.toNat < 2 ^ 16 := by
  have ascending := synced.ascending.xadds meanwhile
  obtain ⟨⟨rest, unread⟩, -⟩ := synced.found (xadds_grow reader.log meanwhile) ascending
  have read := nextAfter_eq_ok lib debugAssertions streamKey reader.log (xadds reader.log meanwhile) reader.after
  rw [known] at unread read
  have left := unread.symm
  have sorted : Ascending (next :: others) := by
    have whole : Ascending (next :: others ++ rest) := by
      rw [unread]
      exact ascending.sublist ((List.drop_sublist _ _).trans List.filter_sublist)
    exact whole.sublist (List.sublist_append_left _ _)
  by_cases returned : ∃ message, nextAfter lib debugAssertions streamKey reader.log (xadds reader.log meanwhile)
      (some reader.after) = some (.ok (some message))
  · obtain ⟨message, returned⟩ := returned
    obtain ⟨short, -, last, ending, rfl⟩ := (read message).mp returned
    rw [synced.returnsNext_ok returned left]
    cases others with
    | nil =>
      obtain rfl : next = last := Option.some.inj ending
      have nextShort := short next List.mem_cons_self
      exact ⟨fun _ => ⟨rfl, nextShort⟩, fun _ => (shows_streamMessage_iff next).mpr nextShort⟩
    | cons other more =>
      -- the last entry is another one than the next
      have among : last ∈ other :: more := by
        rw [List.getLast?_cons_cons] at ending
        exact List.mem_of_getLast? ending
      apply iff_of_false (last_not_shows sorted among (short last (List.mem_cons_of_mem _ among)))
      exact fun only => List.cons_ne_nil _ _ only.1
  · -- an assertion fails or an id cannot be read: the next entry is left where it is
    have failed : ¬ ReturnsNext lib debugAssertions streamKey start reader (.nextAfter meanwhile) := by
      apply not_returnsNext (fun message ok => returned ⟨message, ok⟩)
      rw [left]
      exact List.cons_ne_nil _ _
    apply iff_of_false failed
    intro only
    obtain ⟨rfl, short⟩ := only
    exact returned ⟨_, (read _).mpr ⟨List.forall_mem_singleton.mpr short, fun _ => rfl, next, rfl, rfl⟩⟩

variable (lib debugAssertions streamKey)

/-- A call returns the next entry exactly if it finds no other and can read its id. -/
theorem Synced.returnsNext_iff (synced : Synced start reader) (event : ReaderEvent) :
    ReturnsNext lib debugAssertions streamKey start reader event ↔ OneUnread reader event := by
  cases event with
  | xadd entry => exact Iff.rfl
  | nextAfter meanwhile =>
    rw [OneUnread]
    cases known : foundAfter reader.after.entryId reader.log (xadds reader.log meanwhile) with
    | nil => exact iff_of_true (synced.returnsNext_nil known) ⟨Nat.zero_le 1, List.forall_mem_nil _⟩
    | cons next others =>
      rw [synced.returnsNext_cons known]
      constructor
      · intro only
        obtain ⟨rfl, short⟩ := only
        exact ⟨Nat.le_refl 1, List.forall_mem_singleton.mpr short⟩
      · intro one
        obtain rfl : others = [] := by simpa using one.1
        exact ⟨rfl, one.2 next List.mem_cons_self⟩

/-- A call that returns the next entry leaves the reader behind it. -/
theorem Synced.step_ok (synced : Synced start reader) {message : StreamMessage}
    (read : nextAfter lib debugAssertions streamKey reader.log (xadds reader.log meanwhile) (some reader.after) =
      some (.ok (some message)))
    (returns : ReturnsNext lib debugAssertions streamKey start reader (.nextAfter meanwhile)) :
    Synced start ⟨xadds reader.log meanwhile, message.messageId, reader.returned ++ [message]⟩ := by
  obtain ⟨-, -, last, -, rfl⟩ := (nextAfter_eq_ok _ _ _ _ _ _ message).mp read
  have returned := returns
  rw [ReturnsNext, Reader.step_ok read] at returned
  have length := returned.length_eq
  have count : (reader.returned ++ [last.streamMessage]).length = reader.returned.length + 1 := by simp
  cases left : (entriesAfter start.entryId (xadds reader.log meanwhile)).drop reader.returned.length with
  | nil =>
    -- one message more was returned than there were entries
    have all := List.drop_eq_nil_iff.mp left
    rw [count, List.length_take] at length
    omega
  | cons next rest =>
    have shows : last.streamMessage.Shows next := (synced.returnsNext_ok read left).mp returns
    constructor
    · exact synced.ascending.xadds meanwhile
    · show List.Forall₂ StreamMessage.Shows (reader.returned ++ [last.streamMessage]) _
      rw [count]
      exact returned
    · show last.streamMessage.messageId.entryId = _
      rw [count, take_next left, List.getLast?_concat]
      exact shows.entryId

theorem Synced.step (synced : Synced start reader) (event : ReaderEvent)
    (returns : ReturnsNext lib debugAssertions streamKey start reader event) :
    Synced start (reader.step lib debugAssertions streamKey event) := by
  cases event with
  | xadd entry => exact synced.grow (xadd_grows reader.log entry) (synced.ascending.xadd entry)
  | nextAfter meanwhile =>
    by_cases returned : ∃ message, nextAfter lib debugAssertions streamKey reader.log (xadds reader.log meanwhile)
        (some reader.after) = some (.ok (some message))
    · obtain ⟨message, read⟩ := returned
      rw [Reader.step_ok read]
      exact synced.step_ok lib debugAssertions streamKey read returns
    · rw [Reader.step_none fun message read => returned ⟨message, read⟩]
      exact synced.grow (xadds_grow reader.log meanwhile) (synced.ascending.xadds meanwhile)

/-- A reader that has been returned nothing yet. -/
def Reader.new (log : List Entry) (start : MessageId) : Reader := ⟨log, start, []⟩

theorem synced_new {log : List Entry} (ascending : Ascending log) (start : MessageId) :
    Synced start (.new log start) :=
  ⟨ascending, .nil, rfl⟩

/-- The calls of a run return each entry after the start once and in order exactly if none finds two. -/
theorem nextAfter_returns_next_iff (log : List Entry) (ascending : Ascending log) (start : MessageId)
    (events : List ReaderEvent) :
    Always (Reader.step lib debugAssertions streamKey) (ReturnsNext lib debugAssertions streamKey start)
        (.new log start) events ↔
      Always (Reader.step lib debugAssertions streamKey) OneUnread (.new log start) events := by
  have initial := synced_new ascending start
  constructor
  · intro returns
    apply returns.imp_of_invariant _ _ initial
    · exact fun reader event synced returned => synced.step lib debugAssertions streamKey event returned
    · intro reader event synced returned
      exact (synced.returnsNext_iff lib debugAssertions streamKey event).mp returned
  · intro one
    apply one.imp_of_invariant _ _ initial
    · intro reader event synced one
      exact synced.step lib debugAssertions streamKey event ((synced.returnsNext_iff _ _ _ event).mpr one)
    · intro reader event synced one
      exact (synced.returnsNext_iff lib debugAssertions streamKey event).mpr one

end

/-! ## Two messages and a reader -/

def firstEntry : Entry := ⟨⟨1631020452097, 0⟩, 7, [1]⟩

def secondEntry : Entry := ⟨⟨1631020452098, 0⟩, 7, [2]⟩

/-- The id before both of them. -/
def beforeBoth : MessageId := ⟨1631020452000, 0⟩

theorem nextAfter_returns_arriving :
    Always (Reader.step dataLib true "af_collab-w-o") (ReturnsNext dataLib true "af_collab-w-o" beforeBoth)
      (.new [] beforeBoth) [.xadd firstEntry, .nextAfter []] := by
  apply (nextAfter_returns_next_iff dataLib true "af_collab-w-o" [] List.Pairwise.nil beforeBoth _).mpr
  refine ⟨trivial, ⟨?_, ?_⟩, trivial⟩
  · decide
  · decide

/-- Where both messages are there to be read, the second one is returned, and the first one has been skipped. -/
theorem nextAfter_skips_first :
    let reader := Reader.new [firstEntry, secondEntry] beforeBoth
    (run (Reader.step dataLib false "af_collab-w-o") reader [.nextAfter []]).returned = [secondEntry.streamMessage] ∧
      ¬ Always (Reader.step dataLib false "af_collab-w-o") (ReturnsNext dataLib false "af_collab-w-o" beforeBoth)
        reader [.nextAfter []] := by
  intro reader
  constructor
  · have found : foundAfter reader.after.entryId reader.log (xadds reader.log []) = [firstEntry, secondEntry] := by
      decide
    have read : nextAfter dataLib false "af_collab-w-o" reader.log (xadds reader.log []) (some reader.after) =
        some (.ok (some secondEntry.streamMessage)) := by
      rw [nextAfter_eq_ok, found]
      exact ⟨by decide, by decide, secondEntry, rfl, rfl⟩
    rw [run_cons, run_nil, Reader.step_ok read]
    rfl
  · intro returns
    have ascending : Ascending [firstEntry, secondEntry] := by
      unfold Ascending
      decide
    have one := ((synced_new ascending beforeBoth).returnsNext_iff _ _ _ _).mp returns.1
    exact absurd one.1 (by decide)

end FlowCloud.Stream
