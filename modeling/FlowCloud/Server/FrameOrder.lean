import FlowCloud.Entity.Serde
import FlowCloud.Foundation.Runs

/-! # The frames of a connection

Each binary frame is handled by a future of its own: it is decoded on another thread, put in
the server's mailbox, with retries while that is full, and its messages are forwarded object
by object to the runners of the groups.  The mailbox keeps its order, the futures do not.
-/

namespace FlowCloud.Server

open FlowCloud.Foundation FlowCloud.Entity

/-- Where `send_binary_to_server` is with a frame. -/
inductive SendBinary where
  | decoding (bytes : Bytes)
  | sending (attempts : Nat) (message : RealtimeMessage)
  /-- Until the delay is over. -/
  | sleeping (attempts : Nat) (message : RealtimeMessage)
  | sent
  | failed

def SendBinary.isOpen : SendBinary → Bool
  | decoding _ | sending _ _ | sleeping _ _ => true
  | sent | failed => false

def maxMessagesPerInterval : Nat := 10

/-- In milliseconds. -/
def rateLimitInterval : Nat := 1000

def maxRetries : Nat := 3

/-- One connection and what is on its way to the group runners.  A frame is known by its number. -/
structure RealtimeClient where
  messageCount : Nat
  intervalStart : Nat
  futures : List SendBinary
  /-- The frames of the connection in the mailbox of the server. -/
  mailbox : List (Nat × RealtimeMessage)
  /-- What the handler of a frame has still to forward. -/
  handling : Nat → List (String × List ClientCollabMessage)
  /-- What the runner of an object has been sent. -/
  received : String → List (Nat × List ClientCollabMessage)

inductive FrameEvent where
  /-- A websocket message at a time, with its bytes if it is a binary one. -/
  | handle (now : Nat) (binary : Option Bytes)
  | decoded (id : Nat)
  /-- `try_send`, which fails when the mailbox is full. -/
  | trySend (id : Nat) (accepted : Bool)
  | wake (id : Nat)
  /-- The server begins to handle the next message in its mailbox. -/
  | take
  /-- The handler sends an object's messages to the runner, if there still is one. -/
  | forward (id : Nat) (objectId : String) (running : Bool)

namespace RealtimeClient

def new (now : Nat) : RealtimeClient := ⟨0, now, [], [], fun _ => [], fun _ => []⟩

variable (lib : CollabSerde) (self : RealtimeClient)

def handle (now : Nat) (binary : Option Bytes) : RealtimeClient :=
  let elapsed := now - self.intervalStart > rateLimitInterval
  let messageCount := (if elapsed then 0 else self.messageCount) + 1
  let intervalStart := if elapsed then now else self.intervalStart
  let futures := if messageCount > maxMessagesPerInterval then self.futures
    else self.futures ++ (binary.map .decoding).toList
  { self with messageCount, intervalStart, futures }

def decoded (id : Nat) : RealtimeClient :=
  match self.futures[id]? with
  | some (.decoding bytes) =>
    match RealtimeMessage.decode lib bytes with
    | .ok message => { self with futures := self.futures.set id (.sending 0 message) }
    | .error _ => { self with futures := self.futures.set id .failed }
  | _ => self

def trySend (id : Nat) (accepted : Bool) : RealtimeClient :=
  match self.futures[id]? with
  | some (.sending attempts message) =>
    if accepted then { self with futures := self.futures.set id .sent, mailbox := self.mailbox ++ [(id, message)] }
    else if attempts < maxRetries - 1 then
      { self with futures := self.futures.set id (.sleeping (attempts + 1) message) }
    else { self with futures := self.futures.set id .failed }
  | _ => self

def wake (id : Nat) : RealtimeClient :=
  match self.futures[id]? with
  | some (.sleeping attempts message) => { self with futures := self.futures.set id (.sending attempts message) }
  | _ => self

/-- What the handler of a message goes through. -/
def messagesByObject (message : RealtimeMessage) : List (String × List ClientCollabMessage) :=
  match message.tryIntoMessageByObjectId with
  | .ok map => map.pairs
  | .error _ => []

def take : RealtimeClient :=
  match self.mailbox with
  | [] => self
  | (id, message) :: mailbox =>
    { self with mailbox, handling := Function.update self.handling id (messagesByObject message) }

def forward (id : Nat) (objectId : String) (running : Bool) : RealtimeClient :=
  match (self.handling id).lookup objectId with
  | none => self
  | some messages =>
    { self with
      handling := Function.update self.handling id ((self.handling id).filter fun entry => entry.1 ≠ objectId)
      received :=
        if running then Function.update self.received objectId (self.received objectId ++ [(id, messages)])
        else self.received }

def step : FrameEvent → RealtimeClient
  | .handle now binary => self.handle now binary
  | .decoded id => self.decoded lib id
  | .trySend id accepted => self.trySend id accepted
  | .wake id => self.wake id
  | .take => self.take
  | .forward id objectId running => self.forward id objectId running

/-! ## The order of the frames -/

/-- The runners are sent the messages of each object in the order of the frames. -/
def InOrder : Prop := ∀ objectId, (self.received objectId).Pairwise fun first second => first.1 < second.1

def IsOpen (id : Nat) : Prop := ∃ future ∈ self.futures[id]?, future.isOpen = true

instance (id : Nat) : Decidable (self.IsOpen id) :=
  decidable_of_iff (self.futures[id]?.any SendBinary.isOpen = true) (by
    rw [IsOpen]
    cases self.futures[id]? with
    | none => simp
    | some future => simp)

/-- The frame's handler has still to forward messages of the object. -/
def Owes (id : Nat) (objectId : String) : Prop := ∃ messages, (objectId, messages) ∈ self.handling id

instance (id : Nat) (objectId : String) : Decidable (self.Owes id objectId) :=
  decidable_of_iff (objectId ∈ (self.handling id).map Prod.fst) (by simp [Owes])

/-- A frame enters the mailbox when no earlier one is on its way there, and messages are forwarded
    when no earlier frame's handler has still to forward messages of the object. -/
def InTurn : FrameEvent → Prop
  | .trySend id true => ∀ earlier < id, ¬ self.IsOpen earlier
  | .forward id objectId _ => ∀ earlier < id, ¬ self.Owes earlier objectId
  | _ => True

instance : DecidablePred self.InTurn
  | .trySend _ true | .forward _ _ _ => inferInstanceAs (Decidable (∀ _ < _, _))
  | .trySend _ false | .handle _ _ | .decoded _ | .wake _ | .take => .isTrue trivial

def Queued (id : Nat) : Prop := ∃ message, (id, message) ∈ self.mailbox

/-- The server has taken the frame from its mailbox. -/
def Taken (id : Nat) : Prop := self.handling id ≠ [] ∨ ∃ objectId messages, (id, messages) ∈ self.received objectId

/-- The frames that were taken come before those in the mailbox, and these before the ones that are
    on their way there. -/
structure Ordered (client : RealtimeClient) : Prop where
  mailbox : client.mailbox.Pairwise fun first second => first.1 < second.1
  known : ∀ id, client.Queued id ∨ client.Taken id → id < client.futures.length
  queued : ∀ id other, client.Queued id → client.IsOpen other → id < other
  taken : ∀ id other, client.Taken id → client.Queued other ∨ client.IsOpen other → id < other
  owed : ∀ objectId id messages, (id, messages) ∈ client.received objectId →
    ∀ other, client.Owes other objectId → id < other
  inOrder : client.InOrder

/-! ## What an event does -/

inductive Moves : FrameEvent → RealtimeClient → Prop where
  | counts (event : FrameEvent) (messageCount intervalStart : Nat) :
      Moves event { self with messageCount, intervalStart }
  | receives (event : FrameEvent) (messageCount intervalStart : Nat) (bytes : Bytes) :
      Moves event { self with messageCount, intervalStart, futures := self.futures ++ [.decoding bytes] }
  | proceeds (event : FrameEvent) {id : Nat} (isOpen : self.IsOpen id) (future : SendBinary) :
      Moves event { self with futures := self.futures.set id future }
  | enters {id : Nat} (isOpen : self.IsOpen id) (message : RealtimeMessage) :
      Moves (.trySend id true)
        { self with futures := self.futures.set id .sent, mailbox := self.mailbox ++ [(id, message)] }
  | takes {id : Nat} {message : RealtimeMessage} {mailbox : List (Nat × RealtimeMessage)}
      (first : self.mailbox = (id, message) :: mailbox) :
      Moves .take { self with mailbox, handling := Function.update self.handling id (messagesByObject message) }
  | drops {id : Nat} {objectId : String} (running : Bool) {messages : List ClientCollabMessage}
      (owes : (objectId, messages) ∈ self.handling id) :
      Moves (.forward id objectId running)
        { self with
          handling := Function.update self.handling id ((self.handling id).filter fun entry => entry.1 ≠ objectId) }
  | forwards {id : Nat} {objectId : String} (running : Bool) {messages : List ClientCollabMessage}
      (owes : (objectId, messages) ∈ self.handling id) :
      Moves (.forward id objectId running)
        { self with
          handling := Function.update self.handling id ((self.handling id).filter fun entry => entry.1 ≠ objectId)
          received := Function.update self.received objectId (self.received objectId ++ [(id, messages)]) }

variable {self}

theorem isOpen_of_future {id : Nat} {future : SendBinary} (turn : self.futures[id]? = some future)
    (isOpen : future.isOpen = true) : self.IsOpen id :=
  ⟨future, turn, isOpen⟩

theorem moves (lib : CollabSerde) (self : RealtimeClient) (event : FrameEvent) :
    self.Moves event (self.step lib event) := by
  have stays : ∀ event, self.Moves event self := fun event => .counts event self.messageCount self.intervalStart
  cases event with
  | handle now binary =>
    rw [step, handle]
    by_cases limited : (if now - self.intervalStart > rateLimitInterval then 0 else self.messageCount) + 1 >
        maxMessagesPerInterval
    · simp only [if_pos limited]
      exact .counts _ _ _
    · simp only [if_neg limited]
      cases binary with
      | none => simpa using Moves.counts _ _ _
      | some bytes => exact .receives _ _ _ bytes
  | decoded id =>
    rw [step, decoded]
    split
    · rename_i bytes turn
      split
      · exact .proceeds _ (isOpen_of_future turn rfl) _
      · exact .proceeds _ (isOpen_of_future turn rfl) _
    · exact stays _
  | trySend id accepted =>
    rw [step, trySend]
    split
    · rename_i attempts message turn
      have isOpen := isOpen_of_future turn rfl
      cases accepted with
      | true => exact .enters isOpen message
      | false =>
        simp only [Bool.false_eq_true, if_false]
        split
        · exact .proceeds _ isOpen _
        · exact .proceeds _ isOpen _
    · exact stays _
  | wake id =>
    rw [step, wake]
    split
    · rename_i attempts message turn
      exact .proceeds _ (isOpen_of_future turn rfl) _
    · exact stays _
  | take =>
    rw [step, take]
    split
    · exact stays _
    · rename_i id message mailbox first
      exact .takes first
  | forward id objectId running =>
    rw [step, forward]
    split
    · exact stays _
    · rename_i messages found
      obtain ⟨before, after, entries, _⟩ := List.lookup_eq_some_iff.mp found
      have owes : (objectId, messages) ∈ self.handling id := by simp [entries]
      cases running with
      | true => exact .forwards true owes
      | false => exact .drops false owes

/-! ## The order is kept -/

theorem ordered_new (now : Nat) : (new now).Ordered where
  mailbox := List.Pairwise.nil
  known := by simp [Queued, Taken, new]
  queued := by simp [Queued, new]
  taken := by simp [Taken, new]
  owed := by simp [new]
  inOrder _ := List.Pairwise.nil

theorem isOpen_set {id other : Nat} {future : SendBinary} (isOpen : self.IsOpen id)
    (later : ({ self with futures := self.futures.set id future } : RealtimeClient).IsOpen other) :
    self.IsOpen other := by
  by_cases same : id = other
  · rwa [← same]
  · obtain ⟨found, turn, held⟩ := later
    exact ⟨found, by simpa [List.getElem?_set_ne same] using turn, held⟩

theorem lt_length_of_isOpen {id : Nat} (isOpen : self.IsOpen id) : id < self.futures.length := by
  obtain ⟨future, turn, _⟩ := isOpen
  exact (List.getElem?_eq_some_iff.mp turn).1

theorem isOpen_append {other : Nat} {future : SendBinary} {mc is : Nat}
    (later : ({ self with messageCount := mc, intervalStart := is, futures := self.futures ++ [future] } :
      RealtimeClient).IsOpen other) : self.IsOpen other ∨ other = self.futures.length := by
  obtain ⟨found, turn, held⟩ := later
  have bound := (List.getElem?_eq_some_iff.mp turn).1
  simp only [List.length_append, List.length_singleton] at bound
  by_cases last : other = self.futures.length
  · exact .inr last
  · have earlier : other < self.futures.length := by omega
    exact .inl ⟨found, by simpa [List.getElem?_append_left earlier] using turn, held⟩

theorem Ordered.receives (ordered : self.Ordered) (messageCount intervalStart : Nat) (bytes : Bytes) :
    ({ self with messageCount, intervalStart, futures := self.futures ++ [.decoding bytes] } :
      RealtimeClient).Ordered where
  mailbox := ordered.mailbox
  known id placed := by
    have bound : id < self.futures.length := ordered.known id placed
    simp only [List.length_append, List.length_singleton]
    omega
  queued id other queued isOpen := by
    cases isOpen_append isOpen with
    | inl earlier => exact ordered.queued id other queued earlier
    | inr same =>
      obtain rfl := same
      exact ordered.known id (.inl queued)
  taken id other taken placed := by
    cases placed with
    | inl queued => exact ordered.taken id other taken (.inl queued)
    | inr isOpen =>
      cases isOpen_append isOpen with
      | inl earlier => exact ordered.taken id other taken (.inr earlier)
      | inr same =>
        obtain rfl := same
        exact ordered.known id (.inr taken)
  owed := ordered.owed
  inOrder := ordered.inOrder

theorem Ordered.proceeds (ordered : self.Ordered) {id : Nat} (isOpen : self.IsOpen id) (future : SendBinary) :
    ({ self with futures := self.futures.set id future } : RealtimeClient).Ordered where
  mailbox := ordered.mailbox
  known other placed := by
    rw [List.length_set]
    exact ordered.known other placed
  queued other later queued open' := ordered.queued other later queued (isOpen_set isOpen open')
  taken other later taken placed :=
    ordered.taken other later taken (placed.imp (fun queued => queued) (isOpen_set isOpen))
  owed := ordered.owed
  inOrder := ordered.inOrder

theorem Ordered.enters (ordered : self.Ordered) {id : Nat} (isOpen : self.IsOpen id)
    (first : ∀ earlier < id, ¬ self.IsOpen earlier) (message : RealtimeMessage) :
    ({ self with futures := self.futures.set id .sent, mailbox := self.mailbox ++ [(id, message)] } :
      RealtimeClient).Ordered := by
  have bound := lt_length_of_isOpen isOpen
  have queuedLater : ∀ {other}, (∃ message', (other, message') ∈ self.mailbox ++ [(id, message)]) →
      self.Queued other ∨ other = id := by
    rintro other ⟨message', member⟩
    cases List.mem_append.mp member with
    | inl earlier => exact .inl ⟨message', earlier⟩
    | inr last => exact .inr (Prod.mk.inj (List.mem_singleton.mp last)).1
  have openLater : ∀ {other}, ({ self with futures := self.futures.set id .sent } : RealtimeClient).IsOpen other →
      self.IsOpen other ∧ id < other := by
    intro other later
    have before := isOpen_set isOpen later
    refine ⟨before, ?_⟩
    by_contra notAfter
    -- the frame itself is not on its way any more
    have same : other = id := Nat.le_antisymm (Nat.not_lt.mp notAfter)
      (Nat.not_lt.mp fun earlier => first other earlier before)
    subst same
    obtain ⟨found, turn, held⟩ := later
    simp only [List.getElem?_set_self bound, Option.mem_def, Option.some.injEq] at turn
    subst turn
    cases held
  constructor
  · rw [List.pairwise_append]
    refine ⟨ordered.mailbox, List.pairwise_singleton _ _, ?_⟩
    rintro ⟨other, message'⟩ member entry last
    rw [List.mem_singleton.mp last]
    exact ordered.queued other id ⟨message', member⟩ isOpen
  · intro other placed
    rw [List.length_set]
    cases placed with
    | inl queued =>
      cases queuedLater queued with
      | inl earlier => exact ordered.known other (.inl earlier)
      | inr equal =>
        obtain rfl := equal
        exact bound
    | inr taken => exact ordered.known other (.inr taken)
  · intro other later queued open'
    obtain ⟨before, after⟩ := openLater open'
    cases queuedLater queued with
    | inl earlier => exact ordered.queued other later earlier before
    | inr equal =>
      obtain rfl := equal
      exact after
  · intro other later taken placed
    cases placed with
    | inl queued =>
      cases queuedLater queued with
      | inl earlier => exact ordered.taken other later taken (.inl earlier)
      | inr equal =>
        obtain rfl := equal
        exact ordered.taken other later taken (.inr isOpen)
    | inr open' => exact ordered.taken other later taken (.inr (openLater open').1)
  · exact ordered.owed
  · exact ordered.inOrder

theorem Ordered.takes (ordered : self.Ordered) {id : Nat} {message : RealtimeMessage}
    {mailbox : List (Nat × RealtimeMessage)} (first : self.mailbox = (id, message) :: mailbox) :
    ({ self with mailbox, handling := Function.update self.handling id (messagesByObject message) } :
      RealtimeClient).Ordered := by
  have sorted := ordered.mailbox
  rw [first, List.pairwise_cons] at sorted
  have queued : self.Queued id := ⟨message, by simp [first]⟩
  have queuedBefore : ∀ {other}, (∃ message', (other, message') ∈ mailbox) → self.Queued other ∧ id < other := by
    rintro other ⟨message', member⟩
    exact ⟨⟨message', by simp [first, member]⟩, sorted.1 _ member⟩
  have takenLater : ∀ {other}, ({ self with
      handling := Function.update self.handling id (messagesByObject message) } : RealtimeClient).Taken other →
      self.Taken other ∨ other = id := by
    intro other taken
    by_cases same : other = id
    · exact .inr same
    · simp only [Taken, Function.update_of_ne same] at taken
      exact .inl taken
  constructor
  · exact sorted.2
  · intro other placed
    cases placed with
    | inl later => exact ordered.known other (.inl (queuedBefore later).1)
    | inr taken =>
      cases takenLater taken with
      | inl before => exact ordered.known other (.inr before)
      | inr equal =>
        obtain rfl := equal
        exact ordered.known other (.inl queued)
  · intro other later queuedOther isOpen
    exact ordered.queued other later (queuedBefore queuedOther).1 isOpen
  · intro other later taken placed
    cases takenLater taken with
    | inl before =>
      have placedBefore := placed.imp (fun queuedOther => (queuedBefore queuedOther).1) fun isOpen => isOpen
      exact ordered.taken other later before placedBefore
    | inr equal =>
      obtain rfl := equal
      cases placed with
      | inl queuedOther => exact (queuedBefore queuedOther).2
      | inr isOpen => exact ordered.queued other later queued isOpen
  · intro objectId other messages member later owes
    by_cases same : later = id
    · subst same
      exact ordered.taken other later (.inr ⟨objectId, messages, member⟩) (.inl queued)
    · simp only [Owes, Function.update_of_ne same] at owes
      exact ordered.owed objectId other messages member later owes
  · exact ordered.inOrder

theorem taken_of_mem {id : Nat} {objectId : String} {messages : List ClientCollabMessage}
    (owes : (objectId, messages) ∈ self.handling id) : self.Taken id :=
  .inl (List.ne_nil_of_mem owes)

theorem owes_filter {id other : Nat} {objectId otherObject : String}
    (owes : ∃ messages, (otherObject, messages) ∈ Function.update self.handling id
      ((self.handling id).filter fun entry => entry.1 ≠ objectId) other) :
    self.Owes other otherObject ∧ (other = id → otherObject ≠ objectId) := by
  obtain ⟨messages, member⟩ := owes
  by_cases same : other = id
  · subst same
    rw [Function.update_self, List.mem_filter, decide_eq_true_eq] at member
    exact ⟨⟨messages, member.1⟩, fun _ => member.2⟩
  · rw [Function.update_of_ne same] at member
    exact ⟨⟨messages, member⟩, fun equal => absurd equal same⟩

theorem Ordered.drops (ordered : self.Ordered) (id : Nat) (objectId : String) :
    ({ self with
        handling := Function.update self.handling id ((self.handling id).filter fun entry => entry.1 ≠ objectId) } :
      RealtimeClient).Ordered := by
  have takenBefore : ∀ {other}, ({ self with
      handling := Function.update self.handling id ((self.handling id).filter fun entry => entry.1 ≠ objectId) } :
        RealtimeClient).Taken other → self.Taken other := by
    rintro other (busy | received)
    · obtain ⟨entry, member⟩ := List.exists_mem_of_ne_nil _ busy
      obtain ⟨messages, owes⟩ := (owes_filter ⟨entry.2, member⟩).1
      exact taken_of_mem owes
    · exact .inr received
  exact
    { mailbox := ordered.mailbox
      known := fun other placed => ordered.known other (placed.imp (fun queued => queued) takenBefore)
      queued := ordered.queued
      taken := fun other later taken => ordered.taken other later (takenBefore taken)
      owed := fun otherObject other messages member later owes =>
        ordered.owed otherObject other messages member later (owes_filter owes).1
      inOrder := ordered.inOrder }

theorem mem_received {id other : Nat} {objectId otherObject : String} {messages otherMessages : List ClientCollabMessage}
    (member : (other, otherMessages) ∈
      Function.update self.received objectId (self.received objectId ++ [(id, messages)]) otherObject) :
    (other, otherMessages) ∈ self.received otherObject ∨ otherObject = objectId ∧ other = id := by
  by_cases same : otherObject = objectId
  · subst same
    rw [Function.update_self, List.mem_append] at member
    exact member.imp_right fun last => ⟨rfl, (Prod.mk.inj (List.mem_singleton.mp last)).1⟩
  · rw [Function.update_of_ne same] at member
    exact .inl member

/-- The runner is sent the messages of a frame that comes after all it was sent before, and before
    everything it will be sent. -/
theorem Ordered.sends (ordered : self.Ordered) {id : Nat} {objectId : String} (messages : List ClientCollabMessage)
    (known : id < self.futures.length) (placed : ∀ other, self.Queued other ∨ self.IsOpen other → id < other)
    (owed : ∀ other, self.Owes other objectId → id < other)
    (last : ∀ entry ∈ self.received objectId, entry.1 < id) :
    ({ self with received := Function.update self.received objectId (self.received objectId ++ [(id, messages)]) } :
      RealtimeClient).Ordered := by
  have takenBefore : ∀ {other}, ({ self with
      received := Function.update self.received objectId (self.received objectId ++ [(id, messages)]) } :
        RealtimeClient).Taken other → self.Taken other ∨ other = id := by
    rintro other (busy | ⟨otherObject, otherMessages, member⟩)
    · exact .inl (.inl busy)
    · cases mem_received member with
      | inl before => exact .inl (.inr ⟨otherObject, otherMessages, before⟩)
      | inr held =>
        obtain ⟨-, same⟩ := held
        exact .inr same
  constructor
  · exact ordered.mailbox
  · intro other found
    cases found with
    | inl queued => exact ordered.known other (.inl queued)
    | inr taken =>
      cases takenBefore taken with
      | inl before => exact ordered.known other (.inr before)
      | inr equal =>
        obtain rfl := equal
        exact known
  · exact ordered.queued
  · intro other later taken onTheWay
    cases takenBefore taken with
    | inl before => exact ordered.taken other later before onTheWay
    | inr equal =>
      obtain rfl := equal
      exact placed later onTheWay
  · intro otherObject other otherMessages member later owes
    cases mem_received member with
    | inl before => exact ordered.owed otherObject other otherMessages before later owes
    | inr held =>
      obtain ⟨rfl, rfl⟩ := held
      exact owed later owes
  · intro otherObject
    by_cases same : otherObject = objectId
    · subst same
      simp only [Function.update_self]
      rw [List.pairwise_append]
      refine ⟨ordered.inOrder otherObject, List.pairwise_singleton _ _, ?_⟩
      intro entry member other latest
      rw [List.mem_singleton.mp latest]
      exact last entry member
    · simp only [Function.update_of_ne same]
      exact ordered.inOrder otherObject

theorem Ordered.forwards (ordered : self.Ordered) {id : Nat} {objectId : String}
    {messages : List ClientCollabMessage} (owes : (objectId, messages) ∈ self.handling id)
    (first : ∀ earlier < id, ¬ self.Owes earlier objectId) :
    ({ self with
        handling := Function.update self.handling id ((self.handling id).filter fun entry => entry.1 ≠ objectId)
        received := Function.update self.received objectId (self.received objectId ++ [(id, messages)]) } :
      RealtimeClient).Ordered := by
  have taken : self.Taken id := taken_of_mem owes
  refine (ordered.drops id objectId).sends messages (ordered.known id (.inr taken))
    (fun other => ordered.taken id other taken) ?_ ?_
  · intro later owesLater
    obtain ⟨owesBefore, cleared⟩ := owes_filter owesLater
    -- neither an earlier handler nor this one owes the object any more
    have apart : later ≠ id := fun same => cleared same rfl
    have notEarlier : ¬ later < id := fun earlier => first later earlier owesBefore
    omega
  · intro entry member
    exact ordered.owed objectId entry.1 entry.2 member id ⟨messages, owes⟩

theorem Ordered.moves (ordered : self.Ordered) {event : FrameEvent} (inTurn : self.InTurn event)
    {client : RealtimeClient} (moves : self.Moves event client) : client.Ordered := by
  cases moves with
  | counts _ messageCount intervalStart =>
    exact ⟨ordered.mailbox, ordered.known, ordered.queued, ordered.taken, ordered.owed, ordered.inOrder⟩
  | receives _ messageCount intervalStart bytes => exact ordered.receives messageCount intervalStart bytes
  | proceeds _ isOpen future => exact ordered.proceeds isOpen future
  | enters isOpen message => exact ordered.enters isOpen inTurn message
  | takes first => exact ordered.takes first
  | drops running owes => exact ordered.drops _ _
  | forwards running owes => exact ordered.forwards owes inTurn

end RealtimeClient

/-- As long as no frame overtakes an earlier one on its way to the mailbox or to a runner, each
    runner is sent its object's messages in the order of the frames. -/
theorem frames_keep_order (lib : CollabSerde) (now : Nat) {events : List FrameEvent}
    (inTurn : Always (RealtimeClient.step lib) RealtimeClient.InTurn (.new now) events) :
    (run (RealtimeClient.step lib) (.new now) events).InOrder := by
  have ordered : (run (RealtimeClient.step lib) (.new now) events).Ordered :=
    inTurn.invariant
      (fun client event ordered admitted => ordered.moves admitted (RealtimeClient.moves lib client event))
      (RealtimeClient.ordered_new now)
  exact ordered.inOrder

/-- An edit of the document, in a packet. -/
def editFrame (msgId : MsgId) : Bytes :=
  (RealtimeMessage.serde sampleSerde).serialize
    (.clientCollabV1 [.clientUpdateSync ⟨.client 1 "phone", "doc", msgId, [0, 2, 1, 7]⟩])

/-- Two frames are received and both are decoded. -/
def twoFrames : List FrameEvent :=
  [.handle 0 (some (editFrame 1)), .handle 0 (some (editFrame 2)), .decoded 0, .decoded 1]

/-- The first frame meets a full mailbox, and the second one waits for it. -/
theorem frames_keep_order_retried :
    (run (RealtimeClient.step sampleSerde) (.new 0)
      (twoFrames ++ [.trySend 0 false, .wake 0, .trySend 0 true, .trySend 1 true, .take, .take,
        .forward 0 "doc" true, .forward 1 "doc" true])).InOrder :=
  frames_keep_order sampleSerde 0 (by decide +kernel)

/-- The first frame meets a full mailbox, and the second one passes it while it waits for its next
    attempt. -/
theorem frames_overtake :
    ¬ ∀ (lib : CollabSerde) (now : Nat) (events : List FrameEvent),
      (run (RealtimeClient.step lib) (.new now) events).InOrder := by
  intro inOrder
  have order := inOrder sampleSerde 0 (twoFrames ++ [.trySend 0 false, .trySend 1 true, .take, .forward 1 "doc" true,
    .wake 0, .trySend 0 true, .take, .forward 0 "doc" true]) "doc"
  have numbers := List.pairwise_map.mpr order
  revert numbers
  decide +kernel

end FlowCloud.Server
