import Mathlib.Data.List.Infix
import FlowCloud.Foundation.Runs
import FlowCloud.Foundation.Threads

/-! # Refreshing the token

Calls of `refresh_token` on one client run at the same time.  Each leaves a sender in a shared
list; the one that finds the flag clear sets it, refreshes, and answers the senders it took
from the list.  The builds for native targets and for wasm take the list at different times.
-/

namespace FlowCloud.Client

open FlowCloud.Foundation

inductive Build where
  | native
  | wasm
  deriving DecidableEq, Repr

structure AppResponseError where
  code : Int
  message : String
  deriving DecidableEq, Repr

abbrev RefreshResult : Type := Except AppResponseError Unit

/-- `RequestTimeout` has the code of a network error. -/
def refreshTimeout : RefreshResult := .error ⟨1023, "refresh token timeout"⟩

/-! ## Calls -/

/-- The steps of a call that others can come between. -/
inductive RefreshStep where
  /-- The flag is tested. -/
  | load
  | store (value : Bool)
  | innerRefreshToken
  /-- `mem::take` of the senders. -/
  | take
  | send
  | wait
  deriving DecidableEq, Repr

/-- What a call does that finds the flag clear. -/
def Build.refresh : Build → List RefreshStep
  | native => [.store true, .innerRefreshToken, .take, .send, .store false]
  | wasm => [.store true, .take, .innerRefreshToken, .send, .store false]

structure RefreshCall where
  todo : List RefreshStep
  /-- The senders that the call has taken. -/
  txs : List Nat
  /-- What its own `inner_refresh_token` returned. -/
  result : Option RefreshResult
  returned : Option RefreshResult
  deriving DecidableEq

def RefreshCall.new : RefreshCall := ⟨[.load, .wait], [], none, none⟩

/-- The call is inside `inner_refresh_token`. -/
def RefreshCall.refreshing (self : RefreshCall) : Bool := self.todo.head? == some .innerRefreshToken

structure TokenClient where
  isRefreshingToken : Bool
  /-- A sender is known by the number of its call. -/
  refreshRetTxs : List Nat
  calls : List RefreshCall
  /-- The results on their way to the calls. -/
  sent : List (Nat × RefreshResult)

inductive RefreshEvent where
  /-- A call begins and leaves its sender. -/
  | refreshToken
  /-- A call takes its next step; `response` counts if that is the end of its refresh. -/
  | advance (id : Nat) (response : RefreshResult)
  /-- The minute is over for which a call waits. -/
  | elapse (id : Nat)

namespace TokenClient

def new : TokenClient := ⟨false, [], [], []⟩

variable (build : Build) (self : TokenClient)

def refreshToken : TokenClient :=
  { self with refreshRetTxs := self.refreshRetTxs ++ [self.calls.length], calls := self.calls ++ [.new] }

def execute (id : Nat) (call : RefreshCall) (todo : List RefreshStep) (response : RefreshResult) :
    RefreshStep → TokenClient
  | .load =>
    { self with
      calls := self.calls.set id { call with
        todo := if self.isRefreshingToken then todo else build.refresh ++ todo } }
  | .store value => { self with isRefreshingToken := value, calls := self.calls.set id { call with todo } }
  | .innerRefreshToken => { self with calls := self.calls.set id { call with todo, result := some response } }
  | .take =>
    { self with refreshRetTxs := [], calls := self.calls.set id { call with todo, txs := self.refreshRetTxs } }
  | .send =>
    { self with
      calls := self.calls.set id { call with todo }
      sent := self.sent ++ call.txs.filterMap fun tx => call.result.map (tx, ·) }
  | .wait =>
    match self.sent.lookup id with
    | none => self
    | some result => { self with calls := self.calls.set id { call with todo, returned := some result } }

def advance (id : Nat) (response : RefreshResult) : TokenClient :=
  match self.calls[id]? with
  | none => self
  | some call =>
    match call.todo with
    | [] => self
    | next :: todo => self.execute build id call todo response next

/-- Only the native build waits with a timeout. -/
def elapse (id : Nat) : TokenClient :=
  match self.calls[id]? with
  | none => self
  | some call =>
    if build = .native ∧ call.todo = [.wait] ∧ (self.sent.lookup id).isNone then
      { self with calls := self.calls.set id { call with todo := [], returned := some refreshTimeout } }
    else self

def step : RefreshEvent → TokenClient
  | .refreshToken => self.refreshToken
  | .advance id response => self.advance build id response
  | .elapse id => self.elapse build id

/-- A step that touches neither the flag nor the list. -/
def Plain : RefreshStep → Prop
  | .innerRefreshToken | .send | .wait => True
  | .load | .store _ | .take => False

/-- What an event does to the flag, the list and the calls. -/
inductive Moves : RefreshEvent → TokenClient → Prop where
  | stays (event : RefreshEvent) : Moves event self
  | begins : Moves .refreshToken self.refreshToken
  | loads {id : Nat} {response : RefreshResult} {call : RefreshCall} {todo : List RefreshStep}
      (turn : self.calls[id]? = some call) (next : call.todo = .load :: todo) :
      Moves (.advance id response) (self.execute build id call todo response .load)
  | stores {id : Nat} {response : RefreshResult} {call : RefreshCall} {todo : List RefreshStep} {value : Bool}
      (turn : self.calls[id]? = some call) (next : call.todo = .store value :: todo) :
      Moves (.advance id response) (self.execute build id call todo response (.store value))
  | takes {id : Nat} {response : RefreshResult} {call : RefreshCall} {todo : List RefreshStep}
      (turn : self.calls[id]? = some call) (next : call.todo = .take :: todo) :
      Moves (.advance id response) (self.execute build id call todo response .take)
  | passes {event : RefreshEvent} {id : Nat} {call later : RefreshCall} {step : RefreshStep}
      (sent : List (Nat × RefreshResult)) (turn : self.calls[id]? = some call)
      (next : call.todo = step :: later.todo) (plain : Plain step) :
      Moves event { self with calls := self.calls.set id later, sent }

variable {build self}

theorem moves_execute {id : Nat} {call : RefreshCall} {next : RefreshStep} {todo : List RefreshStep}
    (turn : self.calls[id]? = some call) (places : call.todo = next :: todo) (response : RefreshResult) :
    Moves build self (.advance id response) (self.execute build id call todo response next) := by
  cases next with
  | load => exact .loads turn places
  | store value => exact .stores turn places
  | take => exact .takes turn places
  | innerRefreshToken => exact .passes _ turn places trivial
  | send => exact .passes _ turn places trivial
  | wait =>
    rw [execute]
    split
    · exact .stays _
    · exact .passes _ turn places trivial

theorem moves (build : Build) (self : TokenClient) (event : RefreshEvent) :
    Moves build self event (self.step build event) := by
  cases event with
  | refreshToken => exact .begins
  | advance id response =>
    rw [step, advance]
    cases turn : self.calls[id]? with
    | none => exact .stays _
    | some call =>
      cases places : call.todo with
      | nil =>
        simp only [places]
        exact .stays _
      | cons next todo =>
        simp only [places]
        exact moves_execute turn places response
  | elapse id =>
    rw [step, elapse]
    cases turn : self.calls[id]? with
    | none => exact .stays _
    | some call =>
      simp only
      split
      · rename_i waits
        exact .passes _ turn waits.2.1 trivial
      · exact .stays _

/-! ## Where a call stands -/

/-- What a call can still have to do. -/
def Place (build : Build) (todo : List RefreshStep) : Prop :=
  todo = [.load, .wait] ∨ todo <:+ build.refresh ++ [.wait]

theorem Place.later {next : RefreshStep} {todo : List RefreshStep} (place : Place build (next :: todo))
    (loaded : next ≠ .load) : Place build todo := by
  cases place with
  | inl first => exact absurd (List.cons.inj first).1 loaded
  | inr suffix => exact .inr ((List.suffix_cons next todo).trans suffix)

theorem Place.of_load {todo : List RefreshStep} (place : Place build (.load :: todo)) : todo = [.wait] := by
  cases place with
  | inl first => exact (List.cons.inj first).2
  | inr suffix =>
    -- no call tests the flag twice
    have again : RefreshStep.load ∈ build.refresh ++ [.wait] := suffix.subset (.head _)
    cases build <;> exact absurd again (by decide)

def Placed (build : Build) (client : TokenClient) : Prop := ∀ call ∈ client.calls, Place build call.todo

theorem placed_new : Placed build new := List.forall_mem_nil _

theorem Placed.of_turn (placed : Placed build self) {id : Nat} {call : RefreshCall} {todo : List RefreshStep}
    (turn : self.calls[id]? = some call) (places : call.todo = todo) : Place build todo :=
  places ▸ placed call (List.mem_of_getElem? turn)

theorem Placed.moves (placed : Placed build self) {event : RefreshEvent} {client : TokenClient}
    (moves : Moves build self event client) : Placed build client := by
  cases moves with
  | stays => exact placed
  | begins => exact List.forall_mem_append.mpr ⟨placed, List.forall_mem_singleton.mpr (.inl rfl)⟩
  | loads turn next =>
    obtain rfl := (placed.of_turn turn next).of_load
    refine forall_mem_set placed _ ?_
    cases self.isRefreshingToken with
    | false => exact .inr (List.suffix_refl _)
    | true => exact .inr (List.suffix_append _ _)
  | stores turn next => exact forall_mem_set placed _ ((placed.of_turn turn next).later (by simp))
  | takes turn next => exact forall_mem_set placed _ ((placed.of_turn turn next).later (by simp))
  | passes _ turn next plain =>
    refine forall_mem_set placed _ ((placed.of_turn turn next).later ?_)
    rintro rfl
    exact plain

/-! ## No sender is forgotten -/

/-- No call is between two steps, other than waiting for its result. -/
def Settled (client : TokenClient) : Prop := ∀ call ∈ client.calls, call.todo = [] ∨ call.todo = [.wait]

instance (client : TokenClient) : Decidable client.Settled := inferInstanceAs (Decidable (∀ _ ∈ _, _))

/-- Nobody waits for a refresh that no call will perform. -/
def NoneStranded (client : TokenClient) : Prop := client.Settled → client.refreshRetTxs = []

instance (client : TokenClient) : Decidable client.NoneStranded := inferInstanceAs (Decidable (_ → _))

/-- A call that finds the flag set finds a call that has still to take the senders. -/
def StillToTake (client : TokenClient) : RefreshEvent → Prop
  | .advance id _ => ∀ call ∈ client.calls[id]?, call.todo.head? = some .load → client.isRefreshingToken = true →
      ∃ other ∈ client.calls, .take ∈ other.todo
  | _ => True

instance (client : TokenClient) : DecidablePred client.StillToTake
  | .advance _ _ => inferInstanceAs (Decidable (∀ _ ∈ _, _))
  | .refreshToken | .elapse _ => .isTrue trivial

/-- The call may take the senders. -/
def Takes (call : RefreshCall) : Prop := .load ∈ call.todo ∨ .take ∈ call.todo

theorem take_mem_refresh : .take ∈ build.refresh := by cases build <;> decide

/-- Whoever left a sender can count on a call that takes it. -/
structure Attended (build : Build) (client : TokenClient) : Prop where
  placed : Placed build client
  taken : client.refreshRetTxs ≠ [] → ∃ call ∈ client.calls, Takes call

theorem Attended.moves (attended : Attended build self) {event : RefreshEvent} (stillToTake : self.StillToTake event)
    {client : TokenClient} (moves : Moves build self event client) : Attended build client := by
  refine ⟨attended.placed.moves moves, ?_⟩
  cases moves with
  | stays => exact attended.taken
  | begins => exact fun _ => ⟨.new, List.mem_append_right _ (.head _), .inl (.head _)⟩
  | @loads id _ call todo turn next =>
    intro _
    rw [execute]
    cases flag : self.isRefreshingToken with
    | false => exact ⟨_, mem_set_of_turn turn _, .inr (List.mem_append_left _ take_mem_refresh)⟩
    | true =>
      have head : call.todo.head? = some .load := by rw [next, List.head?_cons]
      obtain ⟨other, member, takes⟩ := stillToTake call turn head flag
      -- it is another one, since this call has nothing left but to wait
      have differs : other ≠ call := by
        rintro rfl
        rw [next, (attended.placed.of_turn turn next).of_load] at takes
        exact absurd takes (by decide)
      exact ⟨other, mem_set_of_other turn _ member differs, .inr takes⟩
  | stores turn next =>
    refine fun nonempty => exists_mem_set (attended.taken nonempty) turn fun takes => ?_
    simpa [Takes, next] using takes
  | takes => exact fun nonempty => absurd rfl nonempty
  | @passes _ _ call later step _ turn next plain =>
    refine fun nonempty => exists_mem_set (attended.taken nonempty) turn fun takes => ?_
    rw [Takes, next, List.mem_cons, List.mem_cons] at takes
    refine takes.imp (Or.resolve_left · ?_) (Or.resolve_left · ?_)
    · rintro rfl
      exact plain
    · rintro rfl
      exact plain

theorem Attended.noneStranded (attended : Attended build self) : self.NoneStranded := by
  intro settled
  by_contra nonempty
  obtain ⟨call, member, takes⟩ := attended.taken nonempty
  cases settled call member with
  | inl ended => exact absurd takes (by simp [Takes, ended])
  | inr waits => exact absurd takes (by simp [Takes, waits])

/-! ## One refresh at a time -/

/-- A store that sets the flag finds it clear. -/
def SetsClear (client : TokenClient) : RefreshEvent → Prop
  | .advance id _ => ∀ call ∈ client.calls[id]?, call.todo.head? = some (.store true) → client.isRefreshingToken = false
  | _ => True

instance (client : TokenClient) : DecidablePred client.SetsClear
  | .advance _ _ => inferInstanceAs (Decidable (∀ _ ∈ _, _))
  | .refreshToken | .elapse _ => .isTrue trivial

/-- The call has set the flag and not cleared it. -/
def holdsFlag (call : RefreshCall) : Bool := decide (.store false ∈ call.todo) && decide (.store true ∉ call.todo)

/-- The flag is set exactly while one call holds it. -/
structure Exclusive (build : Build) (client : TokenClient) : Prop where
  placed : Placed build client
  held : client.calls.countP holdsFlag = client.isRefreshingToken.toNat

theorem Place.of_store {value : Bool} {todo : List RefreshStep} (place : Place build (.store value :: todo)) :
    .store true ∉ todo ∧ (.store false ∈ todo ↔ value = true) := by
  cases place with
  | inl first => cases first
  | inr suffix =>
    -- the program sets the flag first and clears it last
    have each : ∀ place ∈ (build.refresh ++ [RefreshStep.wait]).tails, ∀ value, place.head? = some (.store value) →
        .store true ∉ place.tail ∧ (.store false ∈ place.tail ↔ value = true) := by
      cases build <;> decide
    exact each _ ((List.mem_tails _ _).mpr suffix) value rfl

theorem Exclusive.moves (exclusive : Exclusive build self) {event : RefreshEvent} (setsClear : self.SetsClear event)
    {client : TokenClient} (moves : Moves build self event client) : Exclusive build client := by
  refine ⟨exclusive.placed.moves moves, ?_⟩
  cases moves with
  | stays => exact exclusive.held
  | begins =>
    have clear : holdsFlag .new = false := rfl
    rw [refreshToken, List.countP_append, List.countP_singleton, clear]
    exact exclusive.held
  | @loads id _ call todo turn next =>
    obtain rfl := (exclusive.placed.of_turn turn next).of_load
    have before : holdsFlag call = false := by simp [holdsFlag, next]
    have after : holdsFlag { call with
        todo := if self.isRefreshingToken then [.wait] else build.refresh ++ [.wait] } = false := by
      cases self.isRefreshingToken with
      | false => cases build <;> rfl
      | true => rfl
    have counted := countP_set_add holdsFlag turn { call with
      todo := if self.isRefreshingToken then [.wait] else build.refresh ++ [.wait] }
    rw [before, after] at counted
    exact counted.trans exclusive.held
  | @stores id _ call todo value turn next =>
    obtain ⟨unset, clears⟩ := (exclusive.placed.of_turn turn next).of_store
    have counted := countP_set_add holdsFlag turn { call with todo }
    cases value with
    | true =>
      have clear : self.isRefreshingToken = false := setsClear call turn (by rw [next, List.head?_cons])
      have before : holdsFlag call = false := by simp [holdsFlag, next]
      have after : holdsFlag { call with todo } = true := by simp [holdsFlag, unset, clears]
      rw [before, after, exclusive.held, clear] at counted
      exact counted
    | false =>
      have before : holdsFlag call = true := by simp [holdsFlag, next, unset]
      have after : holdsFlag { call with todo } = false := by simp [holdsFlag, clears]
      rw [before, after, exclusive.held] at counted
      exact Nat.le_zero.mp (Nat.le_of_succ_le_succ (Nat.le_trans (Nat.le_of_eq counted) (Bool.toNat_le _)))
  | @takes id _ call todo turn next =>
    have kept : holdsFlag { call with todo, txs := self.refreshRetTxs } = holdsFlag call := by simp [holdsFlag, next]
    have counted := countP_set_add holdsFlag turn { call with todo, txs := self.refreshRetTxs }
    rw [kept] at counted
    exact (Nat.add_right_cancel counted).trans exclusive.held
  | @passes _ _ call later step _ turn next plain =>
    have noStore : ∀ value, RefreshStep.store value ≠ step := by
      rintro value rfl
      exact plain
    have kept : holdsFlag later = holdsFlag call := by simp [holdsFlag, next, noStore]
    have counted := countP_set_add holdsFlag turn later
    rw [kept] at counted
    exact (Nat.add_right_cancel counted).trans exclusive.held

theorem Place.holdsFlag_of_refreshing {call : RefreshCall} (place : Place build call.todo)
    (refreshing : call.refreshing = true) : holdsFlag call = true := by
  rw [RefreshCall.refreshing, beq_iff_eq] at refreshing
  cases place with
  | inl first =>
    rw [first] at refreshing
    cases refreshing
  | inr suffix =>
    have each : ∀ place ∈ (build.refresh ++ [RefreshStep.wait]).tails, place.head? = some .innerRefreshToken →
        (decide (.store false ∈ place) && decide (.store true ∉ place)) = true := by
      cases build <;> decide
    exact each _ ((List.mem_tails _ _).mpr suffix) refreshing

theorem Exclusive.refreshing_le_one (exclusive : Exclusive build self) :
    self.calls.countP RefreshCall.refreshing ≤ 1 := by
  have within : self.calls.countP RefreshCall.refreshing ≤ self.calls.countP holdsFlag :=
    List.countP_mono_left fun call member => (exclusive.placed call member).holdsFlag_of_refreshing
  rw [exclusive.held] at within
  exact Nat.le_trans within (Bool.toNat_le _)

end TokenClient

/-- As long as every call that leaves the refresh to another one comes before the senders are
    taken, all senders are taken in the end. -/
theorem refresh_strands_none (build : Build) {events : List RefreshEvent}
    (stillToTake : Always (TokenClient.step build) TokenClient.StillToTake .new events) :
    (run (TokenClient.step build) .new events).NoneStranded := by
  have attended : TokenClient.Attended build (run (TokenClient.step build) .new events) :=
    stillToTake.invariant
      (fun client event attended admitted => attended.moves admitted (TokenClient.moves build client event))
      ⟨TokenClient.placed_new, fun nonempty => absurd rfl nonempty⟩
  exact attended.noneStranded

/-- The calls take their steps in the given order, and every refresh succeeds. -/
def turns (ids : List Nat) : List RefreshEvent := ids.map (.advance · (.ok ()))

/-- The second call comes while the first one refreshes. -/
theorem refresh_strands_none_joined :
    (run (TokenClient.step .native) .new
      (.refreshToken :: turns [0, 0] ++ .refreshToken :: turns [1, 0, 0, 0, 0])).NoneStranded :=
  refresh_strands_none .native (by decide)

/-- A call that comes between the taking of the senders and the clearing of the flag is left
    with its sender, in both builds. -/
theorem refresh_strands :
    ¬ (run (TokenClient.step .native) .new
        (.refreshToken :: turns [0, 0, 0, 0] ++ .refreshToken :: turns [1, 0, 0, 0])).NoneStranded ∧
      ¬ (run (TokenClient.step .wasm) .new
        (.refreshToken :: turns [0, 0, 0] ++ .refreshToken :: turns [1, 0, 0, 0, 0])).NoneStranded := by
  decide

/-- At most one call refreshes at a time, as long as no call sets the flag after another one
    did. -/
theorem refreshes_exclude {events : List RefreshEvent}
    (setsClear : Always (TokenClient.step .native) TokenClient.SetsClear .new events) :
    (run (TokenClient.step .native) .new events).calls.countP RefreshCall.refreshing ≤ 1 := by
  have exclusive : TokenClient.Exclusive .native (run (TokenClient.step .native) .new events) :=
    setsClear.invariant
      (fun client event exclusive admitted => exclusive.moves admitted (TokenClient.moves .native client event))
      ⟨TokenClient.placed_new, rfl⟩
  exact exclusive.refreshing_le_one

theorem refreshes_exclude_joined :
    (run (TokenClient.step .native) .new
      (.refreshToken :: .refreshToken :: turns [0, 0, 1])).calls.countP RefreshCall.refreshing ≤ 1 :=
  refreshes_exclude (by decide)

/-- Two calls that test the flag before either sets it both refresh. -/
theorem refreshes_twice :
    ¬ (run (TokenClient.step .native) .new
      (.refreshToken :: .refreshToken :: turns [0, 1, 0, 1])).calls.countP RefreshCall.refreshing ≤ 1 := by
  decide

end FlowCloud.Client
