import Mathlib.Data.Option.Basic
import Mathlib.Logic.Function.Basic

/-! # Rows, open transactions, and a cache in front of them

A transaction writes versions of rows that it alone sees until it is committed or rolled
back, and a version keeps every other transaction from writing the key.  A cache is
coherent when each of its values stands for the row that its key has once the transaction
that has written the key is committed; keys whose cache entry is about to be written may be
left out for the time being.
-/

namespace FlowCloud.Foundation

structure RowVersion (Row : Type) where
  writer : Nat
  row : Row
  deriving DecidableEq, Repr

structure TransactionalStore (Key Row : Type) where
  committed : Key → Option Row
  uncommitted : Key → Option (RowVersion Row)

namespace TransactionalStore

section Operations

variable {Key Row : Type} (self : TransactionalStore Key Row)

def settled (committed : Key → Option Row) : TransactionalStore Key Row := ⟨committed, fun _ => none⟩

/-- What the statements of a transaction see. -/
def view (transaction : Nat) : Key → Option Row := fun key =>
  match self.uncommitted key with
  | some version => if version.writer = transaction then some version.row else self.committed key
  | none => self.committed key

/-- The transaction need not wait for another one to write the key. -/
def free (transaction : Nat) (key : Key) : Bool :=
  (self.uncommitted key).all fun version => version.writer = transaction

def write [DecidableEq Key] (transaction : Nat) (key : Key) (row : Row) : TransactionalStore Key Row :=
  { self with uncommitted := Function.update self.uncommitted key (some ⟨transaction, row⟩) }

def rollback (transaction : Nat) : TransactionalStore Key Row :=
  { self with uncommitted := fun key => (self.uncommitted key).filter fun version => version.writer ≠ transaction }

def commit (transaction : Nat) : TransactionalStore Key Row :=
  { self.rollback transaction with committed := self.view transaction }

/-- The row of a key when whoever has written it is committed. -/
def latest (key : Key) : Option Row :=
  match self.uncommitted key with
  | some version => some version.row
  | none => self.committed key

end Operations

section Lemmas

variable {Key Row : Type} {self next : TransactionalStore Key Row} {transaction other : Nat} {key : Key} {row : Row}
  {version : RowVersion Row}

theorem free_iff : self.free transaction key = true ↔
    ∀ version, self.uncommitted key = some version → version.writer = transaction := by
  rw [free]
  cases self.uncommitted key <;> simp

theorem uncommitted_rollback : (self.rollback transaction).uncommitted key = some version ↔
    self.uncommitted key = some version ∧ version.writer ≠ transaction := by
  simp [rollback]

theorem uncommitted_commit : (self.commit transaction).uncommitted key = some version ↔
    self.uncommitted key = some version ∧ version.writer ≠ transaction := uncommitted_rollback

theorem view_own (written : self.uncommitted key = some ⟨transaction, row⟩) :
    self.view transaction key = some row := by
  simp [view, written]

theorem view_other (others : ∀ version, self.uncommitted key = some version → version.writer ≠ transaction) :
    self.view transaction key = self.committed key := by
  rw [view]
  split
  · rename_i version written
    rw [if_neg (others version written)]
  · rfl

theorem latest_of_written (written : self.uncommitted key = some version) : self.latest key = some version.row := by
  simp [latest, written]

theorem latest_of_none (unwritten : self.uncommitted key = none) : self.latest key = self.committed key := by
  simp [latest, unwritten]

theorem latest_commit : (self.commit transaction).latest key = self.latest key := by
  cases written : self.uncommitted key with
  | none =>
    rw [latest_of_none written, latest_of_none (by simp [commit, rollback, written])]
    exact view_other (by simp [written])
  | some version =>
    rw [latest_of_written written]
    by_cases own : version.writer = transaction
    · subst own
      rw [latest_of_none (by simp [commit, rollback, written])]
      exact view_own written
    · exact latest_of_written (uncommitted_commit.mpr ⟨written, own⟩)

theorem latest_rollback_own (written : self.uncommitted key = some ⟨transaction, row⟩) :
    (self.rollback transaction).latest key = self.committed key :=
  latest_of_none (by simp [rollback, written])

theorem latest_rollback_other
    (others : ∀ version, self.uncommitted key = some version → version.writer ≠ transaction) :
    (self.rollback transaction).latest key = self.latest key := by
  cases written : self.uncommitted key with
  | none =>
    rw [latest_of_none written]
    exact latest_of_none (by simp [rollback, written])
  | some version =>
    rw [latest_of_written written]
    exact latest_of_written (uncommitted_rollback.mpr ⟨written, others version written⟩)

/-! ## What others do to a transaction -/

/-- The transaction's own versions are left alone and no committed row goes away. -/
structure Keeps (transaction : Nat) (store next : TransactionalStore Key Row) : Prop where
  own : ∀ key row, store.uncommitted key = some ⟨transaction, row⟩ →
    next.uncommitted key = some ⟨transaction, row⟩
  rows : ∀ key, (store.committed key).isSome → (next.committed key).isSome

theorem Keeps.refl (transaction : Nat) (self : TransactionalStore Key Row) : Keeps transaction self self :=
  ⟨fun _ _ written => written, fun _ found => found⟩

theorem isSome_view_of_committed (found : (self.committed key).isSome) : (self.view transaction key).isSome := by
  rw [view]
  split
  · split
    · rfl
    · exact found
  · exact found

theorem Keeps.view (keeps : Keeps transaction self next) (found : (self.view transaction key).isSome) :
    (next.view transaction key).isSome := by
  by_cases own : ∃ row, self.uncommitted key = some ⟨transaction, row⟩
  · obtain ⟨row, written⟩ := own
    rw [view_own (keeps.own key row written)]
    rfl
  · rw [view_other] at found
    · exact isSome_view_of_committed (keeps.rows key found)
    · rintro ⟨_, row⟩ written rfl
      exact own ⟨row, written⟩

theorem keeps_rollback (apart : other ≠ transaction) : Keeps other self (self.rollback transaction) :=
  ⟨fun _ _ written => uncommitted_rollback.mpr ⟨written, apart⟩, fun _ found => found⟩

theorem keeps_commit (apart : other ≠ transaction) : Keeps other self (self.commit transaction) :=
  ⟨fun _ _ written => uncommitted_commit.mpr ⟨written, apart⟩, fun _ found => isSome_view_of_committed found⟩

/-! ## What holds of all rows -/

/-- The committed rows and the versions of all transactions. -/
structure Each (Holds : Row → Prop) (store : TransactionalStore Key Row) : Prop where
  committed : ∀ key row, store.committed key = some row → Holds row
  uncommitted : ∀ key version, store.uncommitted key = some version → Holds version.row

variable {Holds : Row → Prop}

theorem Each.view (each : self.Each Holds) (found : self.view transaction key = some row) : Holds row := by
  rw [TransactionalStore.view] at found
  split at found
  · rename_i version written
    split at found
    · cases found
      exact each.uncommitted key version written
    · exact each.committed key row found
  · exact each.committed key row found

theorem Each.rollback (each : self.Each Holds) (transaction : Nat) : (self.rollback transaction).Each Holds :=
  ⟨each.committed, fun key version written => each.uncommitted key version (uncommitted_rollback.mp written).1⟩

theorem Each.commit (each : self.Each Holds) (transaction : Nat) : (self.commit transaction).Each Holds :=
  ⟨fun _ _ found => each.view found, (each.rollback transaction).uncommitted⟩

variable [DecidableEq Key]

/-- A transaction that is alone commits what it has written. -/
theorem commit_write_settled (committed : Key → Option Row) :
    ((settled committed).write transaction key row).commit transaction =
      settled (Function.update committed key (some row)) := by
  simp only [commit, rollback, settled, write]
  congr
  · funext other
    by_cases same : other = key
    · subst same
      simp [view]
    · simp [view, same]
  · funext other
    by_cases same : other = key
    · subst same
      simp
    · simp [same]

theorem rollback_write_settled (committed : Key → Option Row) :
    ((settled committed).write transaction key row).rollback transaction = settled committed := by
  simp only [rollback, settled, write]
  congr
  funext other
  by_cases same : other = key
  · subst same
    simp
  · simp [same]

theorem uncommitted_write {written : Key} : (self.write transaction written row).uncommitted key = some version ↔
    key = written ∧ version = ⟨transaction, row⟩ ∨ key ≠ written ∧ self.uncommitted key = some version := by
  by_cases same : key = written
  · subst same
    simp [write, eq_comm]
  · simp [write, same]

theorem keeps_write {written : Key} (free : self.free transaction written = true) (apart : other ≠ transaction) :
    Keeps other self (self.write transaction written row) := by
  refine ⟨fun key own held => uncommitted_write.mpr (.inr ⟨?_, held⟩), fun _ found => found⟩
  rintro rfl
  exact apart (free_iff.mp free _ held)

theorem Each.write (each : self.Each Holds) (transaction : Nat) (key : Key) (holds : Holds row) :
    (self.write transaction key row).Each Holds := by
  refine ⟨each.committed, fun other version written => ?_⟩
  rcases uncommitted_write.mp written with ⟨_, rfl⟩ | ⟨_, before⟩
  · exact holds
  · exact each.uncommitted other version before

end Lemmas

end TransactionalStore

/-! ## The cache -/

section Cache

variable {Key Row Value : Type}

/-- What is held, if anything, stands for the row. -/
def Reflects (Matches : Value → Row → Prop) (held : Option Value) (row : Option Row) : Prop :=
  ∀ value, held = some value → ∃ stored, row = some stored ∧ Matches value stored

theorem reflects_none (Matches : Value → Row → Prop) (row : Option Row) : Reflects Matches none row := by
  rintro value ⟨⟩

theorem reflects_some {Matches : Value → Row → Prop} {value : Value} {row : Row} (same : Matches value row) :
    Reflects Matches (some value) (some row) := by
  rintro _ ⟨⟩
  exact ⟨row, rfl, same⟩

/-- Every value of the cache stands for the latest row of its key, where no cache write is due. -/
def CoherentExcept (Matches : Value → Row → Prop) (Due : Key → Prop) (store : TransactionalStore Key Row)
    (cache : Key → Option Value) : Prop :=
  ∀ key, ¬ Due key → Reflects Matches (cache key) (store.latest key)

namespace CoherentExcept

variable {Matches : Value → Row → Prop} {Due later : Key → Prop} {store : TransactionalStore Key Row}
  {cache : Key → Option Value} {transaction : Nat} {key : Key} {row : Row}

theorem mono (coherent : CoherentExcept Matches Due store cache) (more : ∀ key, Due key → later key) :
    CoherentExcept Matches later store cache :=
  fun key settled => coherent key fun due => settled (more key due)

theorem commit (coherent : CoherentExcept Matches Due store cache) (transaction : Nat) :
    CoherentExcept Matches Due (store.commit transaction) cache := by
  intro key settled
  rw [store.latest_commit]
  exact coherent key settled

/-- A transaction is rolled back while the cache stands for what was there before it. -/
theorem rollback (coherent : CoherentExcept Matches Due store cache)
    (undone : ∀ key version, store.uncommitted key = some version → version.writer = transaction →
      Reflects Matches (cache key) (store.committed key))
    (rest : ∀ key, Due key → later key ∨ ∃ row, store.uncommitted key = some ⟨transaction, row⟩) :
    CoherentExcept Matches later (store.rollback transaction) cache := by
  intro key settled
  by_cases own : ∃ row, store.uncommitted key = some ⟨transaction, row⟩
  · obtain ⟨row, written⟩ := own
    rw [store.latest_rollback_own written]
    exact undone key _ written rfl
  · rw [store.latest_rollback_other]
    · exact coherent key fun due => (rest key due).elim settled own
    · rintro ⟨_, row⟩ written rfl
      exact own ⟨row, written⟩

/-- The cache write that was due has been made, or has failed. -/
theorem settle (coherent : CoherentExcept Matches Due store cache)
    (reflects : Reflects Matches (cache key) (store.latest key))
    (rest : ∀ other, Due other → other = key ∨ later other) :
    CoherentExcept Matches later store cache := by
  intro other settled
  by_cases same : other = key
  · subst same
    exact reflects
  · refine coherent other fun due => ?_
    exact (rest other due).elim same settled

variable [DecidableEq Key]

theorem write (coherent : CoherentExcept Matches Due store cache) (due : Due key) :
    CoherentExcept Matches Due (store.write transaction key row) cache := by
  intro other settled
  have apart : other ≠ key := by
    rintro rfl
    exact settled due
  have same : (store.write transaction key row).latest other = store.latest other := by
    simp [TransactionalStore.latest, TransactionalStore.write, apart]
  rw [same]
  exact coherent other settled

/-- A value is put into the cache, or taken out of it. -/
theorem update (coherent : CoherentExcept Matches Due store cache) {held : Option Value}
    (reflects : ¬ Due key → Reflects Matches held (store.latest key)) :
    CoherentExcept Matches Due store (Function.update cache key held) := by
  intro other settled
  by_cases same : other = key
  · subst same
    rw [Function.update_self]
    exact reflects settled
  · rw [Function.update_of_ne same]
    exact coherent other settled

theorem forget (coherent : CoherentExcept Matches Due store cache) (key : Key) :
    CoherentExcept Matches Due store (Function.update cache key none) :=
  coherent.update fun _ => reflects_none Matches _

/-- A committed row is changed behind the cache when the cache holds nothing for it. -/
theorem amend (coherent : CoherentExcept Matches Due store cache) (nothing : cache key = none) (row : Option Row) :
    CoherentExcept Matches Due { store with committed := Function.update store.committed key row } cache := by
  intro other settled
  by_cases same : other = key
  · subst same
    rw [nothing]
    exact reflects_none Matches _
  · have unchanged : ({ store with committed := Function.update store.committed key row } :
        TransactionalStore Key Row).latest other = store.latest other := by
      simp [TransactionalStore.latest, same]
    rw [unchanged]
    exact coherent other settled

end CoherentExcept

end Cache

end FlowCloud.Foundation
