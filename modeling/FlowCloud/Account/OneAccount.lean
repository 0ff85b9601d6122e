import FlowCloud.Account.SignUp

/-! # One account for a user

The lock lets one call at a time decide whether a user is new, so however the calls are
interleaved and whatever fails, a user gets one row, and one call at most is told that the
user is new.
-/

namespace FlowCloud.Account

open FlowCloud.Foundation FlowCloud.Entity FlowCloud.Storage

/-! ## What a call can do -/

/-- The stage after the next step of a call, with the tables and the roles. -/
inductive Advances (self : Accounts) (call : SignUp) (event : AccountEvent) :
    SignUpStage → AccountTables → List (Int × Uuid) → Prop where
  | begin (started : call.stage = .started) : Advances self call event .waiting self.tables self.roles
  | lock (waiting : call.stage = .waiting) (free : self.lockFree call = true) :
      Advances self call event .locked self.tables self.roles
  | known (locked : call.stage = .locked) (found : self.tables.isUserExist call.userUuid = true) :
      Advances self call event (.ready none) self.tables self.roles
  | unknown (locked : call.stage = .locked) (missing : self.tables.isUserExist call.userUuid = false) :
      Advances self call event .absent self.tables self.roles
  | create (absent : call.stage = .absent) (untaken : self.tables.users.any (·.email = call.email) = false)
      (settled : self.emailSettled call.email = true) {index : Nat} {newUid : Int} {workspaceId : Uuid}
      (ids : event = .create index newUid workspaceId) :
      Advances self call event (.created (call.newUser newUid workspaceId)) self.tables self.roles
  | grant {new : NewUser} (created : call.stage = .created new) :
      Advances self call event (.granted new) self.tables (self.roles ++ [(new.user.uid, new.workspaceId)])
  | initializeWorkspace {new : NewUser} (granted : call.stage = .granted new) :
      Advances self call event (.ready (some new)) self.tables self.roles
  | commit {new : Option NewUser} (ready : call.stage = .ready new) {answer : Except AppError Bool}
      (honest : ∀ isNew, answer = .ok isNew → isNew = new.isSome) :
      Advances self call event (.done answer) (new.elim self.tables self.tables.insert) self.roles
  | fail (error : AppError) : Advances self call event (.done (.error error)) self.tables self.roles

variable {self : Accounts}

theorem Accounts.advance_cases (self : Accounts) (index : Nat) (call : SignUp) (event : AccountEvent) :
    self.advance index call event = self ∨ ∃ stage tables roles, Advances self call event stage tables roles ∧
      self.advance index call event =
        { self with tables, roles, calls := self.calls.set index { call with stage } } := by
  cases event with
  | call | getUserUid => exact .inl rfl
  | begin =>
    simp only [advance]
    split
    · rename_i started
      exact .inr ⟨_, _, _, .begin started, rfl⟩
    · exact .inl rfl
  | lock =>
    simp only [advance]
    split
    · rename_i waiting
      split
      · rename_i free
        exact .inr ⟨_, _, _, .lock waiting free, rfl⟩
      · exact .inl rfl
    · exact .inl rfl
  | check =>
    simp only [advance]
    split
    · rename_i locked
      split
      · rename_i found
        exact .inr ⟨_, _, _, .known locked found, rfl⟩
      · rename_i missing
        exact .inr ⟨_, _, _, .unknown locked (Bool.eq_false_iff.mpr missing), rfl⟩
    · exact .inl rfl
  | create _ newUid workspaceId =>
    simp only [advance]
    split
    · rename_i absent
      split
      · exact .inr ⟨_, _, _, .fail _, rfl⟩
      · rename_i untaken
        split
        · rename_i settled
          exact .inr ⟨_, _, _, .create absent (Bool.eq_false_iff.mpr untaken) settled rfl, rfl⟩
        · exact .inl rfl
    · exact .inl rfl
  | insertRole =>
    simp only [advance]
    split
    · rename_i created
      exact .inr ⟨_, _, _, .grant created, rfl⟩
    · exact .inl rfl
  | initializeWorkspace =>
    simp only [advance]
    split
    · rename_i granted
      exact .inr ⟨_, _, _, .initializeWorkspace granted, rfl⟩
    · exact .inl rfl
  | commit _ outcome =>
    simp only [advance]
    split
    · rename_i ready
      cases outcome with
      | committed => exact .inr ⟨_, _, _, .commit ready (fun _ same => (Except.ok.inj same).symm), rfl⟩
      | unanswered error => exact .inr ⟨_, _, _, .commit ready (by rintro _ ⟨⟩), rfl⟩
      | failed error => exact .inr ⟨_, _, _, .fail error, rfl⟩
    · exact .inl rfl
  | fail _ error =>
    simp only [advance]
    split
    · exact .inl rfl
    · exact .inr ⟨_, _, _, .fail error, rfl⟩

/-! ## The invariant -/

/-- The call has found no row of its user. -/
@[simp] def SignUpStage.creates : SignUpStage → Bool
  | .absent | .created _ | .granted _ | .ready (some _) => true
  | .started | .waiting | .locked | .ready none | .done _ => false

theorem SignUpStage.holdsLock_of_creates {stage : SignUpStage} (creates : stage.creates = true) :
    stage.holdsLock = true := by
  cases stage <;> simp_all

theorem SignUpStage.creates_of_inserted {stage : SignUpStage} {new : NewUser} (inserted : stage.inserted = some new) :
    stage.creates = true := by
  cases stage with
  | created | granted => rfl
  | ready inside =>
    obtain rfl : inside = some new := inserted
    rfl
  | started | waiting | locked | absent | done => cases inserted

/-- What a call knows of the committed users. -/
structure SignUp.Sound (before users : List AfUser) (call : SignUp) : Prop where
  unknown : call.stage.creates = true → ∀ user ∈ users, user.uuid ≠ call.userUuid
  own : ∀ new, call.stage.inserted = some new → new.user.uuid = call.userUuid
  untaken : ∀ new, call.stage.inserted = some new → ∀ user ∈ users, user.email ≠ new.user.email
  known : call.stage = .ready none → ∃ user ∈ users, user.uuid = call.userUuid
  answered : ∀ isNew, call.stage = .done (.ok isNew) → ∃ user ∈ users, user.uuid = call.userUuid
  fresh : call.stage = .done (.ok true) → ∀ user ∈ before, user.uuid ≠ call.userUuid

/-- Two calls at the same time. -/
structure Compatible (left right : SignUp) : Prop where
  locks : left.stage.holdsLock = true → right.stage.holdsLock = true → left.lockKey ≠ right.lockKey
  emails : ∀ new other, left.stage.inserted = some new → right.stage.inserted = some other →
    new.user.email ≠ other.user.email
  firsts : left.stage = .done (.ok true) → right.stage = .done (.ok true) → left.userUuid ≠ right.userUuid

theorem Compatible.symm {left right : SignUp} (compatible : Compatible left right) : Compatible right left where
  locks holds other := (compatible.locks other holds).symm
  emails new other inserted others := (compatible.emails other new others inserted).symm
  firsts first other := (compatible.firsts other first).symm

/-- A stage that takes no lock and leads to no answer keeps a call compatible. -/
theorem Compatible.of_stage {left right : SignUp} (compatible : Compatible left right) {stage : SignUpStage}
    (holds : stage.holdsLock = true → right.stage.holdsLock = true) (inserted : stage.inserted = none ∨
      stage.inserted = right.stage.inserted) (unanswered : stage ≠ .done (.ok true)) :
    Compatible left { right with stage } where
  locks other own := compatible.locks other (holds own)
  emails new other others own := by
    cases inserted with
    | inl none =>
      rw [none] at own
      cases own
    | inr same => exact compatible.emails new other others (same ▸ own)
  firsts _ first := absurd first unanswered

structure Accounts.Sound (before : List AfUser) (accounts : Accounts) : Prop where
  grown : before <+: accounts.tables.users
  uuids : (accounts.tables.users.map (·.uuid)).Nodup
  emails : (accounts.tables.users.map (·.email)).Nodup
  calls : ∀ call ∈ accounts.calls, call.Sound before accounts.tables.users
  apart : Apart Compatible accounts.calls
  cached : ∀ uuid uid, accounts.userCache uuid = some uid → ∃ user ∈ accounts.tables.users, user.uuid = uuid ∧ user.uid = uid
  answers : ∀ uuid uid, (uuid, .ok uid) ∈ accounts.answers →
    ∃ user ∈ accounts.tables.users, user.uuid = uuid ∧ user.uid = uid

variable {before : List AfUser} {index : Nat} {call : SignUp} {stage : SignUpStage}

theorem Accounts.Sound.compatible (sound : self.Sound before) (found : self.calls[index]? = some call) {position : Nat}
    {other : SignUp} (differs : position ≠ index) (there : self.calls[position]? = some other) :
    Compatible other call :=
  sound.apart position index other call there found differs

/-- A call goes to another stage, and nothing is committed. -/
theorem Accounts.Sound.setStage (sound : self.Sound before) (roles : List (Int × Uuid))
    (own : SignUp.Sound before self.tables.users { call with stage })
    (compatible : ∀ (position : Nat) (other : SignUp), position ≠ index → self.calls[position]? = some other →
      Compatible other { call with stage }) :
    ({ self with roles, calls := self.calls.set index { call with stage } } : Accounts).Sound before where
  grown := sound.grown
  uuids := sound.uuids
  emails := sound.emails
  calls other member := by
    rcases List.mem_or_eq_of_mem_set member with there | rfl
    · exact sound.calls other there
    · exact own
  apart := sound.apart.set fun position other differs there =>
    ⟨compatible position other differs there, (compatible position other differs there).symm⟩
  cached := sound.cached
  answers := sound.answers

theorem isUserExist_iff {tables : AccountTables} {userUuid : Uuid} :
    tables.isUserExist userUuid = true ↔ ∃ user ∈ tables.users, user.uuid = userUuid := by
  simp [AccountTables.isUserExist]

/-- At these stages a call knows nothing of the users. -/
@[simp] def SignUpStage.blank : SignUpStage → Bool
  | .started | .waiting | .locked | .done (.error _) => true
  | .absent | .created _ | .granted _ | .ready _ | .done (.ok _) => false

theorem SignUp.sound_of_blank {users : List AfUser} (blank : call.stage.blank = true) : call.Sound before users := by
  cases stage : call.stage with
  | started | waiting | locked => constructor <;> simp [stage]
  | done answer =>
    cases answer with
    | error error => constructor <;> simp [stage]
    | ok isNew =>
      rw [stage] at blank
      cases blank
  | absent | created | granted | ready =>
    rw [stage] at blank
    cases blank

theorem Accounts.Sound.begin (sound : self.Sound before) (found : self.calls[index]? = some call) :
    ({ self with calls := self.calls.set index { call with stage := .waiting } } : Accounts).Sound before := by
  refine sound.setStage self.roles (SignUp.sound_of_blank rfl) fun position other differs there => ?_
  refine (sound.compatible found differs there).of_stage ?_ (.inl rfl) ?_
  · rintro ⟨⟩
  · rintro ⟨⟩

theorem Accounts.Sound.fail (sound : self.Sound before) (found : self.calls[index]? = some call) (error : AppError) :
    ({ self with calls := self.calls.set index { call with stage := .done (.error error) } } : Accounts).Sound
      before := by
  refine sound.setStage self.roles (SignUp.sound_of_blank rfl) fun position other differs there => ?_
  refine (sound.compatible found differs there).of_stage ?_ (.inl rfl) ?_
  · rintro ⟨⟩
  · rintro ⟨⟩

/-- Nobody else has the lock. -/
theorem Accounts.Sound.lock (sound : self.Sound before) (free : self.lockFree call = true) :
    ({ self with calls := self.calls.set index { call with stage := .locked } } : Accounts).Sound before := by
  refine sound.setStage self.roles (SignUp.sound_of_blank rfl) fun position other differs there => ⟨?_, ?_, ?_⟩
  · intro holds _ (same : other.lockKey = call.lockKey)
    have unlocked : (!(other.stage.holdsLock && decide (other.lockKey = call.lockKey))) = true :=
      List.all_eq_true.mp free other (List.mem_of_getElem? there)
    rw [holds, decide_eq_true same] at unlocked
    cases unlocked
  · rintro _ _ _ ⟨⟩
  · rintro _ ⟨⟩

theorem Accounts.Sound.known (sound : self.Sound before) (found : self.calls[index]? = some call)
    (locked : call.stage = .locked) (exist : self.tables.isUserExist call.userUuid = true) :
    ({ self with calls := self.calls.set index { call with stage := .ready none } } : Accounts).Sound before := by
  have own : SignUp.Sound before self.tables.users { call with stage := .ready none } :=
    { unknown := by simp
      own := by simp
      untaken := by simp
      known := fun _ => isUserExist_iff.mp exist
      answered := by simp
      fresh := by simp }
  refine sound.setStage self.roles own fun position other differs there => ?_
  exact (sound.compatible found differs there).of_stage (by simp [locked]) (.inl rfl) (by simp)

theorem Accounts.Sound.unknown (sound : self.Sound before) (found : self.calls[index]? = some call)
    (locked : call.stage = .locked) (missing : self.tables.isUserExist call.userUuid = false) :
    ({ self with calls := self.calls.set index { call with stage := .absent } } : Accounts).Sound before := by
  have nobody : ∀ user ∈ self.tables.users, user.uuid ≠ call.userUuid := by
    intro user member same
    rw [isUserExist_iff.mpr ⟨user, member, same⟩] at missing
    cases missing
  have own : SignUp.Sound before self.tables.users { call with stage := .absent } :=
    { unknown := fun _ => nobody
      own := by simp
      untaken := by simp
      known := by simp
      answered := by simp
      fresh := by simp }
  refine sound.setStage self.roles own fun position other differs there => ?_
  exact (sound.compatible found differs there).of_stage (by simp [locked]) (.inl rfl) (by simp)

/-- The row of a new email, which no other transaction has inserted either. -/
theorem Accounts.Sound.create (sound : self.Sound before) (found : self.calls[index]? = some call)
    (absent : call.stage = .absent) (untaken : self.tables.users.any (·.email = call.email) = false)
    (settled : self.emailSettled call.email = true) (newUid : Int) (workspaceId : Uuid) :
    ({ self with calls := self.calls.set index { call with stage := .created (call.newUser newUid workspaceId) } } :
      Accounts).Sound before := by
  have sounds := sound.calls call (List.mem_of_getElem? found)
  have own : SignUp.Sound before self.tables.users
      { call with stage := .created (call.newUser newUid workspaceId) } :=
    { unknown := fun _ => sounds.unknown (by simp [absent])
      own := by rintro _ ⟨⟩; rfl
      untaken := by
        rintro _ ⟨⟩ user member same
        exact List.any_eq_false.mp untaken user member (decide_eq_true same)
      known := by simp
      answered := by simp
      fresh := by simp }
  refine sound.setStage self.roles own fun position other differs there => ⟨?_, ?_, by simp⟩
  · intro holds _
    exact (sound.compatible found differs there).locks holds (by simp [absent])
  · rintro new _ inserted ⟨⟩
    have email : other.stage.inserted.all (fun new => decide (new.user.email ≠ call.email)) = true :=
      List.all_eq_true.mp settled other (List.mem_of_getElem? there)
    rw [inserted] at email
    exact of_decide_eq_true email

/-- The row stays as it is. -/
theorem Accounts.Sound.keep (sound : self.Sound before) (found : self.calls[index]? = some call) {new : NewUser}
    (inserted : call.stage.inserted = some new) (roles : List (Int × Uuid)) (next : stage.inserted = some new) :
    ({ self with roles, calls := self.calls.set index { call with stage } } : Accounts).Sound before := by
  have sounds := sound.calls call (List.mem_of_getElem? found)
  have creates := SignUpStage.creates_of_inserted inserted
  have same : stage.inserted = call.stage.inserted := next.trans inserted.symm
  have own : SignUp.Sound before self.tables.users { call with stage } :=
    { unknown := fun _ => sounds.unknown creates
      own := fun other there => sounds.own other (same ▸ there)
      untaken := fun other there => sounds.untaken other (same ▸ there)
      known := by
        rintro rfl
        cases next
      answered := by
        rintro _ rfl
        cases next
      fresh := by
        rintro rfl
        cases next }
  refine sound.setStage roles own fun position other differs there => ?_
  refine (sound.compatible found differs there).of_stage (fun _ => SignUpStage.holdsLock_of_creates creates)
    (.inr same) ?_
  rintro rfl
  cases next

/-- The transaction of a known user commits nothing. -/
theorem Accounts.Sound.commitKnown (sound : self.Sound before) (found : self.calls[index]? = some call)
    (ready : call.stage = .ready none) {answer : Except AppError Bool} (honest : ∀ isNew, answer = .ok isNew → isNew = false) :
    ({ self with calls := self.calls.set index { call with stage := .done answer } } : Accounts).Sound before := by
  have sounds := sound.calls call (List.mem_of_getElem? found)
  have first : SignUpStage.done answer ≠ .done (.ok true) := by
    rintro ⟨⟩
    cases honest true rfl
  have own : SignUp.Sound before self.tables.users { call with stage := .done answer } :=
    { unknown := by simp
      own := by simp
      untaken := by simp
      known := by simp
      answered := fun _ _ => sounds.known ready
      fresh := fun same => absurd same first }
  refine sound.setStage self.roles own fun position other differs there => ?_
  exact (sound.compatible found differs there).of_stage (by simp) (.inl rfl) first

theorem SignUp.Sound.insert {users : List AfUser} {other : SignUp} {user : AfUser} (sounds : other.Sound before users)
    (uuid : other.stage.creates = true → user.uuid ≠ other.userUuid)
    (email : ∀ new, other.stage.inserted = some new → user.email ≠ new.user.email) :
    other.Sound before (users ++ [user]) where
  unknown creates := List.forall_mem_append.mpr ⟨sounds.unknown creates, List.forall_mem_singleton.mpr (uuid creates)⟩
  own := sounds.own
  untaken new inserted := List.forall_mem_append.mpr
    ⟨sounds.untaken new inserted, List.forall_mem_singleton.mpr (email new inserted)⟩
  known ready := by
    obtain ⟨known, member, own⟩ := sounds.known ready
    exact ⟨known, List.mem_append_left _ member, own⟩
  answered isNew done := by
    obtain ⟨known, member, own⟩ := sounds.answered isNew done
    exact ⟨known, List.mem_append_left _ member, own⟩
  fresh := sounds.fresh

/-- The new row is committed: nobody else was about to create the user, and no one has. -/
theorem Accounts.Sound.commitNew (sound : self.Sound before) (found : self.calls[index]? = some call) {new : NewUser}
    (ready : call.stage = .ready (some new)) (answer : Except AppError Bool) :
    ({ self with
        tables := self.tables.insert new
        calls := self.calls.set index { call with stage := .done answer } } : Accounts).Sound before := by
  have sounds := sound.calls call (List.mem_of_getElem? found)
  have nobody := sounds.unknown (by rw [ready]; rfl)
  have uuid : new.user.uuid = call.userUuid := sounds.own new (by rw [ready]; rfl)
  have untaken := sounds.untaken new (by rw [ready]; rfl)
  have kept {user : AfUser} (member : user ∈ self.tables.users) : user ∈ (self.tables.insert new).users :=
    List.mem_append_left _ member
  constructor
  · exact sound.grown.trans (List.prefix_append _ _)
  · simp only [AccountTables.insert, List.map_append, List.map_cons, List.map_nil]
    refine sound.uuids.append (List.nodup_singleton _) (List.disjoint_singleton.mpr ?_)
    intro member
    obtain ⟨user, inside, same⟩ := List.mem_map.mp member
    exact nobody user inside (same.trans uuid)
  · simp only [AccountTables.insert, List.map_append, List.map_cons, List.map_nil]
    refine sound.emails.append (List.nodup_singleton _) (List.disjoint_singleton.mpr ?_)
    intro member
    obtain ⟨user, inside, same⟩ := List.mem_map.mp member
    exact untaken user inside same
  · intro other member
    obtain ⟨position, there⟩ := List.mem_iff_getElem?.mp member
    rw [List.getElem?_set] at there
    split at there
    · split at there
      · obtain rfl := Option.some.inj there
        exact
          { unknown := by simp
            own := by simp
            untaken := by simp
            known := by simp
            answered := fun _ _ => ⟨new.user, List.mem_append_right _ (.head _), uuid⟩
            fresh := fun _ user inside => nobody user (sound.grown.subset inside) }
      · cases there
    · rename_i differs
      have compatible := sound.compatible found (Ne.symm differs) there
      refine (sound.calls other (List.mem_of_getElem? there)).insert ?_ ?_
      · intro creates same
        refine compatible.locks (SignUpStage.holdsLock_of_creates creates) (by rw [ready]; rfl) ?_
        rw [SignUp.lockKey, SignUp.lockKey, ← same, uuid]
      · intro inside inserted
        exact (compatible.emails inside new inserted (by rw [ready]; rfl)).symm
  · refine sound.apart.set fun position other differs there => ?_
    have compatible : Compatible other { call with stage := .done answer } := by
      refine ⟨by simp, by simp, ?_⟩
      -- the user of a call that was told so has a row already
      intro first _ same
      obtain ⟨user, member, own⟩ := (sound.calls other (List.mem_of_getElem? there)).answered true first
      exact nobody user member (own.trans same)
    exact ⟨compatible, compatible.symm⟩
  · intro uuid uid cached
    obtain ⟨user, member, own⟩ := sound.cached uuid uid cached
    exact ⟨user, kept member, own⟩
  · intro uuid uid answered
    obtain ⟨user, member, own⟩ := sound.answers uuid uid answered
    exact ⟨user, kept member, own⟩

theorem Accounts.Sound.advance (sound : self.Sound before) (found : self.calls[index]? = some call)
    {event : AccountEvent} {tables : AccountTables} {roles : List (Int × Uuid)}
    (advances : Advances self call event stage tables roles) :
    ({ self with tables, roles, calls := self.calls.set index { call with stage } } : Accounts).Sound before := by
  cases advances with
  | begin => exact sound.begin found
  | lock _ free => exact sound.lock free
  | known locked exist => exact sound.known found locked exist
  | unknown locked missing => exact sound.unknown found locked missing
  | create absent untaken settled => exact sound.create found absent untaken settled _ _
  | grant created => exact sound.keep found (by rw [created]; rfl) _ rfl
  | initializeWorkspace granted => exact sound.keep found (by rw [granted]; rfl) _ rfl
  | @commit new ready answer honest =>
    cases new with
    | none => exact sound.commitKnown found ready honest
    | some new => exact sound.commitNew found ready answer
  | fail error => exact sound.fail found error

theorem Accounts.Sound.start (sound : self.Sound before) (userUuid : Uuid) (email name : String) :
    ({ self with calls := self.calls ++ [⟨userUuid, email, name, .started⟩] } : Accounts).Sound before where
  grown := sound.grown
  uuids := sound.uuids
  emails := sound.emails
  calls := List.forall_mem_append.mpr ⟨sound.calls, List.forall_mem_singleton.mpr (SignUp.sound_of_blank rfl)⟩
  apart := by
    refine sound.apart.concat fun other member => ?_
    have compatible : Compatible other ⟨userUuid, email, name, .started⟩ := ⟨by simp, by simp, by simp⟩
    exact ⟨compatible, compatible.symm⟩
  cached := sound.cached
  answers := sound.answers

theorem Accounts.Sound.getUserUid (sound : self.Sound before) (uuid : Uuid) (outage : Option Outage) :
    (self.getUserUid uuid outage).Sound before := by
  have answer {answers : List (Uuid × Except AppError Int)}
      (right : ∀ uuid uid, (uuid, .ok uid) ∈ answers → ∃ user ∈ self.tables.users, user.uuid = uuid ∧ user.uid = uid) :
      ({ self with answers } : Accounts).Sound before :=
    ⟨sound.grown, sound.uuids, sound.emails, sound.calls, sound.apart, sound.cached, right⟩
  have failed (error : AppError) : ∀ other uid, (other, .ok uid) ∈ self.answers ++ [(uuid, .error error)] →
      ∃ user ∈ self.tables.users, user.uuid = other ∧ user.uid = uid := by
    intro other uid member
    rcases List.mem_append.mp member with earlier | last
    · exact sound.answers other uid earlier
    · cases List.mem_singleton.mp last
  have answered (found : Int) (right : ∃ user ∈ self.tables.users, user.uuid = uuid ∧ user.uid = found) :
      ∀ other uid, (other, .ok uid) ∈ self.answers ++ [(uuid, .ok found)] →
        ∃ user ∈ self.tables.users, user.uuid = other ∧ user.uid = uid := by
    intro other uid member
    rcases List.mem_append.mp member with earlier | last
    · exact sound.answers other uid earlier
    · cases List.mem_singleton.mp last
      exact right
  rw [Accounts.getUserUid]
  split
  · rename_i uid cached
    exact answer (answered uid (sound.cached uuid uid cached))
  · split
    · exact answer (failed _)
    · exact answer (failed _)
    · rename_i user _ found
      have row : user.uuid = uuid := by simpa using List.find?_some found
      have right : ∃ known ∈ self.tables.users, known.uuid = uuid ∧ known.uid = user.uid :=
        ⟨user, List.mem_of_find?_eq_some found, row, rfl⟩
      refine ⟨sound.grown, sound.uuids, sound.emails, sound.calls, sound.apart, ?_, answered user.uid right⟩
      intro other uid cached
      simp only [Function.update_apply] at cached
      split at cached
      · rename_i same
        obtain rfl := Option.some.inj cached
        rw [same]
        exact right
      · exact sound.cached other uid cached

theorem Accounts.Sound.step (sound : self.Sound before) (event : AccountEvent) : (self.step event).Sound before := by
  cases event with
  | call userUuid email userMetadata => exact sound.start userUuid email _
  | getUserUid uuid outage => exact sound.getUserUid uuid outage
  | begin | lock | check | create | insertRole | initializeWorkspace | commit | fail =>
    simp only [Accounts.step]
    split
    · exact sound
    · rename_i call found
      rcases self.advance_cases _ call _ with same | ⟨stage, tables, roles, advances, result⟩
      · rw [same]
        exact sound
      · rw [result]
        exact sound.advance found advances

theorem Accounts.new_sound {tables : AccountTables} (uuids : (tables.users.map (·.uuid)).Nodup)
    (emails : (tables.users.map (·.email)).Nodup) (loaded : Nat) : (Accounts.new tables loaded).Sound tables.users where
  grown := List.prefix_refl _
  uuids := uuids
  emails := emails
  calls := List.forall_mem_nil _
  apart := apart_nil _
  cached uuid uid cached := by
    obtain ⟨user, found, rfl⟩ := Option.map_eq_some_iff.mp cached
    exact ⟨user, List.take_subset _ _ (List.mem_of_find?_eq_some found), by simpa using List.find?_some found, rfl⟩
  answers uuid uid := by rintro ⟨⟩

/-! ## Every run -/

/-- What holds of the accounts at any time after the users were loaded. -/
structure OneAccountEach (before : List AfUser) (accounts : Accounts) : Prop where
  uuids : (accounts.tables.users.map (·.uuid)).Nodup
  emails : (accounts.tables.users.map (·.email)).Nodup
  /-- A call that is answered leaves a row of its user. -/
  signedUp : ∀ call ∈ accounts.calls, ∀ isNew, call.stage = .done (.ok isNew) →
    ∃ user ∈ accounts.tables.users, user.uuid = call.userUuid
  /-- A user who is said to be new was none before. -/
  isNew : ∀ call ∈ accounts.calls, call.stage = .done (.ok true) → ∀ user ∈ before, user.uuid ≠ call.userUuid
  /-- No two calls are told that the same user is new. -/
  once : ∀ (first second : Nat) (left right : SignUp), accounts.calls[first]? = some left →
    accounts.calls[second]? = some right → left.stage = .done (.ok true) → right.stage = .done (.ok true) →
      left.userUuid = right.userUuid → first = second
  /-- The ids that were given out are those of the rows. -/
  answers : ∀ uuid uid, (uuid, .ok uid) ∈ accounts.answers →
    ∃ user ∈ accounts.tables.users, user.uuid = uuid ∧ user.uid = uid

theorem one_account_each (tables : AccountTables) (uuids : (tables.users.map (·.uuid)).Nodup)
    (emails : (tables.users.map (·.email)).Nodup) (loaded : Nat) (events : List AccountEvent) :
    OneAccountEach tables.users (run Accounts.step (.new tables loaded) events) := by
  have preserved : ∀ (accounts : Accounts) event, accounts.Sound tables.users → (accounts.step event).Sound tables.users :=
    fun _ event sound => sound.step event
  have sound := run_invariant preserved (Accounts.new_sound uuids emails loaded) events
  refine ⟨sound.uuids, sound.emails, fun call member => (sound.calls call member).answered,
    fun call member => (sound.calls call member).fresh, ?_, sound.answers⟩
  intro first second left right foundLeft foundRight leftNew rightNew same
  by_contra differs
  exact (sound.apart first second left right foundLeft foundRight differs).firsts leftNew rightNew same

/-- Two calls of one user and one of another user with the same email, all at the same time. -/
def signUpsAtOnce : List AccountEvent :=
  [.call 7 "ada@example.com" [("name", some "Ada")], .call 7 "ada@example.com" [], .call 8 "ada@example.com" [],
    .begin 0, .begin 1, .begin 2, .lock 0, .lock 1, .lock 2, .check 0, .create 0 1 100, .check 2, .create 2 2 200,
    .insertRole 0, .initializeWorkspace 0, .commit 0 .committed, .lock 1, .check 1, .commit 1 .committed,
    .create 2 2 200, .getUserUid 7 none]

theorem signUpsAtOnce_one_account :
    OneAccountEach [⟨0, 1, "first@example.com", "First"⟩]
      (run Accounts.step (.new ⟨[⟨0, 1, "first@example.com", "First"⟩], [(9, 0)], []⟩ 1) signUpsAtOnce) :=
  one_account_each ⟨[⟨0, 1, "first@example.com", "First"⟩], [(9, 0)], []⟩ (by decide) (by decide) 1 signUpsAtOnce

example : ((run Accounts.step (.new ⟨[], [], []⟩ 0) signUpsAtOnce).tables.users.map (·.uid)) = [1] := by decide

end FlowCloud.Account
