import CdcSerial.Proofs.Connection.Recording

/-!
# Who owns the handle of a session

The handle of a session is shared by the link, the writer, the worker of a read and the calls that
configure the line. Each of them has a clone, and the session counts the clones. A call that
configures also has a ticket, and the session counts these too. `Owned` says that the counts are
right: each owner is counted once, from the step in which it gets its clone to the step in which
it gives it up. As an owner gives up its clone before it reports its end, a caller that closes the
port and has waited for all of them is left with the only clone.
-/

namespace CdcSerial

/-- What the point of a caller says about the handle of a session. -/
inductive Stake where
  | none
  /-- The caller holds the link, and with it the clone of the link. -/
  | link (session : Nat)
  /-- The caller holds a clone of its own and a ticket. -/
  | clone (session : Nat)
  /-- The caller has given up its clone and still holds the ticket. -/
  | ticket (session : Nat)
deriving DecidableEq

/-- The session of a stake. -/
def Stake.session? : Stake → Option Nat
  | .none => Option.none
  | .link session => some session
  | .clone session => some session
  | .ticket session => some session

/-- One for a stake of the given kind, and nothing for others. -/
def Stake.weight (stake kind : Stake) : Nat := (decide (stake = kind)).toNat

/-- The stake of a caller. -/
def Task.stake : Task → Stake
  | .clearing _ _ session => .link session
  | .installing _ _ session => .link session
  | .draining session => .link session
  | .idling session => .link session
  | .regaining session => .link session
  | .configuring session _ _ => .clone session
  | .returningClone session _ _ => .clone session
  | .returningTicket session _ _ => .ticket session
  | _ => .none

/-- The session whose writer a closing caller has seen end. -/
def Task.drained? : Task → Option Nat
  | .idling session => some session
  | .regaining session => some session
  | _ => none

theorem Task.drained_stake {task : Task} {session : Nat} (drained : task.drained? = some session) :
    task.stake = .link session := by
  cases task <;> cases drained <;> rfl

/-- Whether the writer still has its clone. -/
def WriterStage.holdsClone : WriterStage → Bool
  | .waiting => true
  | .writing _ => true
  | .unwinding => true
  | .leaving => true
  | .closing => false
  | .ended => false

/-- Whether the worker of a read still has its clone. -/
def ReaderStage.holdsClone : ReaderStage → Bool
  | .checking => true
  | .polling => true
  | .received _ => true
  | .leaving _ => true
  | .closing _ => false
  | .reporting _ => false
  | .ended _ => false

/-- What a session counts. -/
structure Account where
  clones : Nat
  tickets : Nat
  /-- Whether the writer still has its clone. -/
  writing : Bool

/-- The counts of a session. -/
def Session.account (session : Session) : Account :=
  ⟨session.clones, session.tickets, session.writer.holdsClone⟩

namespace Connection

/-- The counts of a session. A session that does not exist has none. -/
def account (connection : Connection) (session : Nat) : Account :=
  (connection.sessions[session]?.map Session.account).getD ⟨0, 0, false⟩

/-- How many callers have a stake. -/
def stakeCount (connection : Connection) (stake : Stake) : Nat :=
  connection.tasks.countP fun task => decide (task.stake = stake)

/-- Whether the link of a session is in its place. -/
def isLinked (connection : Connection) (session : Nat) : Bool :=
  decide (connection.duty?.map (·.1) = some session)

/--
How many hold the link of a session: the connection, or a caller that opens or closes the port.
-/
def linkHolders (connection : Connection) (session : Nat) : Nat :=
  (connection.isLinked session).toNat + connection.stakeCount (.link session)

/--
Somebody holds the link of a session: the connection itself, or a caller that opens or closes
the port.
-/
def HoldsLink (connection : Connection) (number : Nat) : Prop :=
  (∃ link, connection.link = some link ∧ link.session = number) ∨
    ∃ task ∈ connection.tasks, task.stake = .link number

/-- How many workers of reads have a clone of the handle of a session. -/
def readerClones (connection : Connection) (session : Nat) : Nat :=
  connection.reads.countP fun read => decide (read.session = session) && read.stage.holdsClone

/-- How many configuring calls have a clone of the handle of a session. -/
def callClones (connection : Connection) (session : Nat) : Nat :=
  connection.stakeCount (.clone session)

/-- How many configuring calls have a ticket of a session. -/
def ticketHolders (connection : Connection) (session : Nat) : Nat :=
  connection.stakeCount (.clone session) + connection.stakeCount (.ticket session)

/-- What a session counts, beside those whom it should count. -/
structure Books where
  account : Account
  linkHolders : Nat
  readerClones : Nat
  callClones : Nat
  ticketHolders : Nat

/-- The books of a session. -/
def books (connection : Connection) (session : Nat) : Books where
  account := connection.account session
  linkHolders := connection.linkHolders session
  readerClones := connection.readerClones session
  callClones := connection.callClones session
  ticketHolders := connection.ticketHolders session

/-- Every clone and every ticket is counted, and the link outlives all other owners. -/
structure Books.Right (books : Books) : Prop where
  clones : books.account.clones = books.linkHolders + books.account.writing.toNat +
    books.readerClones + books.callClones
  tickets : books.account.tickets = books.ticketHolders
  outlives : books.linkHolders = 0 → books.account.writing = false ∧ books.account.tickets = 0

/--
The books of all sessions are right, and a closing caller goes on when there is nobody to wait
for.
-/
structure Owned (connection : Connection) : Prop where
  right : ∀ session, (connection.books session).Right
  drained : ∀ {task session}, task ∈ connection.tasks → task.drained? = some session →
    (connection.account session).writing = false
  idle : ∀ {session}, .regaining session ∈ connection.tasks →
    (connection.account session).tickets = 0

/-! ### How the counts change -/

theorem account_of_getElem? {connection : Connection} {number : Nat} {session : Session}
    (found : connection.sessions[number]? = some session) :
    connection.account number = session.account := by
  simp [account, found]

theorem account_changeSession {connection : Connection} {number : Nat} {session : Session}
    (found : connection.sessions[number]? = some session) (change : Session → Session)
    (other : Nat) :
    (connection.changeSession number change).account other =
      if other = number then (change session).account else connection.account other := by
  simp only [account, changeSession, List.getElem?_modify]
  by_cases same : other = number
  · subst same
    simp [found]
  · simp [same, Ne.symm same]

theorem account_changeSession_of_eq {connection : Connection} (number : Nat)
    (change : Session → Session) (same : ∀ session, (change session).account = session.account)
    (other : Nat) :
    (connection.changeSession number change).account other = connection.account other := by
  simp only [account, changeSession, List.getElem?_modify]
  cases connection.sessions[other]? with
  | none => rfl
  | some session => by_cases changed : number = other <;> simp [changed, same]

@[simp]
theorem account_setTask (connection : Connection) (call : Nat) (task : Task) (session : Nat) :
    (connection.setTask call task).account session = connection.account session := rfl

@[simp]
theorem isLinked_setTask (connection : Connection) (call : Nat) (task : Task) (session : Nat) :
    (connection.setTask call task).isLinked session = connection.isLinked session := rfl

@[simp]
theorem readerClones_setTask (connection : Connection) (call : Nat) (task : Task) (session : Nat) :
    (connection.setTask call task).readerClones session = connection.readerClones session := rfl

@[simp]
theorem isLinked_changeSession (connection : Connection) (number : Nat)
    (change : Session → Session) (session : Nat) :
    (connection.changeSession number change).isLinked session = connection.isLinked session := rfl

@[simp]
theorem readerClones_changeSession (connection : Connection) (number : Nat)
    (change : Session → Session) (session : Nat) :
    (connection.changeSession number change).readerClones session =
      connection.readerClones session := rfl

@[simp]
theorem stakeCount_setTask_changeSession (connection : Connection) (number : Nat)
    (change : Session → Session) (call : Nat) (task : Task) (stake : Stake) :
    ((connection.changeSession number change).setTask call task).stakeCount stake =
      (connection.setTask call task).stakeCount stake := rfl

theorem account_newSession (connection : Connection) (handle : Handle) (number : Nat) :
    Connection.account { connection with sessions := connection.sessions ++ [newSession handle] }
        number =
      if number = connection.sessions.length then ⟨2, 0, true⟩ else connection.account number := by
  simp only [account, List.getElem?_append]
  by_cases inside : number < connection.sessions.length
  · simp [inside, Nat.ne_of_lt inside]
  · by_cases last : number = connection.sessions.length
    · simp [last, Session.account, newSession, WriterStage.holdsClone]
    · have outside : [newSession handle][number - connection.sessions.length]? = none := by
        rw [List.getElem?_eq_none_iff, List.length_singleton]
        omega
      simp [inside, last, outside]

theorem stakeCount_setTask {connection : Connection} {call : Nat} {task next : Task}
    {old new : Stake} (stands : connection.tasks[call]? = some task) (had : task.stake = old)
    (gets : next.stake = new) (stake : Stake) :
    (connection.setTask call next).stakeCount stake + (decide (old = stake)).toNat =
      connection.stakeCount stake + (decide (new = stake)).toNat := by
  subst had gets
  exact countP_set_add next stands

theorem stakeCount_addTask (connection : Connection) (task : Task) (stake : Stake) :
    (connection.addTask task).stakeCount stake =
      connection.stakeCount stake + (decide (task.stake = stake)).toNat :=
  countP_concat task

theorem readerClones_changeRead_of_eq {connection : Connection} {change : Read → Read}
    (number : Nat) (same : ∀ read, (change read).session = read.session ∧
      (change read).stage.holdsClone = read.stage.holdsClone) (session : Nat) :
    (connection.changeRead number change).readerClones session =
      connection.readerClones session :=
  countP_modify_of_eq number fun read => by simp only [same read]

theorem readerClones_setReader {connection : Connection} {number : Nat} {read : Read}
    (found : connection.reads[number]? = some read) (stage : ReaderStage) (session : Nat) :
    (connection.setReader number stage).readerClones session +
        (decide (read.session = session) && read.stage.holdsClone).toNat =
      connection.readerClones session +
        (decide (read.session = session) && stage.holdsClone).toNat :=
  countP_modify_add found

theorem stakeCount_pos {connection : Connection} {task : Task} (member : task ∈ connection.tasks) :
    0 < connection.stakeCount task.stake :=
  List.countP_pos_iff.mpr ⟨task, member, by simp⟩

theorem books_right_iff {connection : Connection} {session : Nat} :
    (connection.books session).Right ↔
      (connection.account session).clones = (connection.isLinked session).toNat +
          connection.stakeCount (.link session) + (connection.account session).writing.toNat +
          connection.readerClones session + connection.stakeCount (.clone session) ∧
        (connection.account session).tickets =
          connection.stakeCount (.clone session) + connection.stakeCount (.ticket session) ∧
        ((connection.isLinked session).toNat + connection.stakeCount (.link session) = 0 →
          (connection.account session).writing = false ∧
            (connection.account session).tickets = 0) :=
  ⟨fun right => ⟨right.clones, right.tickets, right.outlives⟩,
    fun ⟨clones, tickets, outlives⟩ => ⟨clones, tickets, outlives⟩⟩

theorem account_changeSession_elsewhere (connection : Connection) (number : Nat)
    (change : Session → Session) {session : Nat} (ne : session ≠ number) :
    (connection.changeSession number change).account session = connection.account session := by
  simp [account, changeSession, Ne.symm ne]

theorem account_changeSession_here {connection : Connection} {number : Nat} {session : Session}
    (found : connection.sessions[number]? = some session) (change : Session → Session) :
    (connection.changeSession number change).account number = (change session).account := by
  simp [account, changeSession, found]

theorem isLinked_of_link {connection : Connection} {link : Link}
    (held : connection.link = some link) (session : Nat) :
    connection.isLinked session = decide (link.session = session) := by
  simp [isLinked, duty?, held]

theorem isLinked_of_none {connection : Connection} (bare : connection.link = none) (session : Nat) :
    connection.isLinked session = false := by
  simp [isLinked, duty?, bare]

theorem HoldsLink.linkHolders_pos {connection : Connection} {number : Nat}
    (holds : connection.HoldsLink number) : 0 < connection.linkHolders number := by
  unfold linkHolders
  rcases holds with ⟨link, held, rfl⟩ | ⟨task, member, stake⟩
  · rw [isLinked_of_link held, decide_eq_true rfl, Bool.toNat_true]
    omega
  · have counted := stakeCount_pos member
    rw [stake] at counted
    omega

theorem readerClones_pos {connection : Connection} {number : Nat} {read : Read}
    (found : connection.reads[number]? = some read) (holds : read.stage.holdsClone = true) :
    0 < connection.readerClones read.session :=
  List.countP_pos_iff.mpr ⟨read, List.mem_of_getElem? found, by simp [holds]⟩

theorem books_eq {before after : Connection} {session : Nat}
    (account : after.account session = before.account session)
    (linked : after.isLinked session = before.isLinked session)
    (readers : after.readerClones session = before.readerClones session)
    (links : after.stakeCount (.link session) = before.stakeCount (.link session))
    (clones : after.stakeCount (.clone session) = before.stakeCount (.clone session))
    (tickets : after.stakeCount (.ticket session) = before.stakeCount (.ticket session)) :
    after.books session = before.books session := by
  simp only [books, linkHolders, callClones, ticketHolders, account, linked, readers, links, clones,
    tickets]

/-- Where nobody's point changes, only the shared part matters. -/
theorem books_eq_of_shared {before after : Connection} {session : Nat}
    (tasks : after.tasks = before.tasks)
    (account : after.account session = before.account session)
    (linked : after.isLinked session = before.isLinked session)
    (readers : after.readerClones session = before.readerClones session) :
    after.books session = before.books session := by
  apply books_eq account linked readers <;> simp only [stakeCount, tasks]

/-- A turn of a caller that keeps its stake. -/
theorem books_setTask_of_eq {connection : Connection} {call : Nat} {task next : Task}
    (stands : connection.tasks[call]? = some task) (stake : next.stake = task.stake)
    (session : Nat) : (connection.setTask call next).books session = connection.books session := by
  have counted (other : Stake) :
      (connection.setTask call next).stakeCount other = connection.stakeCount other := by
    exact Nat.add_right_cancel (stakeCount_setTask stands rfl stake other)
  exact books_eq rfl rfl rfl (counted _) (counted _) (counted _)

theorem exists_session_of_pos {connection : Connection} {number : Nat}
    (right : (connection.books number).Right)
    (counted : 0 < (connection.isLinked number).toNat + connection.stakeCount (.link number) +
      connection.readerClones number + connection.stakeCount (.clone number) +
      connection.stakeCount (.ticket number)) :
    ∃ session, connection.sessions[number]? = some session := by
  rcases books_right_iff.mp right with ⟨clones, tickets, outlives⟩
  cases found : connection.sessions[number]? with
  | some session => exact ⟨session, rfl⟩
  | none =>
      simp only [account, found, Option.map_none, Option.getD_none] at clones tickets
      omega

theorem writeEnding?_stake {state : WriteState} {task : Task}
    (ended : writeEnding? state = some task) : task.stake = .none ∧ task.drained? = none := by
  cases state with
  | queued => cases ended
  | answered result => cases result <;> cases ended <;> exact ⟨rfl, rfl⟩
  | lost => cases ended; exact ⟨rfl, rfl⟩

theorem afterTicket_stake (line : Option LineConfig) (result : Except Error Unit) :
    (afterTicket line result).stake = .none ∧ (afterTicket line result).drained? = none := by
  cases result <;> cases line <;> exact ⟨rfl, rfl⟩

end Connection

end CdcSerial
