import CdcSerial.Proofs.Connection.Accounts

/-!
# The counts of owners are right

Every step keeps the books of all sessions right. Most steps move no clone and no ticket; the few
that do move one of them for one session, and for these `Owned.of_restake` says what has to
balance.
-/

namespace CdcSerial

namespace Connection

/--
A step after which the books are right keeps the rest if it brings back no writer and no
tickets.
-/
theorem Owned.of_right {before after : Connection} (owned : before.Owned)
    (right : ∀ session, (after.books session).Right)
    (writing : ∀ session, (before.account session).writing = false →
      (after.account session).writing = false)
    (tickets : ∀ session, (before.account session).tickets = 0 →
      (after.account session).tickets = 0)
    (tasks : ∀ task ∈ after.tasks, task ∈ before.tasks ∨ task.drained? = none) :
    after.Owned where
  right := right
  drained := by
    intro task session member seen
    rcases tasks task member with old | new
    · exact writing session (owned.drained old seen)
    · simp [new] at seen
  idle := by
    intro session member
    rcases tasks _ member with old | new
    · exact tickets session (owned.idle old)
    · cases new

theorem Owned.of_same {before after : Connection} (owned : before.Owned)
    (same : ∀ session, after.books session = before.books session)
    (tasks : ∀ task ∈ after.tasks, task ∈ before.tasks ∨ task.drained? = none) :
    after.Owned := by
  have account (session : Nat) : after.account session = before.account session :=
    congrArg Books.account (same session)
  refine owned.of_right (fun session => same session ▸ owned.right session) ?_ ?_ tasks
  · intro session
    rw [account]
    exact id
  · intro session
    rw [account]
    exact id

/-- A turn of a caller that keeps its stake and does not see a writer end. -/
theorem Owned.of_turner {before after : Connection} {call : Nat} {task next : Task}
    (owned : before.Owned) (stands : before.tasks[call]? = some task)
    (tasks : after.tasks = before.tasks)
    (account : ∀ session, after.account session = before.account session)
    (linked : ∀ session, after.isLinked session = before.isLinked session)
    (readers : ∀ session, after.readerClones session = before.readerClones session)
    (stake : next.stake = task.stake) (drained : next.drained? = none) :
    (after.setTask call next).Owned := by
  refine owned.of_same (fun session => ?_) fun other member => ?_
  · rw [books_setTask_of_eq (tasks ▸ stands) stake]
    exact books_eq_of_shared tasks (account session) (linked session) (readers session)
  · rcases mem_setTask member with old | rfl
    · exact .inl (tasks ▸ old)
    · exact .inr drained

theorem tasks_setTask_drained {connection : Connection} {call : Nat} {next : Task}
    (drained : next.drained? = none) :
    ∀ task ∈ (connection.setTask call next).tasks,
      task ∈ connection.tasks ∨ task.drained? = none := by
  intro task member
  rcases mem_setTask member with old | rfl
  · exact .inl old
  · exact .inr drained

/--
A turn that concerns one session. It keeps the counts right if, for that session, the clones and
tickets change by as much as the stakes do, and the link is not the first to go.
-/
theorem Owned.of_restake {before after : Connection} {call number : Nat} {task next : Task}
    {was now : Account} {held holds : Bool} (old new : Stake)
    (owned : before.Owned) (stands : before.tasks[call]? = some task)
    (had : task.stake = old) (gets : next.stake = new) (seen : next.drained? = none)
    (oldHere : ∀ session, old.session? = some session → session = number)
    (newHere : ∀ session, new.session? = some session → session = number)
    (tasks : after.tasks = before.tasks) (reads : after.reads = before.reads)
    (elsewhere : ∀ session, session ≠ number →
      after.account session = before.account session ∧
        after.isLinked session = before.isLinked session)
    (wasHere : before.account number = was) (nowHere : after.account number = now)
    (heldHere : before.isLinked number = held) (holdsHere : after.isLinked number = holds)
    (clones : now.clones + held.toNat + was.writing.toNat + old.weight (.link number) +
        old.weight (.clone number) =
      was.clones + holds.toNat + now.writing.toNat + new.weight (.link number) +
        new.weight (.clone number))
    (tickets : now.tickets + old.weight (.clone number) + old.weight (.ticket number) =
      was.tickets + new.weight (.clone number) + new.weight (.ticket number))
    (outlives : holds.toNat + before.stakeCount (.link number) + new.weight (.link number) =
      old.weight (.link number) → now.writing = false ∧ now.tickets = 0)
    (drained : ∀ task ∈ before.tasks, task.drained? = some number → now.writing = false)
    (idle : .regaining number ∈ before.tasks → now.tickets = 0) :
    (after.setTask call next).Owned := by
  subst wasHere nowHere heldHere holdsHere
  have counted (stake : Stake) : (after.setTask call next).stakeCount stake + old.weight stake =
      before.stakeCount stake + new.weight stake := by
    have same : after.stakeCount stake = before.stakeCount stake := by simp only [stakeCount, tasks]
    rw [← same]
    exact stakeCount_setTask (tasks ▸ stands) had gets stake
  have readers (session : Nat) : after.readerClones session = before.readerClones session := by
    simp only [readerClones, reads]
  have members (task : Task) (member : task ∈ (after.setTask call next).tasks) :
      task ∈ before.tasks ∨ task.drained? = none := by
    rw [← tasks]
    exact tasks_setTask_drained seen task member
  refine ⟨fun session => books_right_iff.mpr ?_, ?_, ?_⟩
  · have right := books_right_iff.mp (owned.right session)
    simp only [account_setTask, isLinked_setTask, readerClones_setTask, readers]
    have links := counted (.link session)
    have cloneStakes := counted (.clone session)
    have ticketStakes := counted (.ticket session)
    by_cases same : session = number
    · subst same
      refine ⟨by omega, by omega, fun unowned => outlives (by omega)⟩
    · have ne (kind : Stake) (inSession : kind.session? = some session) :
          old.weight kind = 0 ∧ new.weight kind = 0 := by
        have notOld : old ≠ kind := fun eq => same (oldHere session (eq ▸ inSession))
        have notNew : new ≠ kind := fun eq => same (newHere session (eq ▸ inSession))
        simp [Stake.weight, notOld, notNew]
      rcases ne (.link session) rfl with ⟨linkOld, linkNew⟩
      rcases ne (.clone session) rfl with ⟨cloneOld, cloneNew⟩
      rcases ne (.ticket session) rfl with ⟨ticketOld, ticketNew⟩
      rw [(elsewhere session same).1, (elsewhere session same).2]
      refine ⟨by omega, by omega, fun unowned => right.2.2 (by omega)⟩
  · intro task session member sees
    rcases members task member with old | new
    · by_cases same : session = number
      · subst same
        exact drained task old sees
      · rw [account_setTask, (elsewhere session same).1]
        exact owned.drained old sees
    · simp [new] at sees
  · intro session member
    rcases members _ member with old | new
    · by_cases same : session = number
      · subst same
        exact idle old
      · rw [account_setTask, (elsewhere session same).1]
        exact owned.idle old
    · cases new

theorem Owned.of_returnsClone {before : Connection} {call number : Nat} {line : Option LineConfig}
    {result : Except Error Unit} (owned : before.Owned)
    (stands : before.tasks[call]? = some (.returningClone number line result)) :
    ((before.dropClone number).setTask call (.returningTicket number line result)).Owned := by
  have held : 0 < before.stakeCount (.clone number) := stakeCount_pos (List.mem_of_getElem? stands)
  rcases exists_session_of_pos (owned.right number) (by omega) with ⟨session, found⟩
  rcases books_right_iff.mp (owned.right number) with ⟨clones, tickets, outlives⟩
  have wasHere : before.account number =
    ⟨session.clones, session.tickets, session.writer.holdsClone⟩ := account_of_getElem? found
  have nowHere : (before.dropClone number).account number =
    ⟨session.clones - 1, session.tickets, session.writer.holdsClone⟩ :=
      account_changeSession_here found _
  simp only [wasHere] at clones tickets outlives
  refine owned.of_restake (.clone number) (.ticket number) stands rfl rfl rfl
    (by simp [Stake.session?])
    (by simp [Stake.session?]) rfl rfl
    (fun _ ne => ⟨account_changeSession_elsewhere before number _ ne, rfl⟩) wasHere nowHere
    rfl rfl ?_ ?_ ?_ ?_ ?_
  · simp [Stake.weight, dropClone]
    omega
  · simp [Stake.weight]
  · simpa [Stake.weight, dropClone] using outlives
  · intro task member drained
    simpa [wasHere] using owned.drained member drained
  · intro member
    simpa [wasHere] using owned.idle member

theorem Owned.of_returnsTicket {before : Connection} {call number : Nat} {line : Option LineConfig}
    {result : Except Error Unit} (owned : before.Owned)
    (stands : before.tasks[call]? = some (.returningTicket number line result)) :
    ((before.changeSession number fun session =>
      { session with tickets := session.tickets - 1 }).setTask call
        (afterTicket line result)).Owned := by
  have held : 0 < before.stakeCount (.ticket number) := stakeCount_pos (List.mem_of_getElem? stands)
  rcases exists_session_of_pos (owned.right number) (by omega) with ⟨session, found⟩
  rcases books_right_iff.mp (owned.right number) with ⟨clones, tickets, outlives⟩
  rcases afterTicket_stake line result with ⟨free, unseen⟩
  have wasHere : before.account number =
    ⟨session.clones, session.tickets, session.writer.holdsClone⟩ := account_of_getElem? found
  have nowHere : (before.changeSession number fun session =>
      { session with tickets := session.tickets - 1 }).account number =
    ⟨session.clones, session.tickets - 1, session.writer.holdsClone⟩ :=
      account_changeSession_here found _
  simp only [wasHere] at clones tickets outlives
  refine owned.of_restake (.ticket number) .none stands rfl free unseen (by simp [Stake.session?])
    (by simp [Stake.session?]) rfl rfl
    (fun _ ne => ⟨account_changeSession_elsewhere before number _ ne, rfl⟩) wasHere nowHere
    rfl rfl ?_ ?_ ?_ ?_ ?_
  · simp [Stake.weight]
  · simp [Stake.weight]
    omega
  · intro unlinked
    have := outlives (by simpa [Stake.weight] using unlinked)
    omega
  · intro task member drained
    simpa [wasHere] using owned.drained member drained
  · intro member
    have idle := owned.idle member
    simp only [wasHere] at idle
    omega

theorem Owned.of_takesLink {before : Connection} {call : Nat} {link : Link} (owned : before.Owned)
    (stands : before.tasks[call]? = some .takingLink) (held : before.link = some link) :
    ((({ before with link := none }).changeSession link.session ({ · with hungUp := true })).setTask
      call (.draining link.session)).Owned := by
  have linked := isLinked_of_link held
  have account (session : Nat) : (({ before with link := none }).changeSession link.session
      ({ · with hungUp := true })).account session = before.account session :=
    account_changeSession_of_eq link.session ({ · with hungUp := true }) (fun _ => rfl) session
  have unlinked (session : Nat) : (({ before with link := none }).changeSession link.session
      ({ · with hungUp := true })).isLinked session = false := isLinked_of_none rfl session
  refine owned.of_restake .none (.link link.session) stands rfl rfl rfl (by simp [Stake.session?])
    (by simp [Stake.session?]) rfl rfl (fun session ne => ⟨account session, ?_⟩) rfl
    (account link.session) (linked link.session) (unlinked link.session) ?_ ?_ ?_ ?_ ?_
  · rw [linked session, unlinked, decide_eq_false (Ne.symm ne)]
  · simp [Stake.weight]
    omega
  · simp [Stake.weight]
  · simp [Stake.weight]
  · intro task member drained
    exact owned.drained member drained
  · intro member
    exact owned.idle member

theorem Owned.of_installs {before : Connection} {call number : Nat} {address : Address}
    {config : LineConfig} (owned : before.Owned) (orderly : before.Orderly)
    (stands : before.tasks[call]? = some (.installing address config number)) :
    ((({ before with
          link := some ⟨number, none, address, config⟩
          state := .opened }).say .info
        ("Opened " ++ address.text ++ " at " ++ config.text)).setTask call
      (Task.succeeded .done)).Owned := by
  have member := List.mem_of_getElem? stands
  have held : 0 < before.stakeCount (.link number) := stakeCount_pos member
  have unlinked := isLinked_of_none (orderly.of_opener member rfl).2
  generalize installed : Connection.say { before with
      link := some ⟨number, none, address, config⟩
      state := .opened } .info ("Opened " ++ address.text ++ " at " ++ config.text) = after
  have account (session : Nat) : after.account session = before.account session := by
    rw [← installed]
    rfl
  have link : after.link = some ⟨number, none, address, config⟩ := by
    rw [← installed]
    rfl
  have linked := isLinked_of_link link
  refine owned.of_restake (.link number) .none stands rfl rfl rfl (by simp [Stake.session?])
    (by simp [Stake.session?]) (installed ▸ rfl) (installed ▸ rfl)
    (fun session ne => ⟨account session, ?_⟩) rfl (account number) (unlinked number)
    (linked number) ?_ ?_ ?_ ?_ ?_
  · rw [unlinked session, linked, decide_eq_false (Ne.symm ne)]
  · simp [Stake.weight]
    omega
  · simp [Stake.weight]
  · simp [Stake.weight]
    omega
  · intro task member drained
    exact owned.drained member drained
  · intro member
    exact owned.idle member

/-- A closing caller gives up the clone of the link, after all other owners have given up theirs. -/
theorem Owned.of_regaining {before : Connection} {call number : Nat} {next : Task}
    (owned : before.Owned) (stands : before.tasks[call]? = some (.regaining number))
    (free : next.stake = .none) (unseen : next.drained? = none) :
    ((before.dropClone number).setTask call next).Owned := by
  have member := List.mem_of_getElem? stands
  have held : 0 < before.stakeCount (.link number) := stakeCount_pos member
  rcases exists_session_of_pos (owned.right number) (by omega) with ⟨session, found⟩
  rcases books_right_iff.mp (owned.right number) with ⟨clones, tickets, outlives⟩
  have ended := owned.drained member rfl
  have idle := owned.idle member
  have wasHere : before.account number =
    ⟨session.clones, session.tickets, session.writer.holdsClone⟩ := account_of_getElem? found
  have nowHere : (before.dropClone number).account number =
    ⟨session.clones - 1, session.tickets, session.writer.holdsClone⟩ :=
      account_changeSession_here found _
  simp only [wasHere] at clones tickets outlives ended idle
  refine owned.of_restake (.link number) .none stands rfl free unseen (by simp [Stake.session?])
    (by simp [Stake.session?]) rfl rfl
    (fun _ ne => ⟨account_changeSession_elsewhere before number _ ne, rfl⟩) wasHere nowHere
    rfl rfl ?_ ?_ ?_ ?_ ?_
  · simp [Stake.weight, dropClone]
    omega
  · simp [Stake.weight]
  · exact fun _ => ⟨ended, idle⟩
  · exact fun _ _ _ => ended
  · exact fun _ => idle

theorem Owned.of_reached {before : Connection} {call : Nat} {address : Address}
    {config : LineConfig} {handle : Handle} {begun : Bool} (owned : before.Owned)
    (stands : before.tasks[call]? = some (.opening address config ⟨.done (.ok handle), begun⟩)) :
    (({ before with sessions := before.sessions ++ [newSession handle] }).setTask call
      (.clearing address config before.sessions.length)).Owned := by
  have new := account_newSession before handle
  have wasHere : before.account before.sessions.length = ⟨0, 0, false⟩ := by simp [account]
  rcases books_right_iff.mp (owned.right before.sessions.length) with ⟨clones, -, -⟩
  simp only [wasHere] at clones
  have unlinked : before.isLinked before.sessions.length = false := by
    cases linked : before.isLinked before.sessions.length with
    | false => rfl
    | true => simp [linked] at clones; omega
  refine owned.of_restake .none (.link before.sessions.length) stands rfl rfl rfl
    (by simp [Stake.session?]) (by simp [Stake.session?]) rfl rfl
    (fun session ne => ⟨by rw [new, if_neg ne], rfl⟩) wasHere
    ((new before.sessions.length).trans (if_pos rfl)) unlinked unlinked ?_ ?_ ?_ ?_ ?_
  · simp [Stake.weight]
  · simp [Stake.weight]
  · simp [Stake.weight]
  · intro task member drained
    have := stakeCount_pos member
    rw [Task.drained_stake drained] at this
    omega
  · exact fun _ => rfl

/-- A closing caller goes on to a point that says more about the session whose link it holds. -/
theorem Owned.of_waited {connection : Connection} {call : Nat} {task next : Task} (number : Nat)
    (owned : connection.Owned) (stands : connection.tasks[call]? = some task)
    (stake : next.stake = task.stake)
    (drained : ∀ session, next.drained? = some session →
      (connection.account session).writing = false)
    (idle : next = .regaining number → (connection.account number).tickets = 0)
    (here : ∀ session, next = .regaining session → session = number) :
    (connection.setTask call next).Owned where
  right session := books_setTask_of_eq stands stake session ▸ owned.right session
  drained := by
    intro task session member sees
    rcases mem_setTask member with old | rfl
    · exact owned.drained old sees
    · exact drained session sees
  idle := by
    intro session member
    rcases mem_setTask member with old | new
    · exact owned.idle old
    · cases here session new.symm
      exact idle new.symm

theorem Owned.of_turn {before after : Connection} {call : Nat} {task next : Task}
    (owned : before.Owned) (orderly : before.Orderly) (stands : before.tasks[call]? = some task)
    (turn : Turn before call task after next) : (after.setTask call next).Owned := by
  cases turn with
  | lists progress =>
      rcases progress.only_tells with ⟨journal, rfl⟩
      exact owned.of_turner stands rfl (fun _ => rfl) (fun _ => rfl) (fun _ => rfl) rfl rfl
  | opens progress =>
      rcases progress.only_tells with ⟨journal, rfl⟩
      exact owned.of_turner stands rfl (fun _ => rfl) (fun _ => rfl) (fun _ => rfl) rfl rfl
  | releases progress =>
      rcases progress.only_tells with ⟨journal, rfl⟩
      exact owned.of_turner stands rfl (fun _ => rfl) (fun _ => rfl) (fun _ => rfl) rfl rfl
  | @configures session line run _ _ progress =>
      rcases progress.only_lane with ⟨journal, rfl⟩ | rfl
      · exact owned.of_turner stands rfl (fun _ => rfl) (fun _ => rfl) (fun _ => rfl) rfl rfl
      · exact owned.of_turner stands rfl (account_changeSession_of_eq session _ fun _ => rfl)
          (fun _ => rfl) (fun _ => rfl) rfl rfl
  | reached => exact owned.of_reached stands
  | installs => exact owned.of_installs orderly stands
  | returnsClone => exact owned.of_returnsClone stands
  | returnsTicket => exact owned.of_returnsTicket stands
  | takesLink held => exact owned.of_takesLink stands held
  | regains => exact owned.of_regaining stands rfl rfl
  | findsOwners => exact owned.of_regaining stands rfl rfl
  | @drained number session found ended =>
      refine owned.of_waited number stands rfl ?_ (by simp) (by simp)
      rintro other ⟨⟩
      rw [account_of_getElem? found, Session.account, ended]
      rfl
  | @idled number session found idle =>
      refine owned.of_waited number stands rfl ?_ ?_ (by simp)
      · rintro other ⟨⟩
        exact owned.drained (List.mem_of_getElem? stands) rfl
      · rintro -
        rw [account_of_getElem? found]
        exact idle
  | fetchesWrite found ended =>
      rcases writeEnding?_stake ended with ⟨stake, drained⟩
      exact owned.of_turner stands rfl (fun _ => rfl) (fun _ => rfl) (fun _ => rfl) stake drained
  | cancels known =>
      exact owned.of_turner stands rfl (fun _ => rfl) (fun _ => rfl)
        (readerClones_changeRead_of_eq _ fun _ => ⟨rfl, rfl⟩) rfl rfl
  | overflows unknown =>
      exact owned.of_turner stands rfl (fun _ => rfl) (fun _ => rfl)
        (readerClones_changeRead_of_eq _ fun _ => ⟨rfl, rfl⟩) rfl rfl
  | fetchesError =>
      exact owned.of_turner stands rfl (fun _ => rfl) (fun _ => rfl)
        (readerClones_changeRead_of_eq _ fun _ => ⟨rfl, rfl⟩) rfl rfl
  | fetchesBytes =>
      exact owned.of_turner stands rfl (fun _ => rfl) (fun _ => rfl)
        (readerClones_changeRead_of_eq _ fun _ => ⟨rfl, rfl⟩) rfl rfl
  | stores =>
      exact owned.of_turner stands rfl (fun _ => rfl) (fun _ => rfl)
        (readerClones_changeRead_of_eq _ fun _ => ⟨rfl, rfl⟩) rfl rfl
  | spills =>
      exact owned.of_turner stands rfl (fun _ => rfl) (fun _ => rfl)
        (readerClones_changeRead_of_eq _ fun _ => ⟨rfl, rfl⟩) rfl rfl
  | records =>
      refine owned.of_turner stands rfl (fun _ => rfl) (fun session => ?_) (fun _ => rfl) rfl rfl
      simp [isLinked, duty?, recordLine, Function.comp_def]
  | _ => exact owned.of_turner stands rfl (fun _ => rfl) (fun _ => rfl) (fun _ => rfl) rfl rfl

/-! ### Workers and new callers -/

theorem Owned.of_workers {before after : Connection} (owned : before.Owned)
    (tasks : after.tasks = before.tasks)
    (linked : ∀ session, after.isLinked session = before.isLinked session)
    (tickets : ∀ session, (after.account session).tickets = (before.account session).tickets)
    (writing : ∀ session, (before.account session).writing = false →
      (after.account session).writing = false)
    (clones : ∀ session, (after.account session).clones + (before.account session).writing.toNat +
        before.readerClones session =
      (before.account session).clones + (after.account session).writing.toNat +
        after.readerClones session) : after.Owned := by
  have counted (stake : Stake) : after.stakeCount stake = before.stakeCount stake := by
    simp only [stakeCount, tasks]
  refine owned.of_right (fun session => books_right_iff.mpr ?_) writing ?_ fun task member => ?_
  · rcases books_right_iff.mp (owned.right session) with ⟨right, ticketed, outlives⟩
    have balanced := clones session
    rw [linked, tickets, counted, counted, counted]
    refine ⟨by omega, ticketed,
      fun unowned => ⟨writing session (outlives unowned).1, (outlives unowned).2⟩⟩
  · intro session
    rw [tickets]
    exact id
  · exact .inl (tasks ▸ member)

theorem Owned.of_same_counts {before after : Connection} (owned : before.Owned)
    (tasks : after.tasks = before.tasks)
    (linked : ∀ session, after.isLinked session = before.isLinked session)
    (account : ∀ session, after.account session = before.account session)
    (readers : ∀ session, after.readerClones session = before.readerClones session) :
    after.Owned := by
  refine owned.of_same (fun session => ?_) fun task member => .inl (tasks ▸ member)
  exact books_eq_of_shared tasks (account session) (linked session) (readers session)

/-- The worker of a read that keeps its clone, or has none to keep. -/
theorem Owned.of_setReader {before : Connection} {number : Nat} {read : Read} {stage : ReaderStage}
    (owned : before.Owned) (found : before.reads[number]? = some read)
    (same : stage.holdsClone = read.stage.holdsClone) : (before.setReader number stage).Owned := by
  refine owned.of_same_counts rfl (fun _ => rfl) (fun _ => rfl) fun session => ?_
  have moved := readerClones_setReader found stage session
  rw [same] at moved
  omega

theorem Owned.of_readerLeaves {before : Connection} {number : Nat} {read : Read}
    {stage : ReaderStage} (owned : before.Owned) (found : before.reads[number]? = some read)
    (held : read.stage.holdsClone = true) (free : stage.holdsClone = false) :
    ((before.dropClone read.session).setReader number stage).Owned := by
  have counted := readerClones_pos found held
  rcases exists_session_of_pos (owned.right read.session) (by omega) with ⟨session, exist⟩
  rcases books_right_iff.mp (owned.right read.session) with ⟨clones, -, -⟩
  have wasHere : before.account read.session =
    ⟨session.clones, session.tickets, session.writer.holdsClone⟩ := account_of_getElem? exist
  have account (other : Nat) :
      ((before.dropClone read.session).setReader number stage).account other =
        if other = read.session then
          ⟨session.clones - 1, session.tickets, session.writer.holdsClone⟩
        else before.account other := account_changeSession exist _ other
  have readers (other : Nat) :
      ((before.dropClone read.session).setReader number stage).readerClones other +
          (decide (read.session = other) && read.stage.holdsClone).toNat =
        before.readerClones other + (decide (read.session = other) && stage.holdsClone).toNat :=
    @readerClones_setReader (before.dropClone read.session) number read found stage other
  simp only [wasHere] at clones
  refine owned.of_workers rfl (fun _ => rfl) ?_ ?_ ?_
  · intro other
    rw [account]
    by_cases same : other = read.session <;> simp [same, wasHere]
  · intro other
    rw [account]
    by_cases same : other = read.session <;> simp [same, wasHere]
  · intro other
    have moved := readers other
    rw [account]
    by_cases same : other = read.session
    · subst same
      simp only [held, free, wasHere, if_pos] at moved ⊢
      simp at moved
      omega
    · simp only [if_neg same, decide_eq_false (Ne.symm same), Bool.false_and,
        Bool.toNat_false] at moved ⊢
      omega

theorem Owned.of_readerTurn {before after : Connection} {number : Nat} {read : Read}
    {stage : ReaderStage} (owned : before.Owned) (found : before.reads[number]? = some read)
    (turn : ReaderTurn before read after stage) : (after.setReader number stage).Owned := by
  have kept (backlog : List UInt8) : Connection.Owned { before with backlog := backlog } :=
    owned.of_same_counts rfl (fun _ => rfl) (fun _ => rfl) (fun _ => rfl)
  cases turn with
  | stops checking => exact owned.of_setReader found (by rw [checking]; rfl)
  | polls checking => exact owned.of_setReader found (by rw [checking]; rfl)
  | keepsAll received => exact (kept _).of_setReader found (by rw [received]; rfl)
  | divides received => exact (kept _).of_setReader found (by rw [received]; rfl)
  | leaves leaving => exact owned.of_readerLeaves found (by rw [leaving]; rfl) rfl
  | leavesLast leaving => exact owned.of_readerLeaves found (by rw [leaving]; rfl) rfl
  | reports reporting => exact owned.of_setReader found (by rw [reporting]; rfl)

theorem afterPoll_holdsClone (reply : BulkIn) : (afterPoll reply).holdsClone = true := by
  unfold afterPoll
  split <;> rfl

theorem Owned.of_readerAnswer {before : Connection} {number : Nat} {read : Read}
    {session : Session} {request : Request} {reply : request.Reply} {stage : ReaderStage}
    (owned : before.Owned) (found : before.reads[number]? = some read)
    (answer : ReaderAnswer before read session request reply stage) :
    (before.setReader number stage).Owned := by
  cases answer with
  | polled polling =>
      refine owned.of_setReader found ?_
      rw [afterPoll_holdsClone, polling]
      rfl
  | closed closing => exact owned.of_setReader found (by rw [closing]; rfl)

/--
The writer of a session moves, and gives up its clone if it has one and the new point has none.
-/
theorem Owned.of_writer {before after : Connection} {number : Nat} {session : Session}
    {change : Session → Session} (owned : before.Owned)
    (found : before.sessions[number]? = some session)
    (sessions : after.sessions = before.sessions.modify number change)
    (tasks : after.tasks = before.tasks) (reads : after.reads = before.reads)
    (link : after.link = before.link)
    (tickets : (change session).tickets = session.tickets)
    (given : (change session).writer.holdsClone = true → session.writer.holdsClone = true)
    (clones : (change session).clones =
      session.clones -
        (session.writer.holdsClone.toNat - (change session).writer.holdsClone.toNat)) :
    after.Owned := by
  rcases books_right_iff.mp (owned.right number) with ⟨right, -, -⟩
  have wasHere : before.account number =
    ⟨session.clones, session.tickets, session.writer.holdsClone⟩ := account_of_getElem? found
  have account (other : Nat) : after.account other =
      if other = number then (change session).account else before.account other := by
    rw [← account_changeSession found]
    simp only [Connection.account, changeSession, sessions]
  have readers (other : Nat) : after.readerClones other = before.readerClones other := by
    simp only [readerClones, reads]
  simp only [wasHere] at right
  refine owned.of_workers tasks (fun _ => by simp [isLinked, duty?, link]) ?_ ?_ ?_
  · intro other
    rw [account]
    by_cases same : other = number <;> simp [same, wasHere, Session.account, tickets]
  · intro other ended
    rw [account]
    by_cases same : other = number
    · subst same
      rw [wasHere] at ended
      rw [if_pos rfl]
      exact Bool.eq_false_iff.mpr fun holds => by simp [given holds] at ended
    · rw [if_neg same]
      exact ended
  · intro other
    rw [account, readers]
    by_cases same : other = number
    · subst same
      simp only [if_pos, wasHere, Session.account, clones]
      cases holds : (change session).writer.holdsClone with
      | true => simp [given holds]
      | false => simp; omega
    · simp only [if_neg same]

theorem Owned.of_writerTurn {before after : Connection} {number : Nat} {session : Session}
    (owned : before.Owned) (found : before.sessions[number]? = some session)
    (turn : WriterTurn before number session after) : after.Owned := by
  cases turn with
  | picks waiting =>
      exact owned.of_writer found rfl rfl rfl rfl rfl (by simp [waiting, WriterStage.holdsClone])
        (by simp [waiting, WriterStage.holdsClone])
  | stops waiting =>
      exact owned.of_writer found rfl rfl rfl rfl rfl (by simp [waiting, WriterStage.holdsClone])
        (by simp [waiting, WriterStage.holdsClone])
  | unwinds unwinding =>
      rcases loseAll_frame before session.queue with ⟨writes, eq⟩
      rw [eq]
      exact owned.of_writer found rfl rfl rfl rfl rfl (by simp [unwinding, WriterStage.holdsClone])
        (by simp [unwinding, WriterStage.holdsClone])
  | leaves leaving =>
      exact owned.of_writer found (List.modify_modify_eq _ _ _ _) rfl rfl rfl rfl
        (by simp [WriterStage.holdsClone])
        (by simp [leaving, WriterStage.holdsClone])
  | leavesLast leaving =>
      exact owned.of_writer found (List.modify_modify_eq _ _ _ _) rfl rfl rfl rfl
        (by simp [WriterStage.holdsClone])
        (by simp [leaving, WriterStage.holdsClone])

theorem Owned.of_writerAnswer {before after : Connection} {number : Nat} {session : Session}
    {request : Request} {reply : request.Reply} (owned : before.Owned)
    (found : before.sessions[number]? = some session)
    (answer : WriterAnswer before number session request reply after) : after.Owned := by
  cases answer with
  | @wrote write reply writing =>
      cases reply <;>
        exact owned.of_writer found rfl rfl rfl rfl rfl (by simp [writing, WriterStage.holdsClone])
          (by simp [writing, WriterStage.holdsClone])
  | closed closing =>
      exact owned.of_writer found rfl rfl rfl rfl rfl (by simp [WriterStage.holdsClone])
        (by simp [closing, WriterStage.holdsClone])

theorem Owned.exists_session {connection : Connection} {link : Link} (owned : connection.Owned)
    (held : connection.link = some link) :
    ∃ session, connection.sessions[link.session]? = some session := by
  refine exists_session_of_pos (owned.right link.session) ?_
  simp only [isLinked_of_link held, decide_true, Bool.toNat_true]
  omega

theorem Owned.of_readStart {before after : Connection} {length : Nat}
    {result : Except Error Nat} (owned : before.Owned)
    (start : ReadStart before length after result) : after.Owned := by
  cases start with
  | refused => exact owned
  | served journal opened =>
      rcases openLink?_eq_some.mp opened with ⟨-, held⟩
      refine owned.of_same_counts rfl (fun session => ?_) (fun _ => rfl) fun session => ?_
      · simp [isLinked, duty?, held]
      · exact (countP_concat _).trans (by simp [readerClones, ReaderStage.holdsClone])
  | notStarted cause opened =>
      rcases openLink?_eq_some.mp opened with ⟨-, held⟩
      refine owned.of_same_counts rfl (fun session => ?_) (fun _ => rfl) fun _ => rfl
      simp [isLinked, duty?, held]
  | @polls link opened =>
      rcases openLink?_eq_some.mp opened with ⟨-, held⟩
      rcases owned.exists_session held with ⟨session, found⟩
      have account (other : Nat) := account_changeSession found
        (fun session => { session with clones := session.clones + 1 }) other
      have wasHere : before.account link.session =
        ⟨session.clones, session.tickets, session.writer.holdsClone⟩ := account_of_getElem? found
      generalize polls : Connection.mk .. = after
      replace account (other : Nat) : after.account other = if other = link.session then
          ⟨session.clones + 1, session.tickets, session.writer.holdsClone⟩
        else before.account other := by
        rw [← polls]
        exact account other
      have readers (other : Nat) : after.readerClones other = before.readerClones other +
          (decide (link.session = other)).toNat := by
        rw [← polls]
        exact (countP_concat _).trans (by simp [readerClones, ReaderStage.holdsClone])
      refine owned.of_workers (polls ▸ rfl) (fun session => ?_) ?_ ?_ ?_
      · simp [← polls, isLinked, duty?, held]
      · intro other
        rw [account]
        by_cases same : other = link.session <;> simp [same, wasHere]
      · intro other
        rw [account]
        by_cases same : other = link.session <;> simp [same, wasHere]
      · intro other
        rw [account, readers]
        by_cases same : other = link.session
        · subst same
          simp [wasHere]
          omega
        · simp [same, Ne.symm same]

theorem Owned.of_writeStart {before after : Connection} {data : List UInt8}
    {result : Except Error Nat} (owned : before.Owned)
    (start : WriteStart before data after result) : after.Owned := by
  cases start with
  | notOpen => exact owned
  | workerLost => exact owned
  | @queued link session opened found alive =>
      exact owned.of_same_counts rfl (fun _ => rfl)
        (@account_changeSession_of_eq before link.session _ fun _ => rfl) fun _ => rfl

theorem Owned.of_answer {before after : Connection} {call : Nat} {task next : Task}
    {request : Request} {reply : request.Reply} (owned : before.Owned)
    (stands : before.tasks[call]? = some task)
    (answer : CallAnswer before call task request reply after next) :
    (after.setTask call next).Owned := by
  cases answer with
  | configuring =>
      exact owned.of_turner stands rfl (account_changeSession_of_eq _ _ fun _ => rfl)
        (fun _ => rfl) (fun _ => rfl) rfl rfl
  | _ => exact owned.of_turner stands rfl (fun _ => rfl) (fun _ => rfl) (fun _ => rfl) rfl rfl

theorem Owned.addTask {connection : Connection} {task : Task} (owned : connection.Owned)
    (stake : task.stake = .none) (drained : task.drained? = none) :
    (connection.addTask task).Owned := by
  refine owned.of_same (fun session => ?_) fun other member => ?_
  · have counted (kind : Stake) (ne : kind ≠ .none) :
        (connection.addTask task).stakeCount kind = connection.stakeCount kind := by
      simp [stakeCount_addTask, stake, ne.symm]
    exact books_eq rfl rfl rfl (counted _ nofun) (counted _ nofun) (counted _ nofun)
  · rcases List.mem_append.mp member with old | new
    · exact .inl old
    · rw [List.mem_singleton.mp new]
      exact .inr drained

theorem Owned.of_configures {before : Connection} {link : Link} {session : Session}
    {line : Option LineConfig} {run : Running (Except Error Unit)} (owned : before.Owned)
    (orderly : before.Orderly) (opened : before.openLink? = some link)
    (found : before.sessions[link.session]? = some session) :
    ((before.changeSession link.session fun session =>
      { session with clones := session.clones + 1, tickets := session.tickets + 1 }).addTask
        (.configuring link.session line run)).Owned := by
  have wasHere : before.account link.session =
    ⟨session.clones, session.tickets, session.writer.holdsClone⟩ := account_of_getElem? found
  generalize shares : before.changeSession link.session (fun session =>
    { session with clones := session.clones + 1, tickets := session.tickets + 1 }) = after
  have account (other : Nat) : after.account other = if other = link.session then
      ⟨session.clones + 1, session.tickets + 1, session.writer.holdsClone⟩
    else before.account other := by
    rw [← shares]
    exact account_changeSession found _ other
  have linked (other : Nat) : after.isLinked other = before.isLinked other := by
    rw [← shares]
    rfl
  have readers (other : Nat) : after.readerClones other = before.readerClones other := by
    rw [← shares]
    rfl
  have counted (stake : Stake) :
      (after.addTask (.configuring link.session line run)).stakeCount stake =
      before.stakeCount stake + (decide (Stake.clone link.session = stake)).toNat := by
    rw [stakeCount_addTask, ← shares]
    rfl
  -- As the port is open, nobody is closing it.
  have bystanders {task : Task}
      (member : task ∈ (after.addTask (.configuring link.session line run)).tasks) :
      task.drained? = none := by
    rw [← shares] at member
    rcases List.mem_append.mp member with old | new
    · have part := orderly.bystander_of_openLink? opened old
      cases task with
      | idling => cases part
      | regaining => cases part
      | _ => rfl
    · rw [List.mem_singleton.mp new]
      rfl
  refine ⟨fun other => books_right_iff.mpr ?_, ?_, ?_⟩
  · rcases books_right_iff.mp (owned.right other) with ⟨clones, tickets, outlives⟩
    have shown : before.isLinked other = decide (link.session = other) :=
      isLinked_of_link (openLink?_eq_some.mp opened).2 other
    change (after.account other).clones = (after.isLinked other).toNat + _ +
        (after.account other).writing.toNat + after.readerClones other + _ ∧
      (after.account other).tickets = _ ∧ ((after.isLinked other).toNat + _ = 0 →
        (after.account other).writing = false ∧ (after.account other).tickets = 0)
    simp only [counted, account, linked, readers, shown] at clones outlives ⊢
    by_cases same : other = link.session
    · subst same
      simp [wasHere] at clones tickets ⊢
      omega
    · have elsewhere : decide (Stake.clone link.session = Stake.clone other) = false := by
        simp [Ne.symm same]
      simp only [if_neg same, elsewhere, reduceCtorEq, decide_false, Bool.toNat_false, Nat.add_zero]
      exact ⟨clones, tickets, outlives⟩
  · intro task session member drained
    simp [bystanders member] at drained
  · intro session member
    cases bystanders member

theorem Owned.of_entry {before after : Connection} {call : Call} {task : Task}
    (owned : before.Owned) (orderly : before.Orderly) (entry : Entry before call after task) :
    (after.addTask task).Owned := by
  have said (state : Lifecycle) (journal : List Message) :
      Connection.Owned { before with state := state, journal := journal } :=
    owned.of_same_counts rfl (fun _ => rfl) (fun _ => rfl) fun _ => rfl
  have awaited {connection : Connection} (owned : connection.Owned) (number : Nat) :
      (connection.setCustody number .awaited).Owned :=
    owned.of_same_counts rfl (fun _ => rfl) (fun _ => rfl)
      (readerClones_changeRead_of_eq number fun _ => ⟨rfl, rfl⟩)
  cases entry with
  | refuses => exact owned.addTask rfl rfl
  | lists => exact owned.addTask rfl rfl
  | opens => exact (said .opening _).addTask rfl rfl
  | reads fits start => exact (awaited (owned.of_readStart start) _).addTask rfl rfl
  | readFails fits start => exact (owned.of_readStart start).addTask rfl rfl
  | waits => exact (awaited owned _).addTask rfl rfl
  | waitsInto => exact (awaited owned _).addTask rfl rfl
  | writes start => exact (owned.of_writeStart start).addTask rfl rfl
  | configures asked opened found => exact owned.of_configures orderly opened found
  | closesReading => exact (said .closing _).addTask rfl rfl
  | closesIdle => exact (said .closing _).addTask rfl rfl

theorem fresh_owned (locator : Locator) (settings : Settings) : (fresh locator settings).Owned where
  right _ := ⟨rfl, rfl, fun _ => ⟨rfl, rfl⟩⟩
  drained := by
    rintro task session ⟨⟩
  idle := by
    rintro session ⟨⟩

theorem Owned.of_move {before after : Connection} {action : Action} {exchange? : Option Exchange}
    (owned : before.Owned) (orderly : before.Orderly) (move : Move before action exchange? after) :
    after.Owned := by
  cases move with
  | enters permitted entry => exact owned.of_entry orderly entry
  | startsRead start => exact owned.of_readStart start
  | startsWrite start => exact owned.of_writeStart start
  | cancels =>
      exact owned.of_same_counts rfl (fun _ => rfl) (fun _ => rfl)
        (readerClones_changeRead_of_eq _ fun _ => ⟨rfl, rfl⟩)
  | turns stands turn => exact owned.of_turn orderly stands turn
  | answered stands answer => exact owned.of_answer stands answer
  | readerTurns found turn => exact owned.of_readerTurn found turn
  | readerAnswered found held answer => exact owned.of_readerAnswer found answer
  | writerTurns found turn => exact owned.of_writerTurn found turn
  | writerAnswered found answer => exact owned.of_writerAnswer found answer
  | expires stands =>
      exact owned.of_turner stands rfl (fun _ => rfl) (fun _ => rfl) (fun _ => rfl) rfl rfl

/-! ### What the counts say -/

theorem part_of_link_stake {task : Task} {session : Nat} (holds : task.stake = .link session) :
    task.part = .opener ∨ task.part = .leaver := by
  cases task <;> cases holds <;> simp [Task.part]

theorem stakeCount_link_le (connection : Connection) (session : Nat) :
    connection.stakeCount (.link session) ≤
      connection.partCount .opener + connection.partCount .leaver := by
  simp only [stakeCount, partCount]
  induction connection.tasks with
  | nil => simp
  | cons task rest ih =>
      simp only [List.countP_cons]
      by_cases holds : task.stake = .link session
      · rcases part_of_link_stake holds with part | part
        · simp [holds, part]
          omega
        · simp [holds, part]
          omega
      · simp [holds]
        omega

theorem Orderly.linkHolders_le_one {connection : Connection} (orderly : connection.Orderly)
    (session : Nat) : connection.linkHolders session ≤ 1 := by
  have place := Balance.one_place orderly
  have held := connection.stakeCount_link_le session
  have linked : (connection.isLinked session).toNat ≤ connection.link.isSome.toNat := by
    cases link : connection.link with
    | none => simp [isLinked_of_none link]
    | some link => simp [Bool.toNat_le]
  unfold linkHolders
  omega

theorem unfinished_of_holdsClone {connection : Connection} {number : Nat} {read : Read}
    (found : connection.reads[number]? = some read) (holds : read.stage.holdsClone = true) :
    connection.Unfinished number read.session := by
  refine ⟨read, found, rfl, Read.isFinished_eq_false.mpr fun ending ended => ?_⟩
  rw [ended] at holds
  cases holds

/-- Only the worker of the recorded read can have a clone. -/
theorem Recorded.readerClones_le_one {connection : Connection} (recorded : connection.Recorded)
    (session : Nat) : connection.readerClones session ≤ 1 := by
  apply countP_le_one
  intro first second one other firstFound secondFound firstHolds secondHolds
  simp only [Bool.and_eq_true, decide_eq_true_eq] at firstHolds secondHolds
  have firstDuty := recorded.unfinished (unfinished_of_holdsClone firstFound firstHolds.2)
  have secondDuty := recorded.unfinished (unfinished_of_holdsClone secondFound secondHolds.2)
  rw [firstDuty] at secondDuty
  simp only [Option.some.injEq, Prod.mk.injEq] at secondDuty
  exact secondDuty.2.symm

/-- Without the link no worker of a read has a clone. -/
theorem Recorded.readerClones_eq_zero {connection : Connection} {session : Nat}
    (recorded : connection.Recorded) (unlinked : connection.isLinked session = false) :
    connection.readerClones session = 0 := by
  rw [readerClones, List.countP_eq_zero]
  intro read member holds
  simp only [Bool.and_eq_true, decide_eq_true_eq] at holds
  rcases List.getElem?_of_mem member with ⟨number, found⟩
  have duty := recorded.unfinished (unfinished_of_holdsClone found holds.2)
  simp [isLinked, duty, holds.1] at unlinked

/-- A closing caller that has waited for the others has the only clone. -/
theorem Owned.sole {connection : Connection} {number : Nat} {session : Session}
    (owned : connection.Owned) (orderly : connection.Orderly) (recorded : connection.Recorded)
    (member : .regaining number ∈ connection.tasks)
    (found : connection.sessions[number]? = some session) : session.clones = 1 := by
  rcases books_right_iff.mp (owned.right number) with ⟨clones, tickets, -⟩
  have one := orderly.linkHolders_le_one number
  have held : 0 < connection.stakeCount (.link number) := stakeCount_pos member
  have unlinked := isLinked_of_none (orderly.of_leaver member rfl).2 number
  have noReader := recorded.readerClones_eq_zero unlinked
  have noWriter := owned.drained member rfl
  have noTicket := owned.idle member
  have here : (connection.account number).clones = session.clones := by
    rw [account_of_getElem? found]
    rfl
  simp only [linkHolders, unlinked, noWriter, Bool.toNat_false] at one clones
  omega

end Connection

end CdcSerial
