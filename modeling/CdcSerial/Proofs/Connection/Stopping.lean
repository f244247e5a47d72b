import CdcSerial.Proofs.Connection.Completion
import CdcSerial.Proofs.Connection.Reads
import CdcSerial.Proofs.Connection.Serving

/-!
# Reads that are told to stop

A worker looks at the wish to stop between two polls, and when it divides the bytes of a poll. So a
read that was told to stop before its worker has decided how it ends gives no bytes: all that a last
poll brings goes to the backlog. The wish does not hide a failure. If the last poll fails or its
worker crashes, the read ends with that error, as it would have without the wish. A worker that has
decided before is not affected at all.
-/

namespace CdcSerial

/-- How the worker of a read has decided to end it. -/
def ReaderStage.decided? : ReaderStage → Option ReadEnding
  | .leaving ending => some ending
  | .closing ending => some ending
  | .reporting ending => some ending
  | .ended ending => some ending
  | _ => none

/-- A bound for the turns that a worker takes until it has ended, if it was told to stop. -/
def ReaderStage.remaining : ReaderStage → Nat
  | .polling => 6
  | .checking => 5
  | .received _ => 5
  | .leaving _ => 4
  | .closing _ => 3
  | .reporting _ => 2
  | .ended _ => 0

namespace Connection

/--
How a read can end that was told to stop before its worker had decided: as cancelled and with no
bytes, or with the error of a poll that had not come back by then.
-/
inductive StopEnding (number : Nat) (exchanges : List Exchange) : ReadEnding → Prop where
  | cancelled : StopEnding number exchanges ⟨.cancelled, .ok []⟩
  | failed {handle endpoint size timeout status} (polled : (.reader number,
      ⟨.bulkIn handle endpoint size timeout, BulkIn.failed status⟩) ∈ exchanges)
      (fatal : status ≠ .timeout) :
      StopEnding number exchanges ⟨.failed, .error (.transferFailed .input status)⟩
  | lost {handle endpoint size timeout} (polled : (.reader number,
      ⟨.bulkIn handle endpoint size timeout, BulkIn.crashed⟩) ∈ exchanges) :
      StopEnding number exchanges ⟨.failed, .error .workerLost⟩

/-- That a read was told to stop, and what its worker has decided since. -/
structure Stopping (number : Nat) (exchanges : List Exchange) (read : Read) : Prop where
  told : read.cancelled = true
  decided : ∀ {ending}, read.stage.decided? = some ending → StopEnding number exchanges ending

section Fates

variable {before : Connection} {number : Nat} {read next : Read} {action : Action}
  {exchange? : Option Exchange} {exchanges : List Exchange} {ending : ReadEnding}

theorem StopEnding.mono {more : List Exchange} (stop : StopEnding number exchanges ending) :
    StopEnding number (exchanges ++ more) ending := by
  cases stop with
  | cancelled => exact .cancelled
  | failed polled fatal => exact .failed (List.mem_append_left _ polled) fatal
  | lost polled => exact .lost (List.mem_append_left _ polled)

/-- What a worker decides after a poll that failed, or nothing. -/
theorem StopEnding.of_poll {handle : Handle} {endpoint : UInt8} {size : Nat} {timeout : Duration}
    {reply : BulkIn} (polled : (.reader number, ⟨.bulkIn handle endpoint size timeout, reply⟩) ∈
      exchanges) (decided : (afterPoll reply).decided? = some ending) :
    StopEnding number exchanges ending := by
  cases reply with
  | received data => cases data <;> cases decided
  | failed status =>
      cases status with
      | timeout => cases decided
      | _ =>
          cases decided
          exact .failed polled (by decide)
  | crashed =>
      cases decided
      exact .lost polled

/-- Why a worker decides to end a read. -/
inductive Decision (number : Nat) (read : Read) (exchange? : Option Exchange) :
    ReadEnding → Prop where
  | stopped (told : read.cancelled = true) : Decision number read exchange? ⟨.cancelled, .ok []⟩
  | divided {data} (wanted : read.cancelled = false) :
      Decision number read exchange? ⟨.completed, .ok data⟩
  | polled {handle endpoint size timeout reply ending}
      (polled : exchange? = some (.reader number, ⟨.bulkIn handle endpoint size timeout, reply⟩))
      (decided : (afterPoll reply).decided? = some ending) : Decision number read exchange? ending

theorem ReadFate.decision (fate : ReadFate before number read action exchange? next)
    (decided : next.stage.decided? = some ending) :
    read.stage.decided? = some ending ∨ Decision number read exchange? ending := by
  cases fate with
  | stays => exact .inl decided
  | asked => exact .inl decided
  | fetched => exact .inl decided
  | cancelled => exact .inl decided
  | turned turn =>
      cases turn with
      | stops checking told =>
          cases decided
          exact .inr (.stopped told)
      | polls => cases decided
      | keepsAll received told =>
          cases decided
          exact .inr (.stopped told)
      | divides received wanted =>
          cases decided
          exact .inr (.divided wanted)
      | leaves leaving => exact .inl (leaving ▸ decided)
      | leavesLast leaving => exact .inl (leaving ▸ decided)
      | reports reporting => exact .inl (reporting ▸ decided)
  | answered held answer =>
      cases answer with
      | polled => exact .inr (.polled rfl decided)
      | closed closing => exact .inl (closing ▸ decided)

/-- What a worker has decided stays. -/
theorem ReadFate.decided (fate : ReadFate before number read action exchange? next)
    (decided : read.stage.decided? = some ending) : next.stage.decided? = some ending := by
  cases fate with
  | stays => exact decided
  | asked => exact decided
  | fetched => exact decided
  | cancelled => exact decided
  | turned turn =>
      cases turn with
      | stops checking => simp [checking, ReaderStage.decided?] at decided
      | polls checking => simp [checking, ReaderStage.decided?] at decided
      | keepsAll received => simp [received, ReaderStage.decided?] at decided
      | divides received => simp [received, ReaderStage.decided?] at decided
      | leaves leaving => simpa [leaving, ReaderStage.decided?] using decided
      | leavesLast leaving => simpa [leaving, ReaderStage.decided?] using decided
      | reports reporting => simpa [reporting, ReaderStage.decided?] using decided
  | answered held answer =>
      cases answer with
      | polled polling => simp [polling, ReaderStage.decided?] at decided
      | closed closing => simpa [closing, ReaderStage.decided?] using decided

theorem ReadFate.told (fate : ReadFate before number read action exchange? next)
    (told : read.cancelled = true) : next.cancelled = true := by
  cases fate with
  | cancelled => rfl
  | _ => exact told

theorem Stopping.of_fate (stopping : Stopping number exchanges read)
    (fate : ReadFate before number read action exchange? next) :
    Stopping number (exchanges ++ exchange?.toList) next where
  told := fate.told stopping.told
  decided := by
    intro ending decided
    rcases fate.decision decided with old | new
    · exact (stopping.decided old).mono
    · cases new with
      | stopped => exact .cancelled
      | divided wanted =>
          rw [stopping.told] at wanted
          cases wanted
      | polled polled decided =>
          exact .of_poll
            (List.mem_append_right _ (by rw [polled]; exact List.mem_singleton.mpr rfl)) decided

end Fates

/-! ### Runs -/

section Runs

variable {start final : Connection} {actions : List Action} {number : Nat} {read : Read}

/-- What each step keeps of a read holds of it after a run. -/
theorem read_of_run {Holds : Read → Prop}
    (keeps : ∀ {before action exchange? read next},
      ReadFate before number read action exchange? next → Holds read → Holds next)
    (found : start.reads[number]? = some read) (holds : Holds read)
    (ran : start.run? actions = some final) :
    ∃ next, final.reads[number]? = some next ∧ Holds next := by
  refine run_induction (motive := fun _ final => ∃ next, final.reads[number]? = some next ∧
    Holds next) ⟨read, found, holds⟩ ?_ ran
  rintro actions middle action final ranBefore ⟨next, there, holds⟩ stepped
  rcases (Move.of_step? stepped).readFate there with ⟨later, thereLater, fate⟩
  exact ⟨later, thereLater, keeps fate holds⟩

theorem decided_of_run {ending : ReadEnding} (found : start.reads[number]? = some read)
    (decided : read.stage.decided? = some ending) (ran : start.run? actions = some final) :
    ∃ next, final.reads[number]? = some next ∧ next.stage.decided? = some ending :=
  read_of_run (fun fate => fate.decided) found decided ran

/-- A read that was told to stop before its worker has decided. -/
theorem stopping_of_run (found : start.reads[number]? = some read) (told : read.cancelled = true)
    (undecided : read.stage.decided? = none) (ran : start.run? actions = some final) :
    ∃ next, final.reads[number]? = some next ∧ Stopping number (start.exchanges actions) next := by
  refine run_induction (motive := fun actions final => ∃ next, final.reads[number]? = some next ∧
    Stopping number (start.exchanges actions) next) ⟨read, found, told, by simp [undecided]⟩ ?_ ran
  rintro actions middle action final ranBefore ⟨next, there, stopping⟩ stepped
  rcases (Move.of_step? stepped).readFate there with ⟨later, thereLater, fate⟩
  refine ⟨later, thereLater, ?_⟩
  rw [exchanges_concat ranBefore stepped]
  exact stopping.of_fate fate

end Runs

/-! ### Terminal phases -/

section Terminal

variable {before after : Connection} {action : Action} {exchange? : Option Exchange}

/-- That a worker which has decided has decided for a terminal phase. -/
structure Conclusive (connection : Connection) : Prop where
  terminal : ∀ {number : Nat} {read : Read} {ending : ReadEnding},
    connection.reads[number]? = some read → read.stage.decided? = some ending →
    ending.phase.isTerminal = true

theorem Decision.isTerminal {number : Nat} {read : Read} {ending : ReadEnding}
    (decision : Decision number read exchange? ending) : ending.phase.isTerminal = true := by
  cases decision with
  | stopped => rfl
  | divided => rfl
  | polled polled decided =>
      have stop : StopEnding number exchange?.toList ending :=
        .of_poll (by rw [polled]; exact List.mem_singleton.mpr rfl) decided
      cases stop <;> rfl

theorem ReadStart.conclusive {length : Nat} {result : Except Error Nat}
    (start : ReadStart before length after result) :
    ∃ more, after.reads = before.reads ++ more ∧ ∀ read ∈ more, ∀ ending,
      read.stage.decided? = some ending → ending.phase.isTerminal = true := by
  cases start with
  | refused => exact ⟨[], by simp⟩
  | notStarted => exact ⟨[], by simp⟩
  | served => exact ⟨_, rfl, by simp [ReaderStage.decided?, ReadPhase.isTerminal]⟩
  | polls => exact ⟨_, rfl, by simp [ReaderStage.decided?]⟩

/-- A read that a step adds is the one that was started in it. -/
theorem Move.exists_start (move : Move before action exchange? after) {number : Nat} {read : Read}
    (new : before.reads.length ≤ number) (found : after.reads[number]? = some read) :
    ∃ length changed result same, ReadStart before length changed result ∧
      changed.reads[number]? = some same ∧ same.stage = read.stage ∧
        same.session = read.session := by
  have grown : number < after.reads.length := (List.getElem?_eq_some_iff.mp found).1
  have ungrown (same : after.reads.length = before.reads.length) :
      ∃ length changed result same, ReadStart before length changed result ∧
        changed.reads[number]? = some same ∧ same.stage = read.stage ∧
        same.session = read.session := by
    omega
  cases move with
  | @enters made started' changed task permitted entry =>
      cases entry with
      | @reads buffer offset length started number' fits start =>
          have kept : (started.setCustody number' .awaited).reads[number]? = some read := found
          rw [setCustody, changeRead, List.getElem?_modify] at kept
          rcases Option.map_eq_some_iff.mp kept with ⟨same, there, rfl⟩
          refine ⟨length, started, _, same, start, there, ?_⟩
          split <;> exact ⟨rfl, rfl⟩
      | readFails fits start => exact ⟨_, _, _, read, start, found, rfl, rfl⟩
      | writes start =>
          rcases start.frame with ⟨sessions, writes, rfl⟩
          exact ungrown rfl
      | waits => exact ungrown (by simp [addTask, setCustody, changeRead])
      | waitsInto => exact ungrown (by simp [addTask, setCustody, changeRead])
      | _ => exact ungrown rfl
  | startsRead start => exact ⟨_, _, _, read, start, found, rfl, rfl⟩
  | startsWrite start =>
      rcases start.frame with ⟨sessions, writes, rfl⟩
      exact ungrown rfl
  | turns stands turn =>
      have lengths := congrArg List.length turn.readSessions_eq
      simp only [readSessions, List.length_map] at lengths
      exact ungrown lengths
  | answered stands answer =>
      rcases answer.frame with ⟨-, sessions, rfl⟩
      exact ungrown rfl
  | writerTurns there turn =>
      rcases turn.frame with ⟨sessions, writes, rfl⟩
      exact ungrown rfl
  | writerAnswered there answer =>
      rcases answer.frame with ⟨sessions, writes, rfl⟩
      exact ungrown rfl
  | readerTurns there turn => exact ungrown turn.aside.reads
  | _ => exact ungrown (by simp [cancel, setReader, setTask, changeRead])

/-- A read that a step starts is not decided or has been served from the backlog. -/
theorem Move.conclusive_of_new (move : Move before action exchange? after) {number : Nat}
    {read : Read} {ending : ReadEnding} (new : before.reads.length ≤ number)
    (found : after.reads[number]? = some read) (decided : read.stage.decided? = some ending) :
    ending.phase.isTerminal = true := by
  rcases move.exists_start new found with ⟨length, changed, result, same, start, there, stage, -⟩
  rcases start.conclusive with ⟨more, reads, terminal⟩
  rw [reads, List.getElem?_append_right new] at there
  exact terminal same (List.mem_of_getElem? there) ending (stage ▸ decided)

theorem Conclusive.of_move (conclusive : before.Conclusive)
    (move : Move before action exchange? after) :
    after.Conclusive := by
  constructor
  intro number read ending found decided
  rcases Nat.lt_or_ge number before.reads.length with old | new
  · rcases move.readFate (List.getElem?_eq_getElem old) with ⟨next, there, fate⟩
    cases found.symm.trans there
    rcases fate.decision decided with before | now
    · exact conclusive.terminal (List.getElem?_eq_getElem old) before
    · exact now.isTerminal
  · exact move.conclusive_of_new new found decided

theorem conclusive_of_run {locator : Locator} {settings : Settings} {actions : List Action}
    {connection : Connection} (ran : (fresh locator settings).run? actions = some connection) :
    connection.Conclusive := by
  refine run_induction (motive := fun _ connection => connection.Conclusive) ⟨?_⟩ ?_ ran
  · intro number read ending found
    cases found
  intro _ _ _ _ _ conclusive stepped
  exact conclusive.of_move (Move.of_step? stepped)

/-- A worker has reported exactly when others see a terminal phase. -/
theorem Conclusive.isTerminal_eq {connection : Connection} {number : Nat} {read : Read}
    (conclusive : connection.Conclusive) (found : connection.reads[number]? = some read) :
    read.phase.isTerminal = read.isFinished := by
  cases stage : read.stage with
  | ended ending =>
      have decided : read.stage.decided? = some ending := by rw [stage, ReaderStage.decided?]
      have terminal := conclusive.terminal found decided
      simpa [Read.phase, Read.isFinished, Read.ending?, stage] using terminal
  | _ => simp [Read.phase, Read.isFinished, Read.ending?, stage, ReadPhase.isTerminal]

end Terminal

/-! ### Stopping is possible -/

section Possible

variable {connection : Connection} {number : Nat} {read : Read}

/-- What the steps of a worker leave as it is in the eyes of callers. -/
structure Apart (before after : Connection) : Prop where
  tasks : after.tasks = before.tasks
  state : after.state = before.state
  link : after.link = before.link

theorem exists_session_of_unfinished (recorded : connection.Recorded) (owned : connection.Owned)
    (found : connection.reads[number]? = some read) (running : read.isFinished = false) :
    ∃ session, connection.sessions[read.session]? = some session := by
  have duty := recorded.unfinished ⟨read, found, rfl, running⟩
  rcases Option.map_eq_some_iff.mp duty with ⟨link, held, names⟩
  rw [← (Prod.mk.inj names).1]
  exact owned.exists_session held

/-- A worker that was told to stop can come nearer to its end, if the bus answers. -/
theorem exists_nearer (recorded : connection.Recorded) (owned : connection.Owned)
    (found : connection.reads[number]? = some read) (told : read.cancelled = true)
    (running : read.isFinished = false) :
    ∃ action middle stage, connection.step? action = some (middle.setReader number stage) ∧
      middle.reads = connection.reads ∧ Apart connection middle ∧
      stage.remaining < read.stage.remaining := by
  rcases exists_session_of_unfinished recorded owned found running with ⟨session, known⟩
  have same : Apart connection connection := ⟨rfl, rfl, rfl⟩
  cases stage : read.stage with
  | checking =>
      refine ⟨.advance (.reader number), connection, .leaving ⟨.cancelled, .ok []⟩, ?_,
        rfl, same, ?_⟩
      · simp [step?, advance?, advanceReader?, found, stage, told]
      · decide
  | polling =>
      refine ⟨.answer (.reader number) (Sample.bus [] (.ok ())), connection, .checking, ?_,
        rfl, same, ?_⟩
      · simp [step?, pending?, readerPending?, found, known, stage, Sample.bus, afterPoll]
      · decide
  | received data =>
      refine ⟨.advance (.reader number), { connection with backlog := connection.backlog ++ data },
        .leaving ⟨.cancelled, .ok []⟩, ?_, rfl, ⟨rfl, rfl, rfl⟩, ?_⟩
      · simp [step?, advance?, advanceReader?, found, stage, told, divide]
      · simp [ReaderStage.remaining]
  | leaving ending =>
      refine ⟨.advance (.reader number), connection.dropClone read.session,
        if connection.isLastClone read.session then .closing ending else .reporting ending, ?_, rfl,
        ⟨rfl, rfl, rfl⟩, ?_⟩
      · simp [step?, advance?, advanceReader?, found, stage]
      · split <;> simp [ReaderStage.remaining]
  | closing ending =>
      refine ⟨.answer (.reader number) (Sample.bus [] (.ok ())), connection,
        .reporting ending, ?_, rfl, same, ?_⟩
      · simp [step?, pending?, readerPending?, found, known, stage]
      · simp [ReaderStage.remaining]
  | reporting ending =>
      refine ⟨.advance (.reader number), connection, .ended ending, ?_, rfl, same, ?_⟩
      · simp [step?, advance?, advanceReader?, found, stage]
      · simp [ReaderStage.remaining]
  | ended ending => simp [Read.isFinished, Read.ending?, stage] at running

/-- A worker that was told to stop can come to its end while nothing else happens. -/
theorem exists_stopped {locator : Locator} {settings : Settings}
    (reachable : Reachable locator settings connection)
    (found : connection.reads[number]? = some read) (told : read.cancelled = true) :
    ∃ actions after next, connection.run? actions = some after ∧ Apart connection after ∧
      after.reads[number]? = some next ∧ next.isFinished = true := by
  induction turns : read.stage.remaining using Nat.strongRecOn generalizing connection read with
  | ind remaining ih =>
      cases running : read.isFinished with
      | true => exact ⟨[], connection, read, rfl, ⟨rfl, rfl, rfl⟩, found, running⟩
      | false =>
          rcases reachable with ⟨course, ran⟩
          have sound := sound_of_run ran
          rcases exists_nearer sound.recorded sound.owned found told running with
            ⟨action, middle, stage, stepped, reads, apart, less⟩
          have there : (middle.setReader number stage).reads[number]? =
              some { read with stage } := by
            simp [setReader, changeRead, reads, found]
          rcases ih stage.remaining (turns ▸ less) (Reachable.of_step? ⟨course, ran⟩ stepped)
            there told
            rfl with ⟨actions, after, next, ranOn, further, thereAfter, finished⟩
          refine ⟨action :: actions, after, next, ?_, ⟨?_, ?_, ?_⟩, thereAfter, finished⟩
          · simp [run?, stepped, ranOn]
          · exact further.tasks.trans apart.tasks
          · exact further.state.trans apart.state
          · exact further.link.trans apart.link

end Possible

end Connection

end CdcSerial
