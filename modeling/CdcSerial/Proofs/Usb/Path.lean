import CdcSerial.Usb.Procedure

/-!
# Paths through procedures

A procedure is a tree that branches at every reply. A path is the list of the requests and replies
that lead from one point of the tree to another; messages on the way are passed over.
-/

namespace CdcSerial

/-- A request and the reply to it. -/
abbrev Event : Type := (request : Request) × request.Reply

namespace Procedure

variable {First Second : Type}

/-- With these replies to its requests, the procedure comes to `rest`. -/
inductive Path : Procedure First → List Event → Procedure First → Prop where
  | here {procedure} : Path procedure [] procedure
  | say {message next events rest} (path : Path next events rest) :
      Path (.say message next) events rest
  | call {request next events rest} (reply : request.Reply) (path : Path (next reply) events rest) :
      Path (.call request next) (⟨request, reply⟩ :: events) rest

namespace Path

variable {procedure middle rest : Procedure First} {events more : List Event}

theorem append (first : Path procedure events middle) (second : Path middle more rest) :
    Path procedure (events ++ more) rest := by
  induction first with
  | here => exact second
  | say path ih => exact .say (ih second)
  | call reply path ih => exact .call reply (ih second)

theorem tells {message : Message} (path : Path procedure events (.say message rest)) :
    Path procedure events rest := by
  have further := path.append (.say .here)
  rwa [List.append_nil] at further

theorem answers {request : Request} {next : request.Reply → Procedure First}
    (path : Path procedure events (.call request next)) (reply : request.Reply) :
    Path procedure (events ++ [⟨request, reply⟩]) (next reply) :=
  path.append (.call reply .here)

/-- A path through two procedures in a row ends in the first or goes through it. -/
theorem of_bind {continuation : First → Procedure Second} {rest : Procedure Second}
    (path : Path (procedure.bind continuation) events rest) :
    (∃ middle, Path procedure events middle ∧ rest = middle.bind continuation) ∨
      ∃ before after result, events = before ++ after ∧ Path procedure before (.done result) ∧
        Path (continuation result) after rest := by
  induction procedure generalizing events with
  | done result => exact .inr ⟨[], events, result, rfl, .here, path⟩
  | say message next ih =>
      cases path with
      | here => exact .inl ⟨_, .here, rfl⟩
      | say path =>
          rcases ih path with ⟨middle, before, eq⟩ | ⟨before, after, result, eq, through, behind⟩
          · exact .inl ⟨middle, .say before, eq⟩
          · exact .inr ⟨before, after, result, eq, .say through, behind⟩
  | call request next ih =>
      cases path with
      | here => exact .inl ⟨_, .here, rfl⟩
      | call reply path =>
          rcases ih reply path with
            ⟨middle, before, eq⟩ | ⟨before, after, result, rfl, through, behind⟩
          · exact .inl ⟨middle, .call reply before, eq⟩
          · exact .inr ⟨_ :: before, after, result, rfl, .call reply through, behind⟩

theorem of_bind_done {continuation : First → Procedure Second} {result : Second}
    (path : Path (procedure.bind continuation) events (.done result)) :
    ∃ before after between, events = before ++ after ∧ Path procedure before (.done between) ∧
      Path (continuation between) after (.done result) := by
  rcases path.of_bind with ⟨middle, through, eq⟩ | ends
  · cases middle with
    | done between =>
        refine ⟨events, [], between, (List.append_nil events).symm, through, ?_⟩
        rw [eq]
        exact .here
    | say message next => cases eq
    | call request next => cases eq
  · exact ends

theorem bind {continuation : First → Procedure Second} {result : First} {rest : Procedure Second}
    (path : Path procedure events (.done result)) (goes : continuation result = rest) :
    Path (procedure.bind continuation) events rest := by
  generalize ends : Procedure.done result = last at path
  induction path with
  | here =>
      subst ends goes
      exact .here
  | say path ih => exact .say (ih ends)
  | call reply path ih => exact .call reply (ih ends)

theorem of_done {result : First} (path : Path (.done result) events rest) :
    events = [] ∧ rest = .done result := by
  cases path with
  | here => exact ⟨rfl, rfl⟩

/-- The paths through two procedures in a row. -/
theorem bind_iff {continuation : First → Procedure Second} {result : Second} :
    Path (procedure.bind continuation) events (.done result) ↔
      ∃ before after between, events = before ++ after ∧ Path procedure before (.done between) ∧
        Path (continuation between) after (.done result) := by
  constructor
  · exact of_bind_done
  · rintro ⟨before, after, between, rfl, through, behind⟩
    exact (through.bind rfl).append behind

end Path

section Running

variable {State : Type} (serve : (request : Request) → State → request.Reply × State)

/-- That a bus with this state gives these replies in turn. -/
def AnsweredBy : State → List Event → Prop
  | _, [] => True
  | state, ⟨request, reply⟩ :: rest =>
    reply = (serve request state).1 ∧ AnsweredBy (serve request state).2 rest

/-- A run on a bus goes along the path of its replies. -/
theorem exists_run_path (procedure : Procedure First) (state : State) :
    ∃ events, AnsweredBy serve state events ∧
      Path procedure events (.done (procedure.run serve state).1) := by
  induction procedure generalizing state with
  | done result => exact ⟨[], trivial, .here⟩
  | say message next ih =>
      rcases ih state with ⟨events, answered, path⟩
      exact ⟨events, answered, .say path⟩
  | call request next ih =>
      rcases ih (serve request state).1 (serve request state).2 with ⟨events, answered, path⟩
      exact ⟨⟨request, _⟩ :: events, ⟨rfl, answered⟩, .call _ path⟩

end Running

end Procedure

end CdcSerial
