import CdcSerial.Journal
import CdcSerial.Usb.Request

/-!
# Procedures

A procedure is a course of requests to the bus in which each step may depend on the replies so far.
It is a value that can be stopped after any request and taken up again when the reply is there, so
the same definition serves a caller that runs alone and one of many callers that take turns.
-/

namespace CdcSerial

/-- A course of requests that ends with a result. -/
inductive Procedure (Result : Type) where
  | done (result : Result)
  | say (message : Message) (next : Procedure Result)
  | call (request : Request) (next : request.Reply → Procedure Result)

namespace Procedure

variable {First Second : Type}

/-- One procedure after the other. -/
def bind : Procedure First → (First → Procedure Second) → Procedure Second
  | .done result, continuation => continuation result
  | .say message next, continuation => .say message (next.bind continuation)
  | .call request next, continuation => .call request fun reply => (next reply).bind continuation

instance : Monad Procedure where
  pure := .done
  bind := bind

/-- The procedure that makes one request and ends with the reply. -/
def ask (request : Request) : Procedure request.Reply := .call request .done

/-- The procedure that only writes a message. -/
def note (level : Level) (text : String) : Procedure Unit := .say ⟨level, text⟩ (.done ())

/--
Run a procedure to its end where every request is answered at once by a bus with a state, collecting
the messages.
-/
def run {State : Type} (serve : (request : Request) → State → request.Reply × State) :
    Procedure First → State → First × List Message × State
  | .done result, state => (result, [], state)
  | .say message next, state =>
    let (result, messages, state) := run serve next state
    (result, message :: messages, state)
  | .call request next, state =>
    let (reply, state) := serve request state
    run serve (next reply) state

end Procedure

/-- Where devices come from: a way to enumerate them. -/
structure Source where
  enumerate : Procedure (Except Error Discovery)

namespace Source

/-- The source whose bus enumerates in one call. -/
def direct : Source where
  enumerate := do
    match ← Procedure.ask .enumerate with
    | .ok candidates => return .ok ⟨none, candidates⟩
    | .error status => return .error (.usb status)

end Source

/-- Give up what an enumeration found. -/
def Discovery.forget (discovery : Discovery) : Procedure Unit :=
  match discovery.context with
  | some context => Procedure.ask (.forget context)
  | none => return ()

end CdcSerial
