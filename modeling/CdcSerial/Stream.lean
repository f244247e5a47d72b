import CdcSerial.Connection.Calls

/-!
# Byte streams

A connection as a stream of bytes: single reads and writes, filling a whole buffer, and sending all
of some data. Filling and sending are loops of single calls. They end with the last byte, or with a
failure when a call moves no byte, or with the failure of a call; one that was only interrupted is
made again.
-/

namespace CdcSerial

namespace Stream

/-- What a stream is doing. -/
inductive Job where
  /-- One read into a buffer. -/
  | read (buffer : List UInt8)
  /-- Filling: the bytes that have come, and the part of the buffer that is left. -/
  | fill (filled left : List UInt8)
  /-- One write. -/
  | write (data : List UInt8)
  /-- Sending: the data that is left. -/
  | send (left : List UInt8)
deriving DecidableEq

/-- How a job ends. A job that reads also gives its buffer, even if it fails. -/
inductive Outcome where
  | stored (count : Nat) (buffer : List UInt8)
  | accepted (count : Nat)
  | done
  | failed (error : SystemError) (buffer : Option (List UInt8))
  /-- A transfer accepted more bytes than there were. -/
  | outOfRange (start length : Nat)
  | overflowed
deriving DecidableEq

/-- What a job does next: a call on its connection, or its end. -/
inductive Progress where
  | next (job : Job) (call : Call)
  | ended (outcome : Outcome)

/-- Begin a job, or go on with it. A job with nothing to move ends at once. -/
def Job.start : Job → Progress
  | .read buffer => .next (.read buffer) (.read buffer 0 buffer.length)
  | .fill filled [] => .ended (.stored filled.length filled)
  | .fill filled left => .next (.fill filled left) (.read left 0 left.length)
  | .write data => .next (.write data) (.write data)
  | .send [] => .ended .done
  | .send left => .next (.send left) (.write left)

/-- Go on with a job after a call failed. -/
def Job.afterFailure (job : Job) (error : SystemError) : Progress :=
  match job with
  | .read buffer => .ended (.failed error (some buffer))
  | .fill filled left =>
    if error.kind = .interrupted then job.start
    else .ended (.failed error (some (filled ++ left)))
  | .write _ => .ended (.failed error none)
  | .send _ => if error.kind = .interrupted then job.start else .ended (.failed error none)

/-- Go on with a job after a call gave an answer. -/
def Job.afterAnswer (job : Job) (answer : Answer) : Progress :=
  match job, answer with
  | .read _, .stored count buffer => .ended (.stored count buffer)
  | .fill filled _, .stored 0 buffer =>
    .ended (.failed .unexpectedEnd (some (filled ++ buffer)))
  | .fill filled _, .stored count buffer =>
    Job.start (.fill (filled ++ buffer.take count) (buffer.drop count))
  | .write _, .accepted count => .ended (.accepted count)
  | .send _, .accepted 0 => .ended (.failed .writeZero none)
  | .send left, .accepted count =>
    if count ≤ left.length then Job.start (.send (left.drop count))
    else .ended (.outOfRange count left.length)
  | _, _ => .ended .done

/-- Go on with a job after its call ended. -/
def Job.resume (job : Job) : Ending → Progress
  | .returned (.ok answer) => job.afterAnswer answer
  | .returned (.error error) => job.afterFailure error.toSystemError
  | .overflowed => .ended .overflowed

end Stream

end CdcSerial
