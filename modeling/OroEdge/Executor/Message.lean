import OroEdge.Lib.Json
import OroEdge.Lib.Word

/-!
# Commands and their results

The fields of a command that the handlers read, and the result that a handler
returns.  The device id falls back on the environment variable `ORO_DEVICE_ID` and
then on a constant.

The payload stays the JSON value as it came, and each handler reads what it wants of it, as in
the source: nothing is known of a payload when a command is accepted, and a field of the wrong
type is found out only by the handler that reads it.  The other fields have the types of the C++
struct.

The two resolutions at the end are kept apart from the logger, which uses them for its rows,
because a recording needs them as well: its thread captures the device and the dog when it is
started.
-/

namespace OroEdge.Executor

open OroEdge.Lib

/-- `oro::uces::Command`: the fields of the header, and the payload as it came. -/
structure Command where
  signalId : ℕ
  signalType : String
  commandId : String
  issuedBy : String
  eventTime : ℤ
  payload : Json
  deriving Repr

/-- The states that a command goes through; an answer tells the last one. -/
inductive CommandStatus
  | received
  | queued
  | dispatching
  | completed
  | failed
  | timeout
  | rejected
  deriving DecidableEq, Repr

/-- What a handler returns; `data` is what the answer repeats. -/
structure CommandResult where
  success : Bool
  failureReason : String
  data : Json
  deriving Repr

def defaultDeviceId : String := "9e092b69-5973-46e4-a228-fe4933e04364"

/-- `environment` is the value of `ORO_DEVICE_ID`. -/
def resolveDeviceId (environment : Option String) (cmd : Command) : String :=
  match cmd.payload.get? "device_id" with
  | some (.str deviceId) => deviceId
  | _ => environment.getD defaultDeviceId

/-- The dog of a row is the one that the payload names, if it names one. -/
def resolveDogId (cmd : Command) : Option String :=
  match cmd.payload.get? "dog_id" with
  | some (.str dogId) => some dogId
  | _ => none

end OroEdge.Executor
