/-!
# Faults

What every part of the sandbox reports in the end: a kind that callers act on,
a message, and optional context. Errors of a part also carry an explanation of
the likely cause and a remedy where one is known.

## Main definitions

* `FaultKind`: the kinds, and which of them end a guest call.
* `Fault`: a kind with its message and context.
* `Diagnosable`: errors that explain themselves and turn into faults.
-/

namespace PluginSandbox

/-- What went wrong, as far as a caller has to know. -/
inductive FaultKind where
  /-- Something named does not exist. -/
  | notFound
  /-- A check or a guard refused. -/
  | permissionDenied
  /-- The input cannot be used. -/
  | invalidInput
  /-- Time ran out. -/
  | timeout
  /-- A budget is used up. -/
  | resourceExhausted
  /-- Guest and host disagree about memory. -/
  | protocolViolation
  /-- Anything else. -/
  | internal
  deriving DecidableEq

namespace FaultKind

/-- All kinds. -/
def all : List FaultKind :=
  [notFound, permissionDenied, invalidInput, timeout, resourceExhausted, protocolViolation,
    internal]

/-- The kind ends the current guest call. -/
def isFatal : FaultKind → Bool
  | protocolViolation | resourceExhausted => true
  | _ => false

/-- The name of a kind in messages. -/
def label : FaultKind → String
  | notFound => "NotFound"
  | permissionDenied => "PermissionDenied"
  | invalidInput => "InvalidInput"
  | timeout => "Timeout"
  | resourceExhausted => "ResourceExhausted"
  | protocolViolation => "ProtocolViolation"
  | internal => "Internal"

/-- The name of a kind in data. -/
def code : FaultKind → String
  | notFound => "not_found"
  | permissionDenied => "permission_denied"
  | invalidInput => "invalid_input"
  | timeout => "timeout"
  | resourceExhausted => "resource_exhausted"
  | protocolViolation => "protocol_violation"
  | internal => "internal"

end FaultKind

/-- A reported error. -/
structure Fault where
  kind : FaultKind
  message : String
  context : Option String := none
  deriving DecidableEq

namespace Fault

/-- A fault about something that does not exist. -/
def notFound (message : String) : Fault := ⟨.notFound, message, none⟩

/-- A fault about something that is refused. -/
def permissionDenied (message : String) : Fault := ⟨.permissionDenied, message, none⟩

/-- A fault about unusable input. -/
def invalidInput (message : String) : Fault := ⟨.invalidInput, message, none⟩

/-- The fault with a context. -/
def withContext (fault : Fault) (context : String) : Fault := { fault with context := some context }

/-- One line that shows a fault. -/
def render (fault : Fault) : String :=
  let head := s!"[{fault.kind.label}] {fault.message}"
  match fault.context with
  | some context => s!"{head} ({context})"
  | none => head

end Fault

/-- Errors that explain themselves. -/
class Diagnosable (ε : Type) where
  /-- The kind of fault that the error is. -/
  kind : ε → FaultKind
  /-- What happened. -/
  message : ε → String
  /-- The likely cause. -/
  hint : ε → Option String
  /-- A remedy. -/
  fix : ε → Option String

/-- The fault that an error is reported as. -/
def Diagnosable.toFault {ε : Type} [Diagnosable ε] (e : ε) : Fault := ⟨kind e, message e, none⟩

end PluginSandbox
