import PluginSandbox.Codec.Payload
import PluginSandbox.Memory.Arena

/-!
# Guest calls

A guest call is a run of operations on the arena that is completed, or ends in
a panic, or aborts the guest. Recovery turns a panic into an error and releases
all buffers, so that nothing of a failed call is left behind; recoveries may be
nested. An abort cannot be recovered from.

## Main definitions

* `Panic`, `Outcome`: how a computation ends.
* `recover`: a computation with its panics turned into errors.
* `Action`, `Reply`: operations on an arena and their results.
* `Action.run`, `Action.runAll`: the effect of operations.
-/

namespace PluginSandbox

/-- What a panic carries. -/
inductive Panic where
  /-- A text. -/
  | text (message : String)
  /-- Anything else. -/
  | other
  deriving DecidableEq

/-- The text of a panic. -/
def Panic.message : Panic → String
  | text message => message
  | other => "non-string panic payload"

/-- How a computation ends. -/
inductive Outcome (α : Type) where
  /-- With a result. -/
  | returned (a : α)
  /-- By a panic. -/
  | panicked (panic : Panic)
  /-- With the end of the guest. -/
  | aborted
  deriving DecidableEq

/-- A computation with its panics turned into errors; after a panic no buffer is live. -/
def recover {α : Type} (call : Arena → Outcome α × Arena) (a : Arena) :
    Outcome (Except BoundaryError α) × Arena :=
  match call a with
  | (.returned r, a') => (.returned (.ok r), a')
  | (.panicked p, a') => (.returned (.error (.panicked p.message)), a'.releaseAll)
  | (.aborted, a') => (.aborted, a')

/-- How a recovered call ends once its operations are done. -/
structure Ending where
  /-- The first operation that fails ends the call by a panic. -/
  panicOnError : Bool
  /-- The panic at the end, if there is one. -/
  panic : Option Panic
  deriving DecidableEq

/-- An operation on an arena. -/
inductive Action where
  | allocate (size : UInt32)
  | allocateOrAbort (size : UInt32)
  | deallocate (ptr size : UInt32)
  | releaseAll
  | setLimit (limit : UInt64)
  | write (ptr : UInt32) (bytes : List UInt8)
  | read (packed : UInt64)
  | readAt (ptr len : UInt32)
  | put (bytes : List UInt8)
  | deallocatePacked (packed : UInt64)
  /-- Writes the JSON text of a value, if there is one. -/
  | writeJson (payload : Option Payload)
  | readJson (shape : Shape) (packed : UInt64)
  | describe
  | recover (body : List Action) (ending : Ending)

/-- The result of an operation. -/
inductive Reply where
  | nothing
  | pointer (ptr : UInt32)
  | bytes (bytes : List UInt8)
  | packed (packed : UInt64)
  | written (packed : UInt64) (text : String)
  | payload (payload : Payload)
  | line (text : String)
  | failed (error : BoundaryError)
  /-- There was no value to write. -/
  | untyped
  /-- A recovered call, with the error it ended in and the results of its operations. -/
  | recovered (error : Option BoundaryError) (replies : List Reply)

namespace Reply

/-- The result of a computation that may fail. -/
def ofExcept {α : Type} (make : α → Reply) : Except BoundaryError α → Reply
  | .ok a => make a
  | .error e => failed e

/-- What is said about a failure; that a value has not its type is not described. -/
def complaint? : Reply → Option String
  | failed (.badPayload _) => some ""
  | failed e => some e.message
  | untyped => some ""
  | _ => none

/-- The panic that a failure causes. -/
def panic? (r : Reply) : Option Panic :=
  r.complaint?.map fun text => .text ("step failed: " ++ text)

end Reply

/-- The value of a shape in the buffer of a packed word. -/
def Arena.readPayload (a : Arena) (shape : Shape) (packed : UInt64) :
    Except BoundaryError Payload :=
  match a.read packed with
  | .error e => .error e
  | .ok bytes =>
    match Payload.parseBytes shape bytes with
    | some payload => .ok payload
    | none => .error (.badPayload "")

/-- A new buffer with the text of a value, or what is wrong with a value that has none. -/
def Arena.writeText (a : Arena) :
    Except String (List UInt8) → Except BoundaryError UInt64 × Arena
  | .ok bytes => a.put bytes
  | .error reason => (.error (.badPayload reason), a)

/-- A new buffer with the JSON text of a value. -/
def Arena.writePayload (a : Arena) (payload : Payload) : Except BoundaryError UInt64 × Arena :=
  a.writeText (.ok payload.bytes)

namespace Action

/-- How a run of operations ended, with the results of those that were begun. -/
abbrev Run := List Reply × Outcome Unit

/-- The ending of a recovered call. -/
def finish (ending : Ending) : Run → Run
  | (replies, .returned ()) =>
    (replies, match ending.panic with
      | some panic => .panicked panic
      | none => .returned ())
  | run => run

/-- The result of a recovered call. -/
def recovered (run : Run) (a : Arena) : Outcome Reply × Arena :=
  match PluginSandbox.recover (fun a => (run.2, a)) a with
  | (.returned (.ok _), a') => (.returned (.recovered none run.1), a')
  | (.returned (.error e), a') => (.returned (.recovered (some e) run.1), a')
  | (.panicked p, a') => (.panicked p, a')
  | (.aborted, a') => (.aborted, a')

mutual

/-- The effect of an operation. -/
def run : Action → Arena → Outcome Reply × Arena
  | .allocate size, a =>
    let r := a.allocate size
    (.returned (.ofExcept .pointer r.1), r.2)
  | .allocateOrAbort size, a =>
    match a.allocate size with
    | (.ok ptr, a') => (.returned (.pointer ptr), a')
    | (.error _, a') => (.aborted, a')
  | .deallocate ptr size, a => (.returned .nothing, a.deallocate ptr size)
  | .releaseAll, a => (.returned .nothing, a.releaseAll)
  | .setLimit limit, a => (.returned .nothing, a.setLimit limit)
  | .write ptr bytes, a =>
    let r := a.write ptr bytes
    (.returned (.ofExcept (fun _ => .nothing) r.1), r.2)
  | .read packed, a => (.returned (.ofExcept .bytes (a.read packed)), a)
  | .readAt ptr len, a => (.returned (.ofExcept .bytes ((pack ptr len).bind a.read)), a)
  | .put bytes, a =>
    let r := a.put bytes
    (.returned (.ofExcept .packed r.1), r.2)
  | .deallocatePacked packed, a =>
    let r := a.deallocatePacked packed
    (.returned (.ofExcept (fun _ => .nothing) r.1), r.2)
  | .writeJson none, a => (.returned .untyped, a)
  | .writeJson (some payload), a =>
    let r := a.writePayload payload
    (.returned (.ofExcept (fun packed => .written packed payload.text) r.1), r.2)
  | .readJson shape packed, a => (.returned (.ofExcept .payload (a.readPayload shape packed)), a)
  | .describe, a => (.returned (.line a.describe), a)
  | .recover body ending, a =>
    let r := runAll ending.panicOnError body a
    recovered (finish ending r.1) r.2

/-- The effect of operations in turn, as far as they go. -/
def runAll (panicOnError : Bool) : List Action → Arena → Run × Arena
  | [], a => (([], .returned ()), a)
  | action :: more, a =>
    match run action a with
    | (.panicked p, a') => (([], .panicked p), a')
    | (.aborted, a') => (([], .aborted), a')
    | (.returned reply, a') =>
      match if panicOnError then reply.panic? else none with
      | some p => (([reply], .panicked p), a')
      | none =>
        let rest := runAll panicOnError more a'
        ((reply :: rest.1.1, rest.1.2), rest.2)

end

end Action

end PluginSandbox
