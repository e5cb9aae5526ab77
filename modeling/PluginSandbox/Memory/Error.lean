import PluginSandbox.Fault
import PluginSandbox.Text.Numeral

/-!
# Errors of the memory boundary

What can go wrong when guest and host exchange buffers. All of them end the
guest call, save for a payload that does not read as its type.

## Main definitions

* `BoundaryError`: the causes, with the values that their messages name.
* `BoundaryError.isFatal`: the call has to end.
-/

namespace PluginSandbox

open Text

/-- What went wrong at the memory boundary. -/
inductive BoundaryError where
  /-- The null pointer with a length. -/
  | nullWithLength (len : UInt32)
  /-- An allocation beyond the budget. -/
  | overBudget (requested current limit : Nat)
  /-- No free range of addresses is large enough. -/
  | noAddresses (requested : Nat)
  /-- A pointer into no live buffer. -/
  | unknownPointer (ptr : UInt32)
  /-- An access beyond the end of a live buffer. -/
  | outOfBounds (ptr : UInt32) (len capacity : Nat)
  /-- The guest call panicked. -/
  | panicked (message : String)
  /-- A payload that does not read as its type. -/
  | badPayload (reason : String)
  deriving DecidableEq

namespace BoundaryError

/-- A pointer in hexadecimal digits. -/
def showPointer (ptr : UInt32) : String := "0x" ++ String.ofList (showHex ptr.toNat)

/-- What happened. -/
def message : BoundaryError → String
  | nullWithLength len =>
    s!"invalid packed value: null pointer with length {len.toNat}"
  | overBudget requested current limit =>
    s!"allocation of {requested} bytes exceeds budget ({current} of {limit} bytes in use)"
  | noAddresses requested => s!"pointer space exhausted while allocating {requested} bytes"
  | unknownPointer ptr => s!"pointer {showPointer ptr} is not tracked by the arena"
  | outOfBounds ptr len capacity =>
    s!"access of {len} bytes at {showPointer ptr} exceeds buffer of {capacity} bytes"
  | panicked message => s!"guest call panicked: {message}"
  | badPayload reason => s!"invalid payload: {reason}"

/-- The kind of fault. -/
def kind : BoundaryError → FaultKind
  | nullWithLength _ | unknownPointer _ | outOfBounds _ _ _ => .protocolViolation
  | overBudget _ _ _ | noAddresses _ => .resourceExhausted
  | panicked _ => .internal
  | badPayload _ => .invalidInput

/-- The guest call has to end. -/
def isFatal : BoundaryError → Bool
  | badPayload _ => false
  | _ => true

/-- The likely cause. -/
def hint : BoundaryError → Option String
  | nullWithLength _ | unknownPointer _ | outOfBounds _ _ _ =>
    some ("The host and guest disagree about a buffer; this indicates memory corruption or a " ++
      "mismatched ABI.")
  | overBudget _ _ limit =>
    some s!"The guest tried to hold more than {limit} bytes of cross-boundary buffers."
  | panicked _ => some "All tracked buffers were released after the panic."
  | _ => none

/-- A remedy. -/
def fix : BoundaryError → Option String
  | overBudget _ _ _ =>
    some ("Raise [abi] max_allocation_bytes in the host config, or free buffers with " ++
      "deallocate.")
  | _ => none

instance : Diagnosable BoundaryError := ⟨kind, message, hint, fix⟩

end BoundaryError

end PluginSandbox
