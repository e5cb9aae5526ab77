import PluginSandbox.Memory.Error

/-!
# Packed buffers

A buffer is described by one word of 64 bits: the pointer in the upper half,
the length in the lower half. The empty buffer is zero, and the null pointer
has no other length.

## Main definitions

* `pack`: the word of a pointer and a length.
* `unpack`: the pointer and the length of a word.
-/

namespace PluginSandbox

/-- The word of a pointer and a length. -/
def pack (ptr len : UInt32) : Except BoundaryError UInt64 :=
  if ptr = 0 ∧ 0 < len then .error (.nullWithLength len)
  else .ok (ptr.toUInt64 <<< 32 ||| len.toUInt64)

/-- The pointer and the length of a word. -/
def unpack (packed : UInt64) : Except BoundaryError (UInt32 × UInt32) :=
  let ptr := (packed >>> 32).toUInt32
  let len := packed.toUInt32
  if ptr = 0 ∧ 0 < len then .error (.nullWithLength len) else .ok (ptr, len)

end PluginSandbox
