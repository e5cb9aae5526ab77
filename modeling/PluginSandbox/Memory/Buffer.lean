/-!
# Buffers

The contents of an allocated buffer: zero bytes, and over them what was
written, the latest on top. A large buffer that is hardly written to takes no
room of its own.

## Main definitions

* `Buffer`: a size with the bytes written so far.
* `Buffer.byteAt`: the byte at an offset.
* `Buffer.zeros`, `Buffer.write`, `Buffer.read`: the operations.
-/

namespace PluginSandbox

/-- Bytes written at an offset. -/
structure Patch where
  start : Nat
  bytes : List UInt8
  deriving DecidableEq

/-- A buffer of a fixed size. -/
structure Buffer where
  size : Nat
  /-- What was written, the latest first. -/
  patches : List Patch
  deriving DecidableEq

namespace Buffer

/-- The byte at an offset, after some writes. -/
def byteUnder : List Patch → Nat → UInt8
  | [], _ => 0
  | p :: older, i =>
    if p.start ≤ i then
      match p.bytes[i - p.start]? with
      | some b => b
      | none => byteUnder older i
    else byteUnder older i

/-- The byte at an offset. -/
def byteAt (buffer : Buffer) (i : Nat) : UInt8 := byteUnder buffer.patches i

/-- A buffer of zero bytes. -/
def zeros (size : Nat) : Buffer := ⟨size, []⟩

/-- The buffer with bytes written at an offset. -/
def write (buffer : Buffer) (start : Nat) (bytes : List UInt8) : Buffer :=
  { buffer with patches := ⟨start, bytes⟩ :: buffer.patches }

/-- The bytes of a range. -/
def read (buffer : Buffer) (start len : Nat) : List UInt8 :=
  (List.range len).map fun i => buffer.byteAt (start + i)

@[simp] theorem size_zeros (size : Nat) : (zeros size).size = size := rfl

@[simp] theorem size_write (buffer : Buffer) (start : Nat) (bytes : List UInt8) :
    (buffer.write start bytes).size = buffer.size := rfl

@[simp] theorem byteAt_zeros (size i : Nat) : (zeros size).byteAt i = 0 := rfl

theorem byteAt_write (buffer : Buffer) (start i : Nat) (bytes : List UInt8) :
    (buffer.write start bytes).byteAt i =
      if start ≤ i ∧ i < start + bytes.length then bytes[i - start]?.getD 0
      else buffer.byteAt i := by
  simp only [byteAt, write, byteUnder]
  by_cases h : start ≤ i
  · by_cases hl : i < start + bytes.length
    · have : i - start < bytes.length := by omega
      simp [h, hl, this]
    · have : bytes.length ≤ i - start := by omega
      simp [h, hl, this]
  · simp [h]

@[simp] theorem length_read (buffer : Buffer) (start len : Nat) :
    (buffer.read start len).length = len := by simp [read]

theorem getElem?_read (buffer : Buffer) (start len i : Nat) (h : i < len) :
    (buffer.read start len)[i]? = some (buffer.byteAt (start + i)) := by
  simp [read, h]

end Buffer

end PluginSandbox
