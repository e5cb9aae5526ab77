import PluginSandbox.Memory.Buffer
import PluginSandbox.Memory.Packed
import PluginSandbox.Text.Numeral

/-!
# The arena of shared buffers

Every buffer that guest and host share lives in an arena until it is released.
Buffers have addresses of 32 bits, none of them zero and all of them multiples
of eight; a new buffer goes to the lowest place between the live ones where it
fits. A budget bounds the sum of the sizes.

## Main definitions

* `Block`, `Arena`: live buffers with their addresses, their total size, and
  the budget.
* `Arena.allocate`, `Arena.deallocate`, `Arena.releaseAll`, `Arena.setLimit`.
* `Arena.write`, `Arena.read`: access by pointer and by packed word.
* `Arena.put`: a buffer made of given bytes.
* `Arena.byteAt?`: the memory that the arena stands for.
* `Arena.Valid`: the invariant of its states.
-/

namespace PluginSandbox

open Text

/-- A live buffer at its address. -/
structure Block where
  base : UInt32
  buffer : Buffer
  deriving DecidableEq

namespace Block

/-- The first address of the buffer. -/
def start (block : Block) : Nat := block.base.toNat

/-- The address behind the last one of the buffer. -/
def stop (block : Block) : Nat := block.start + block.buffer.size

/-- The address lies in the buffer. -/
def covers (block : Block) (address : Nat) : Bool :=
  block.start ≤ address && address < block.stop

end Block

/-- The live buffers of one guest. -/
structure Arena where
  /-- The live buffers by address, the lowest first. -/
  blocks : List Block
  /-- The sum of the sizes of the live buffers. -/
  total : Nat
  /-- The budget for that sum. -/
  limit : UInt64
  deriving DecidableEq

namespace Arena

/-- The multiple of which every address is. -/
def alignment : Nat := 8

/-- The least multiple of the alignment that is no smaller. -/
def alignUp (n : Nat) : Nat := (n + (alignment - 1)) / alignment * alignment

/-- An arena without buffers. -/
def new (limit : UInt64) : Arena := ⟨[], 0, limit⟩

/-- The number of live buffers. -/
def count (a : Arena) : Nat := a.blocks.length

/-- The arena on one line. -/
def describe (a : Arena) : String :=
  let digits (n : Nat) : String := String.ofList (showNat n)
  "MemoryArena \x7b allocations: " ++ digits a.count ++ ", allocated_bytes: " ++ digits a.total ++
    ", limit: " ++ digits a.limit.toNat ++ " \x7d"

/-- The lowest aligned place, from `candidate` on, where a buffer fits before or between others. -/
def firstFit (size : Nat) : (candidate : Nat) → List Block → Nat
  | candidate, [] => candidate
  | candidate, b :: bs =>
    if candidate + size ≤ b.start then candidate
    else firstFit size (max candidate (alignUp b.stop)) bs

/-- An address for a new buffer. -/
def assign (a : Arena) (size : Nat) : Except BoundaryError UInt32 :=
  let place := firstFit size alignment a.blocks
  if maxNat32 < place + size then .error (.noAddresses size) else .ok (UInt32.ofNat place)

/-- Puts a buffer among others by address, in place of one at the same address. -/
def insertBlock (block : Block) : List Block → List Block
  | [] => [block]
  | b :: bs =>
    if block.base = b.base then block :: bs
    else if block.base < b.base then block :: b :: bs
    else b :: insertBlock block bs

/-- A new buffer of zero bytes. Of size zero there is none, at the null pointer. -/
def allocate (a : Arena) (size : UInt32) : Except BoundaryError UInt32 × Arena :=
  if size = 0 then (.ok 0, a)
  else
    let requested := size.toNat
    if a.limit.toNat < min (a.total + requested) maxNat64 then
      (.error (.overBudget requested a.total a.limit.toNat), a)
    else match a.assign requested with
      | .error e => (.error e, a)
      | .ok base =>
        (.ok base, { a with
          blocks := insertBlock ⟨base, .zeros requested⟩ a.blocks
          total := a.total + requested })

/-- Releases the buffer at an address; the size that is given does not matter. -/
def deallocate (a : Arena) (ptr _size : UInt32) : Arena :=
  match a.blocks.find? fun b => b.base = ptr with
  | some block => { a with
      blocks := a.blocks.filter fun b => b.base ≠ ptr
      total := a.total - block.buffer.size }
  | none => a

/-- Releases all buffers. -/
def releaseAll (a : Arena) : Arena := { a with blocks := [], total := 0 }

/-- Changes the budget. Live buffers stay. -/
def setLimit (a : Arena) (limit : UInt64) : Arena := { a with limit := limit }

/-- The last buffer that does not start behind a pointer. -/
def blockBelow? (a : Arena) (ptr : UInt32) : Option Block :=
  (a.blocks.filter fun b => b.base ≤ ptr).getLast?

/-- The buffer that contains a range, and the offset of the range in it. -/
def locate (a : Arena) (ptr : UInt32) (len : Nat) : Except BoundaryError (Block × Nat) :=
  match a.blockBelow? ptr with
  | none => .error (.unknownPointer ptr)
  | some block =>
    let offset := ptr.toNat - block.start
    if block.buffer.size ≤ offset then .error (.unknownPointer ptr)
    else
      let available := block.buffer.size - offset
      if available < len then .error (.outOfBounds ptr len available) else .ok (block, offset)

/-- The bytes that a packed word describes. -/
def read (a : Arena) (packed : UInt64) : Except BoundaryError (List UInt8) :=
  match unpack packed with
  | .error e => .error e
  | .ok (ptr, len) =>
    if len = 0 then .ok []
    else match a.locate ptr len.toNat with
      | .error e => .error e
      | .ok (block, offset) => .ok (block.buffer.read offset len.toNat)

/-- Writes bytes from a pointer on. -/
def write (a : Arena) (ptr : UInt32) (bytes : List UInt8) : Except BoundaryError Unit × Arena :=
  if bytes = [] then (.ok (), a)
  else match a.locate ptr bytes.length with
    | .error e => (.error e, a)
    | .ok (block, offset) =>
      (.ok (), { a with
        blocks := a.blocks.map fun b =>
          if b.base = block.base then ⟨b.base, b.buffer.write offset bytes⟩ else b })

/-- A new buffer made of bytes, as a packed word. -/
def put (a : Arena) (bytes : List UInt8) : Except BoundaryError UInt64 × Arena :=
  if bytes = [] then (.ok 0, a)
  else if maxNat32 < bytes.length then
    (.error (.overBudget bytes.length a.total a.limit.toNat), a)
  else
    let size := UInt32.ofNat bytes.length
    match a.allocate size with
    | (.error e, a') => (.error e, a')
    | (.ok ptr, a') =>
      match a'.write ptr bytes with
      | (.error e, a'') => (.error e, a'')
      | (.ok _, a'') => (pack ptr size, a'')

/-- Releases the buffer that a packed word describes. -/
def deallocatePacked (a : Arena) (packed : UInt64) : Except BoundaryError Unit × Arena :=
  match unpack packed with
  | .error e => (.error e, a)
  | .ok (ptr, len) => (.ok (), a.deallocate ptr len)

/-- The byte at an address, if the address lies in a live buffer. -/
def byteAt? (a : Arena) (address : Nat) : Option UInt8 :=
  (a.blocks.find? fun b => b.covers address).map fun b => b.buffer.byteAt (address - b.start)

/-- The sum of the sizes of buffers. -/
def sizeOfAll : List Block → Nat
  | [] => 0
  | b :: bs => b.buffer.size + sizeOfAll bs

/-- What holds of every arena that operations lead to. -/
structure Valid (a : Arena) : Prop where
  /-- Addresses are multiples of the alignment, and not zero. -/
  aligned : ∀ b ∈ a.blocks, 0 < b.start ∧ b.start % alignment = 0
  /-- Buffers are not empty and end within the addresses of 32 bits. -/
  bounded : ∀ b ∈ a.blocks, 0 < b.buffer.size ∧ b.stop ≤ maxNat32
  /-- Buffers are kept by address and do not overlap. -/
  separated : a.blocks.Pairwise fun b c => b.stop ≤ c.start
  /-- The total is the sum of the sizes. -/
  total_eq : a.total = sizeOfAll a.blocks

theorem valid_new (limit : UInt64) : (new limit).Valid where
  aligned := by simp [new]
  bounded := by simp [new]
  separated := by simp [new]
  total_eq := by simp [new, sizeOfAll]

theorem valid_releaseAll (a : Arena) : a.releaseAll.Valid where
  aligned := by simp [releaseAll]
  bounded := by simp [releaseAll]
  separated := by simp [releaseAll]
  total_eq := by simp [releaseAll, sizeOfAll]

theorem Valid.setLimit {a : Arena} (h : a.Valid) (limit : UInt64) : (a.setLimit limit).Valid where
  aligned := h.aligned
  bounded := h.bounded
  separated := h.separated
  total_eq := h.total_eq

end Arena

end PluginSandbox
