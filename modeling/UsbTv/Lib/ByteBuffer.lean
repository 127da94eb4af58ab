import Mathlib.Data.Nat.Basic
import Mathlib.Tactic.SplitIfs

set_option relaxedAutoImplicit false
set_option autoImplicit false

/-!
# Byte buffers

A buffer is a block of bytes with a position and a limit: the position is the next byte that is
read or written, and the limit is the first one that is not. A relative read or write moves the
position on and never the limit.

`rewind` goes back to the start and keeps the limit, so what a reader leaves of the limit outlives
it. `flip` makes what was read or written so far the new contents.

The operations throw where their arguments are out of bounds, and leave the buffer alone then. A
result `none` is such an exception.

## Main definitions

* `ByteBuffer` — a block with a position and a limit that are in order.
* `ByteBuffer.put` — the transfer from one buffer to another.
* `ByteBuffer.Op`, `ByteBuffer.Op.call` — what a reader can do.
* `ByteBuffer.IsWhole` — all bytes are yet to be read.

## Main results

* `ByteBuffer.capacity_call` — no reader changes the capacity.
* `ByteBuffer.put_allocate` — a rewound buffer can be put into a new one of its capacity, which
  gets the bytes below the limit.
-/

/-- A block of bytes, with a position and a limit. -/
structure ByteBuffer where
  capacity : ℕ
  limit : ℕ
  position : ℕ
  /-- The bytes of the block, and whatever is behind it. -/
  bytes : ℕ → UInt8
  position_le : position ≤ limit
  limit_le : limit ≤ capacity

namespace ByteBuffer

variable (b : ByteBuffer)

/-- The bytes between the position and the limit. -/
def remaining : ℕ := b.limit - b.position

/-- The buffer of a block. -/
def wrap (capacity : ℕ) (bytes : ℕ → UInt8) : ByteBuffer :=
  ⟨capacity, capacity, 0, bytes, Nat.zero_le _, le_rfl⟩

/-- The buffer of a new block. -/
def allocate (capacity : ℕ) : ByteBuffer := wrap capacity fun _ => 0

/-- Others write the block. -/
def fill (bytes : ℕ → UInt8) : ByteBuffer := { b with bytes := bytes }

/-- Back to the start, with the limit where it is. -/
def rewind : ByteBuffer := { b with position := 0, position_le := Nat.zero_le _ }

/-- Back to the start, with the limit at the position. -/
def flip : ByteBuffer where
  capacity := b.capacity
  limit := b.position
  position := 0
  bytes := b.bytes
  position_le := Nat.zero_le _
  limit_le := le_trans b.position_le b.limit_le

/-- The position is set. -/
def setPosition (newPosition : ℤ) : Option ByteBuffer :=
  if h : 0 ≤ newPosition ∧ newPosition ≤ b.limit then
    some { b with position := newPosition.toNat, position_le := Int.toNat_le.mpr h.2 }
  else none

/-- The limit is set, and a position beyond it too. -/
def setLimit (newLimit : ℤ) : Option ByteBuffer :=
  if h : 0 ≤ newLimit ∧ newLimit ≤ b.capacity then
    some { b with
      limit := newLimit.toNat
      position := min b.position newLimit.toNat
      position_le := min_le_right _ _
      limit_le := Int.toNat_le.mpr h.2 }
  else none

/-- The next `n` bytes are read. -/
def skip (n : ℕ) : Option ByteBuffer :=
  if h : b.position + n ≤ b.limit then some { b with position := b.position + n, position_le := h }
  else none

/-- What remains of a source is put into the buffer. The result is both of them. -/
def put (src : ByteBuffer) : Option (ByteBuffer × ByteBuffer) :=
  if h : b.position + src.remaining ≤ b.limit then
    some ({ b with
        position := b.position + src.remaining
        bytes := fun i =>
          if b.position ≤ i ∧ i < b.position + src.remaining then
            src.bytes (src.position + (i - b.position))
          else b.bytes i
        position_le := h },
      { src with position := src.limit, position_le := le_rfl })
  else none

/-! ## Readers -/

/-- What a reader can do. -/
inductive Op
  /-- The next `n` bytes are read, one by one or as an array. -/
  | get (n : ℕ)
  | position (newPosition : ℤ)
  | limit (newLimit : ℤ)
  | flip
  | rewind
  deriving DecidableEq, Repr

/-- The buffer after an operation, if it does not throw. -/
def Op.apply (b : ByteBuffer) : Op → Option ByteBuffer
  | get n => b.skip n
  | position newPosition => b.setPosition newPosition
  | limit newLimit => b.setLimit newLimit
  | flip => some b.flip
  | rewind => some b.rewind

/-- The buffer after a call of an operation. -/
def Op.call (op : Op) (b : ByteBuffer) : ByteBuffer := (op.apply b).getD b

/-- All bytes are yet to be read. -/
structure IsWhole : Prop where
  position : b.position = 0
  limit : b.limit = b.capacity

/-! ## Small facts -/

/-- The buffer of a block is whole. -/
lemma isWhole_wrap (n : ℕ) (bytes : ℕ → UInt8) : (wrap n bytes).IsWhole := ⟨rfl, rfl⟩

variable {b}

/-- What remains of a whole buffer. -/
lemma IsWhole.remaining_eq (h : b.IsWhole) : b.remaining = b.capacity := by
  rw [remaining, h.position, h.limit, Nat.sub_zero]

/-- Whether a buffer is whole does not depend on its bytes. -/
@[simp] lemma isWhole_fill {bytes : ℕ → UInt8} : (b.fill bytes).IsWhole ↔ b.IsWhole :=
  ⟨fun h => ⟨h.position, h.limit⟩, fun h => ⟨h.position, h.limit⟩⟩

/-- **No reader changes the capacity.** -/
@[simp] lemma capacity_call (op : Op) (b : ByteBuffer) : (op.call b).capacity = b.capacity := by
  cases op with
  | flip | rewind => rfl
  | get n =>
    simp only [Op.call, Op.apply, skip]
    split_ifs <;> rfl
  | position newPosition =>
    simp only [Op.call, Op.apply, setPosition]
    split_ifs <;> rfl
  | limit newLimit =>
    simp only [Op.call, Op.apply, setLimit]
    split_ifs <;> rfl

/-- **A copy of a buffer**: what is put of a rewound buffer into a new one are the bytes below the
limit, and there is room for them. -/
lemma put_allocate (b : ByteBuffer) :
    ∃ clone, (allocate b.capacity).put b.rewind =
        some (clone, { b with position := b.limit, position_le := le_rfl }) ∧
      clone.capacity = b.capacity ∧ clone.position = b.limit ∧
      ∀ i < b.limit, clone.bytes i = b.bytes i := by
  have hroom : (allocate b.capacity).position + b.rewind.remaining ≤
      (allocate b.capacity).limit := by
    show 0 + (b.limit - 0) ≤ b.capacity
    have := b.limit_le
    omega
  unfold put
  rw [dif_pos hroom]
  refine ⟨_, rfl, rfl, Nat.zero_add _, fun i hi => ?_⟩
  show (if 0 ≤ i ∧ i < 0 + (b.limit - 0) then b.bytes (0 + (i - 0)) else 0) = b.bytes i
  rw [if_pos ⟨Nat.zero_le i, by omega⟩, Nat.sub_zero, Nat.zero_add]

end ByteBuffer
