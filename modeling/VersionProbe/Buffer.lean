/-
# Buffers

The space that a reply is collected in: a fixed number of bytes, all zero at first, with a mark
among them.  The bytes before the mark have been written, the others have not.

* `content_store`, `size_store` : what is stored comes after what was there, and the space does not
  grow.
-/
namespace VersionProbe

/-- Some bytes and a mark among them. -/
structure Buffer where
  bytes : List UInt8
  filled : Nat
  filled_le : filled ≤ bytes.length

namespace Buffer

/-- The number of bytes that there is space for. -/
def size (b : Buffer) : Nat :=
  b.bytes.length

/-- The number of bytes that have not been written. -/
def room (b : Buffer) : Nat :=
  b.size - b.filled

/-- The bytes that have been written. -/
def content (b : Buffer) : List UInt8 :=
  b.bytes.take b.filled

/-- A buffer of zeros, none of them written. -/
def blank (size : Nat) : Buffer :=
  ⟨List.replicate size 0, 0, Nat.zero_le _⟩

/-- Write a chunk over the bytes at the mark, and move the mark behind it. -/
def store (b : Buffer) (chunk : List UInt8) (fits : chunk.length ≤ b.room) : Buffer where
  bytes := b.content ++ (chunk ++ b.bytes.drop (b.filled + chunk.length))
  filled := b.filled + chunk.length
  filled_le := by
    have hle : b.filled ≤ b.bytes.length := b.filled_le
    have hfits : chunk.length ≤ b.bytes.length - b.filled := fits
    simp only [content, List.length_append, List.length_take, List.length_drop]
    omega

/-! ## Blank buffers -/

@[simp] theorem size_blank (size : Nat) : (blank size).size = size :=
  List.length_replicate

@[simp] theorem filled_blank (size : Nat) : (blank size).filled = 0 := rfl

@[simp] theorem room_blank (size : Nat) : (blank size).room = size := by
  rw [room, size_blank, filled_blank, Nat.sub_zero]

/-- Nothing has been written to a blank buffer. -/
@[simp] theorem content_blank (size : Nat) : (blank size).content = [] := rfl

/-! ## Filling up -/

/-- The mark is never behind the end. -/
theorem filled_le_size (b : Buffer) : b.filled ≤ b.size :=
  b.filled_le

/-- As many bytes have been written as stand before the mark. -/
theorem length_content (b : Buffer) : b.content.length = b.filled := by
  rw [content, List.length_take, Nat.min_eq_left b.filled_le]

section Store

variable (b : Buffer) (chunk : List UInt8) (fits : chunk.length ≤ b.room)

@[simp] theorem filled_store : (b.store chunk fits).filled = b.filled + chunk.length := rfl

/-- Storing a chunk leaves the space as large as it was. -/
@[simp] theorem size_store : (b.store chunk fits).size = b.size := by
  have hle := b.filled_le_size
  rw [room] at fits
  simp only [size, store, List.length_append, length_content, List.length_drop] at *
  omega

@[simp] theorem room_store : (b.store chunk fits).room = b.room - chunk.length := by
  rw [room, size_store, filled_store, room]
  omega

/-- A chunk comes after what was written before, with nothing in between. -/
@[simp] theorem content_store : (b.store chunk fits).content = b.content ++ chunk := by
  show (b.content ++ (chunk ++ _)).take (b.filled + chunk.length) = b.content ++ chunk
  rw [← List.append_assoc, ← b.length_content, ← List.length_append, List.take_left]

end Store

end Buffer

end VersionProbe
