/-
# UltraFabric.Compressed.Bits — reading single bits

Compressed data is a stream of bits: the bytes in order, each from its least bit up. A number of
several bits has its least bit first.
-/
namespace UltraFabric.Compressed

set_option autoImplicit false

/-- A place in a stream of bits. -/
structure Cursor where
  bytes : ByteArray
  /-- How many bits have been taken. -/
  position : Nat

/-- Taking something from a stream; none when the stream ends or makes no sense. -/
abbrev Take := StateT Cursor Option

namespace Take

def fail {α : Type} : Take α :=
  fun _ => none

/-- Something that has to be there. -/
def present {α : Type} : Option α → Take α
  | some value => pure value
  | none => fail

/-- The next bit. -/
def bit : Take Nat := fun cursor =>
  match cursor.bytes[cursor.position / 8]? with
  | some byte =>
    some ((byte.toNat >>> (cursor.position % 8)) % 2,
      { cursor with position := cursor.position + 1 })
  | none => none

/-- A number of so many bits. -/
def bits : Nat → Take Nat
  | 0 => pure 0
  | count + 1 => do
    let least ← bit
    return least + 2 * (← bits count)

/-- Goes on at the next whole byte. -/
def alignToByte : Take Unit :=
  modify fun cursor => { cursor with position := (cursor.position + 7) / 8 * 8 }

/-- How many bits are left. No step of a reading takes less than one. -/
def remaining : Take Nat := do
  let cursor ← get
  return cursor.bytes.size * 8 - cursor.position

end Take

end UltraFabric.Compressed
