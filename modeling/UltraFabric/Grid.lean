/-
# UltraFabric.Grid — where things are on a chip

Bels, wires and pips are named by a tile and an index into the list of that tile's type. A bel also
has a location: the coordinates of its tile and a height inside the tile. Coordinates are whole
numbers of 32 bits that are read as signed, so a count that does not fit appears negative
(`signed32`).
-/
import Std.Data.ExtTreeMap

namespace UltraFabric

set_option autoImplicit false

/-- What an id names inside its tile. -/
inductive Resource where
  | bel
  | wire
  | pip
  deriving DecidableEq, Repr

/-- A tile and an index into the tile's bels, wires or pips. -/
structure Id (resource : Resource) where
  tile : Nat
  index : Nat
  deriving DecidableEq, Repr

abbrev BelId := Id .bel
abbrev WireId := Id .wire
abbrev PipId := Id .pip

namespace Id

variable {resource : Resource}

/-- By tile, then by index. -/
instance : Ord (Id resource) where
  compare := compareLex (compareOn Id.tile) (compareOn Id.index)

instance : Std.TransOrd (Id resource) :=
  inferInstanceAs (Std.TransCmp (compareLex (compareOn Id.tile) (compareOn Id.index)))

instance : Std.LawfulEqOrd (Id resource) where
  eq_of_compare := by
    rintro ⟨tile, index⟩ ⟨tile', index'⟩ h
    have h : (compare tile tile').then (compare index index') = .eq := h
    rw [Ordering.then_eq_eq] at h
    simp only [Std.LawfulEqCmp.compare_eq_iff_eq] at h
    simp [h.1, h.2]

end Id

/-- The signed 32-bit reading of a number. -/
def signed32 (n : Int) : Int :=
  n.bmod 4294967296

theorem signed32_of_lt {n : Nat} (h : n < 2147483648) : signed32 n = n := by
  unfold signed32
  rw [Int.bmod_eq_of_le] <;> omega

/-- The place of a bel: the coordinates of its tile, and its height in the tile. -/
structure Loc where
  x : Int
  y : Int
  z : Int
  deriving DecidableEq, Repr

namespace Loc

/-- By column, then row, then height. -/
instance : Ord Loc where
  compare := compareLex (compareOn Loc.x) (compareLex (compareOn Loc.y) (compareOn Loc.z))

instance : Std.TransOrd Loc :=
  inferInstanceAs (Std.TransCmp
    (compareLex (compareOn Loc.x) (compareLex (compareOn Loc.y) (compareOn Loc.z))))

instance : Std.LawfulEqOrd Loc where
  eq_of_compare := by
    rintro ⟨x, y, z⟩ ⟨x', y', z'⟩ h
    have h : (compare x x').then ((compare y y').then (compare z z')) = .eq := h
    rw [Ordering.then_eq_eq, Ordering.then_eq_eq] at h
    simp only [Std.LawfulEqCmp.compare_eq_iff_eq] at h
    simp [h.1, h.2.1, h.2.2]

/-- Steps along the grid from one location to another; heights do not count. -/
def manhattan (a b : Loc) : Nat :=
  (a.x - b.x).natAbs + (a.y - b.y).natAbs

end Loc

/-- A box of tiles, its edges included. -/
structure TileBox where
  x0 : Int
  y0 : Int
  x1 : Int
  y1 : Int
  deriving DecidableEq, Repr

namespace TileBox

/-- The box that holds a single tile. -/
def around (x y : Int) : TileBox :=
  ⟨x, y, x, y⟩

/-- The least box that holds `box` and one more tile. -/
def extend (box : TileBox) (x y : Int) : TileBox :=
  ⟨min box.x0 x, min box.y0 y, max box.x1 x, max box.y1 y⟩

def contains (box : TileBox) (x y : Int) : Bool :=
  box.x0 ≤ x && x ≤ box.x1 && box.y0 ≤ y && y ≤ box.y1

end TileBox

/-- Why an operation has no answer at all: it was asked about something that is not there. -/
inductive Fault where
  /-- An id names no tile, bel, wire or pip of the device. -/
  | outOfRange
  /-- A coordinate was asked on a grid without columns. -/
  | emptyGrid
  /-- A name was to be cut inside a character. -/
  | splitCharacter
  deriving DecidableEq, Repr

/-- An answer, or a fault. -/
abbrev Answer (α : Type) := Except Fault α

/-- The answer when there is one, and otherwise the fault. -/
def Fault.unless {α : Type} (fault : Fault) : Option α → Answer α
  | some a => .ok a
  | none => .error fault

end UltraFabric
