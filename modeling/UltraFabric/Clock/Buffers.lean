/-
# UltraFabric.Clock.Buffers — giving clock nets their buffers

Every lobe has a list of global clock buffers, and each clock net that is used in the lobe needs one
of its own that accepts the net's origin. Requests are served in order: each takes the first free
buffer that accepts it, or the one nearest to its driver. `assign` ends at the first request without
a buffer.
-/
import UltraFabric.Device
import UltraFabric.Clock.Tier

namespace UltraFabric

set_option autoImplicit false

/-- Which of the free buffers a request takes. -/
inductive BufferChoice where
  /-- The first in the list. -/
  | firstFit
  /-- The one nearest to the driver, the first of those. -/
  | nearest
  deriving DecidableEq, Repr

/-- A global clock buffer and the origins it accepts. -/
structure ClockBuffer where
  bel : BelId
  sources : ClockSources
  deriving DecidableEq, Repr

def ClockBuffer.accepts (buffer : ClockBuffer) : DriverTier → Bool
  | .ring => buffer.sources.ring
  | .tube => buffer.sources.tube
  | .fabric => buffer.sources.fabric

/-- A clock net that needs a buffer. -/
structure ClockRequest where
  net : Name
  tier : DriverTier
  /-- Where the driver of the net is placed. -/
  driver : Option Loc
  deriving DecidableEq, Repr

namespace ClockBuffer

/-- The location of a bel; it has to be one of the device. -/
def locate (device : Device) (bel : BelId) : Answer Loc :=
  Fault.outOfRange.unless (device.location? bel)

/-- The buffers, with their places in the list, that are not used yet and accept a tier. -/
def free (buffers : List ClockBuffer) (used : List Nat) (tier : DriverTier) :
    List (ClockBuffer × Nat) :=
  buffers.zipIdx.filter fun (buffer, index) => ! used.contains index && buffer.accepts tier

/-- The first index with the least distance. -/
def leastDistance? : List (Nat × Nat) → Option (Nat × Nat)
  | [] => none
  | (index, distance) :: rest =>
    match leastDistance? rest with
    | none => some (index, distance)
    | some (other, least) =>
      if distance ≤ least then some (index, distance) else some (other, least)

/-- Free buffers by their distance from a driver. -/
def distances (device : Device) (driver : Loc) :
    List (ClockBuffer × Nat) → Answer (List (Nat × Nat))
  | [] => .ok []
  | (buffer, index) :: rest =>
    match locate device buffer.bel with
    | .error fault => .error fault
    | .ok location =>
      match distances device driver rest with
      | .error fault => .error fault
      | .ok more => .ok ((index, location.manhattan driver) :: more)

/-- The buffer that a request takes. -/
def choose? (device : Device) (choice : BufferChoice) (free : List (ClockBuffer × Nat))
    (driver : Option Loc) : Answer (Option Nat) :=
  match choice, driver with
  | .nearest, some driver =>
    match distances device driver free with
    | .error fault => .error fault
    | .ok distances => .ok ((leastDistance? distances).map Prod.fst)
  | _, _ => .ok (free.head?.map Prod.snd)

/-- Serves requests in order, given the buffers used before. -/
def assignFrom (device : Device) (choice : BufferChoice) (buffers : List ClockBuffer) :
    List Nat → List ClockRequest → Answer (Option (List Nat))
  | _, [] => .ok (some [])
  | used, request :: rest =>
    match choose? device choice (free buffers used request.tier) request.driver with
    | .error fault => .error fault
    | .ok none => .ok none
    | .ok (some index) =>
      match assignFrom device choice buffers (index :: used) rest with
      | .error fault => .error fault
      | .ok served => .ok (served.map (index :: ·))

/-- A buffer for every request, as places in the list of buffers, or none when some request is left
without one. -/
def assign (device : Device) (choice : BufferChoice) (buffers : List ClockBuffer)
    (requests : List ClockRequest) : Answer (Option (List Nat)) :=
  assignFrom device choice buffers [] requests

end ClockBuffer

end UltraFabric
