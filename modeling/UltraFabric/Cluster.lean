/-
# UltraFabric.Cluster — placing cells that belong together

The children of a cell are placed relative to it, and their children relative to them; multipliers
are placed along their dedicated links instead. `place?` finds the places of all members for a bel
of the first one, and gives nothing if some member would have no place or an illegal one.

Members wait in a list, a parent's children before the parent's later siblings, and each one that is
placed takes a bel that no other member has. A device has only so many bels (`vacant`), so placing
ends even if cells are each other's children.
-/
import UltraFabric.Legality
import UltraFabric.Shrinking

namespace UltraFabric

set_option autoImplicit false

namespace Device

/-- How many bels of a device a placement leaves. -/
def vacant (device : Device) (placement : Placement) : Nat :=
  (device.bels.filter fun entry => ! placement.any (·.2 = entry.1)).length

/-- What is found at a location is a bel of the device. -/
theorem exists_mem_bels_of_belAt? {device : Device} {location : Loc} {bel : BelId}
    (h : device.belAt? location = some bel) : ∃ info, (bel, info) ∈ device.bels := by
  rw [belAt?, device.indexes_eq] at h
  simp only [Indexes.ofChip, Chip.belsByLocation] at h
  have step : ∀ (entries : List (BelId × BelInfo)) (found : Std.ExtTreeMap Loc BelId),
      (entries.foldl (fun bels entry =>
        bels.insert (device.chip.locationOf entry.1 entry.2) entry.1) found)[location]? = some bel →
      found[location]? = some bel ∨ ∃ info, (bel, info) ∈ entries := by
    intro entries
    induction entries with
    | nil => intro found h; exact Or.inl h
    | cons entry rest ih =>
        intro found h
        rcases ih _ h with h | ⟨info, h⟩
        · rw [Std.ExtTreeMap.getElem?_insert] at h
          split at h
          · right
            refine ⟨entry.2, ?_⟩
            have : entry.1 = bel := by simpa using h
            rw [← this]
            exact List.mem_cons_self
          · exact Or.inl h
        · exact Or.inr ⟨info, List.mem_cons_of_mem _ h⟩
  rcases step _ _ h with h | h
  · simp at h
  · exact h

/-- Placing a cell on a bel that no other cell has leaves fewer bels. -/
theorem vacant_lt {device : Device} {placement : Placement} {name : Name} {bel : BelId}
    {info : BelInfo} (there : (bel, info) ∈ device.bels)
    (unused : ¬ placement.any (·.2 = bel) = true) :
    device.vacant (placement ++ [(name, bel)]) < device.vacant placement := by
  unfold vacant
  refine Shrinking.length_filter_lt (fun other h => ?_) there ?_ ?_
  · rw [List.any_append, Bool.not_or, Bool.and_eq_true] at h
    exact h.1
  · rw [Bool.eq_false_iff.2 unused]; rfl
  · rw [List.any_append]
    simp only [List.any_cons, decide_true, Bool.true_or, Bool.or_true, Bool.not_true]

end Device

/-- A cell that waits to be placed, and the location of the cell whose child it is. -/
structure Waiting where
  name : Name
  parent : Loc
  deriving DecidableEq, Repr

/-- Where a cell belongs when its parent is at a location. -/
def Cell.locationFrom (cell : Cell) (parent : Loc) : Loc where
  x := parent.x + cell.offset.x
  y := parent.y + cell.offset.y
  z := if cell.absoluteZ then cell.offset.z else parent.z + cell.offset.z

/-- The children of a cell at a location, waiting to be placed. -/
def Cell.waitingChildren (cell : Cell) (location : Loc) : List Waiting :=
  cell.children.map fun child => ⟨child, location⟩

namespace Plan

/-- Whether a member of a cluster may stand on a bel when the others are where the placement puts
them. -/
def memberFits (plan : Plan) (cell : Cell) (bel : BelId) (placement : Placement) : Answer Bool :=
  if plan.fits cell.type bel then (plan.violation? cell bel placement).map Option.isNone
  else .ok false

/-- Tells whether a cell may stand on a bel when the others are where a placement puts them. -/
abbrev Suits := Cell → BelId → Placement → Answer Bool

/-- Places all that wait, after `placement`. The answer says whether everything was placed, and how
far placing got. -/
def placeWaiting (plan : Plan) (suits : Suits) (waiting : List Waiting) (placement : Placement) :
    Answer (Bool × Placement) :=
  match waiting with
  | [] => .ok (true, placement)
  | next :: rest =>
    match plan.cell? next.name with
    | none => .ok (false, placement)
    | some cell =>
      match _there : plan.device.belAt? (cell.locationFrom next.parent) with
      | none => .ok (false, placement)
      | some bel =>
        if _taken : placement.any (·.2 = bel) = true then .ok (false, placement)
        else
          match suits cell bel (placement ++ [(cell.name, bel)]) with
          | .error fault => .error fault
          | .ok false => .ok (false, placement ++ [(cell.name, bel)])
          | .ok true =>
            placeWaiting plan suits (cell.waitingChildren (cell.locationFrom next.parent) ++ rest)
              (placement ++ [(cell.name, bel)])
  termination_by plan.device.vacant placement
  decreasing_by
    obtain ⟨info, member⟩ := Device.exists_mem_bels_of_belAt? _there
    exact Device.vacant_lt member _taken

/-- Places the children of a cell at a location, and their children. -/
def placeChildren (plan : Plan) (cell : Cell) (location : Loc) (placement : Placement) :
    Answer (Bool × Placement) :=
  plan.placeWaiting plan.memberFits (cell.waitingChildren location) placement

/-- Places multipliers one after the other along the links that start at `bel`. -/
def placeLinked (plan : Plan) : BelId → List Name → Placement → Option Placement
  | _, [], placement => some placement
  | bel, child :: rest, placement =>
    match plan.fabric.tables.cascade[bel]? with
    | none => none
    | some next =>
      if placement.any (·.2 = next) then none
      else placeLinked plan next rest (placement ++ [(child, next)])

/-- Whether every member may stand where the whole placement puts it. -/
def allFit (plan : Plan) (suits : Suits) (placement : Placement) : Placement → Answer Bool
  | [] => .ok true
  | (name, bel) :: rest =>
    match plan.cell? name with
    | none => .ok false
    | some cell =>
      match suits cell bel placement with
      | .error fault => .error fault
      | .ok false => .ok false
      | .ok true => allFit plan suits placement rest

/-- `rootPlace?` from the location of the bel. -/
def rootFrom? (plan : Plan) (root : Cell) (bel : BelId) : Option Loc → Option (BelId × Loc)
  | none => none
  | some location =>
    if root.absoluteZ then
      let lifted := { location with z := root.offset.z }
      (plan.device.belAt? lifted).map fun bel => (bel, lifted)
    else some (bel, location)

/-- The bel of the first member, which may ask for a height of its own. -/
def rootPlace? (plan : Plan) (root : Cell) (bel : BelId) : Option (BelId × Loc) :=
  plan.rootFrom? root bel (plan.device.location? bel)

/-- The members of a cluster before the last check, if all of them have places. -/
def clusterMembers? (plan : Plan) (suits : Suits) (root : Cell) (bel : BelId) (location : Loc) :
    Answer (Option Placement) :=
  if root.type = "DSP" ∧ root.children ≠ [] then
    .ok (plan.placeLinked bel root.children [(root.name, bel)])
  else
    match plan.placeWaiting suits (root.waitingChildren location) [(root.name, bel)] with
    | .error fault => .error fault
    | .ok (true, placement) => .ok (some placement)
    | .ok (false, _) => .ok none

/-- The places of all members of a cluster when its first member is put on a bel; `rooted` finds the
place of that one. -/
def placeBy (plan : Plan) (rooted : Cell → BelId → Answer (Option (BelId × Loc))) (suits : Suits)
    (cluster : Name) (bel : BelId) : Answer (Option Placement) :=
  match plan.cell? cluster with
  | none => .ok none
  | some root =>
    match rooted root bel with
    | .error fault => .error fault
    | .ok none => .ok none
    | .ok (some (bel, location)) =>
      match plan.clusterMembers? suits root bel location with
      | .error fault => .error fault
      | .ok none => .ok none
      | .ok (some placement) =>
        match plan.allFit suits placement placement with
        | .error fault => .error fault
        | .ok true => .ok (some placement)
        | .ok false => .ok none

def place? (plan : Plan) (cluster : Name) (bel : BelId) : Answer (Option Placement) :=
  plan.placeBy (fun root bel => .ok (plan.rootPlace? root bel)) plan.memberFits cluster bel

end Plan

end UltraFabric
