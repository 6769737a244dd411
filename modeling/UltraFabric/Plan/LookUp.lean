/-
# UltraFabric.Plan.LookUp — names that are mentioned by asking

A parameter is looked up by its name, and so it is mentioned, whether the cell has it or not. Asking
for the voltage of a pad, for the settings of multiplexers or for an image mentions the names of the
parameters that are asked for, in the order in which they are. The functions of this module give
these names; the answers themselves are given by the functions that ask.

An answer never depends on the names that it mentions itself: they matter for nets of these names
that are made later.
-/
import UltraFabric.Cluster
import UltraFabric.Image

namespace UltraFabric

set_option autoImplicit false

/-- The items up to the first one that satisfies `last`, and that one. -/
def takeThrough {α : Type} (last : α → Bool) : List α → List α
  | [] => []
  | item :: rest => item :: if last item then [] else takeThrough last rest

namespace Cell

/-- The names that the voltage of a cell is looked up by. -/
def namesForVoltage (cell : Cell) : List Name :=
  if ! Primitive.isPad cell.type then []
  else if "voltage" ∈ cell.params then ["voltage"]
  else ["voltage", "standard"]

/-- The names by which a functional element is configured. -/
def namesForElement (cell : Cell) : List Name :=
  let table := if cell.boolParam "lut_used" false then Image.lookupTable else []
  let register :=
    if cell.boolParam "dff_used" false then
      "type" :: if cell.textParam "type" "DFF" = "DFF" then Image.flipFlop.map (·.parameter) else []
    else []
  "lut_used" :: table.map (·.parameter) ++ "dff_used" :: register

/-- The names by which a cell is configured. -/
def namesForImage (cell : Cell) : List Name :=
  if cell.type = "BEYOND_FE" then cell.namesForElement
  else if Primitive.isPad cell.type then Image.pad.map (·.parameter) ++ ["iobname"]
  else ((Image.settingsOf? cell.type).getD []).map (·.parameter)

end Cell

namespace Plan

/-- The names that a cell makes its tracker look up. -/
def namesToTrack (plan : Plan) (name : Name) : List Name :=
  ((plan.cell? name).map Cell.namesForVoltage).getD []

/-- A cell is tracked when it leaves a bel for a free one, and when it arrives. -/
def namesToBind (plan : Plan) (bel : BelId) (name : Name) : List Name :=
  let leaves := (plan.layout.belOf? name).isSome && plan.layout.isFree bel
  if leaves || (plan.bind bel name).1 then plan.namesToTrack name else []

def namesToUnbind (plan : Plan) (bel : BelId) : List Name :=
  ((plan.layout.boundCell? bel).map Cell.namesForVoltage).getD []

/-- All placed cells are tracked when the tables have been filled. -/
def namesToSetUp (plan : Plan) : List Name :=
  plan.layout.boundBels.flatMap fun (_, name) => plan.namesToTrack name

/-! ### Checks -/

def namesToCheck (plan : Plan) (cell : Cell) (bel : BelId) (moves : Placement) : List Name :=
  let stopped := (plan.voltageViolation? cell bel).isSome ||
    (groupViolation? ⟨plan.layout, moves⟩ cell bel).isSome
  let ports := takeThrough (fun port => (portViolation? plan.layout cell bel port).isSome)
    cell.ports.keys
  cell.namesForVoltage ++ if stopped then [] else ports.map settingKey

/-- The names looked up when the cell on a bel is checked. -/
def namesToCheckAt (plan : Plan) (bel : BelId) : List Name :=
  if ! plan.device.isBel bel then []
  else
    match plan.layout.boundCell? bel with
    | some cell => plan.namesToCheck cell bel []
    | none => []

def namesToAudit (plan : Plan) : List Name :=
  plan.layout.boundBels.flatMap fun (bel, _) => plan.namesToCheckAt bel

/-! ### Clusters -/

/-- The names looked up for one member; one that does not fit is not checked. -/
def namesForMember (plan : Plan) (placement : Placement) (name : Name) (bel : BelId) : List Name :=
  match plan.cell? name with
  | some cell => if plan.fits cell.type bel then plan.namesToCheck cell bel placement else []
  | none => []

/-- The names looked up while members are placed one by one, behind the first `count`. -/
def namesForGrowth (plan : Plan) (count : Nat) (placement : Placement) : List Name :=
  (placement.zipIdx.drop count).flatMap fun ((name, bel), index) =>
    plan.namesForMember (placement.take (index + 1)) name bel

/-- The names looked up by the last check of a placement. -/
def namesForFit (plan : Plan) (placement : Placement) : List Name :=
  let fails : Name × BelId → Bool := fun (name, bel) =>
    match (plan.cell? name).map (plan.memberFits · bel placement) with
    | some (.ok true) => false
    | _ => true
  (takeThrough fails placement).flatMap fun (name, bel) => plan.namesForMember placement name bel

def namesToPlaceChildren (plan : Plan) (cell : Cell) (location : Loc) (placement : Placement) :
    List Name :=
  match plan.placeChildren cell location placement with
  | .ok (_, placed) => plan.namesForGrowth placement.length placed
  | .error _ => []

/-- Multipliers are placed without being checked one by one. -/
def namesToPlace (plan : Plan) (cluster : Name) (bel : BelId) : List Name :=
  match (plan.cell? cluster).bind fun root => (plan.rootPlace? root bel).map (root, ·) with
  | none => []
  | some (root, bel, location) =>
    let first := [(root.name, bel)]
    let growth :=
      if root.type = "DSP" ∧ root.children ≠ [] then []
      else plan.namesToPlaceChildren root location first
    match plan.clusterMembers? plan.memberFits root bel location with
    | .ok (some placement) => growth ++ plan.namesForFit placement
    | _ => growth

/-! ### Images -/

/-- The names looked up for an image; a cell that cannot be configured ends it. -/
def namesForImage (plan : Plan) : List Name :=
  let placed := plan.layout.netlist.cellList.filterMap fun cell => cell.bel.map (cell, ·)
  let unknown : Cell × BelId → Bool := fun (cell, bel) =>
    match plan.cellInstances cell bel with
    | .ok _ => false
    | .error _ => true
  (takeThrough unknown placed).flatMap fun (cell, _) => cell.namesForImage

end Plan

end UltraFabric
