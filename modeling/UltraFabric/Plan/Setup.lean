/-
# UltraFabric.Plan.Setup — what follows from the device

`Plan.setUp` fills the tables of a plan from its device and counts what the placed cells use. It
fails when a clock buffer has no lobe; the names of the tiles are known by then.
-/
import UltraFabric.Plan.Binding

namespace UltraFabric

set_option autoImplicit false

namespace Tables

/-- The pads of a device, with the banks they belong to. -/
def padEntries (device : Device) : List (BelId × BelInfo) :=
  device.bels.filter fun (_, info) => Primitive.bucket info.type = "IOP"

def padName (tiles : TileNames) (bel : BelId) (info : BelInfo) : String :=
  s!"{tiles.bank bel.tile}_{info.name}"

def padsOf (device : Device) (tiles : TileNames) : Std.ExtTreeMap String BelId :=
  (padEntries device).foldl (fun pads (bel, info) => pads.insert (padName tiles bel info) bel) ∅

def banksOf (device : Device) (tiles : TileNames) : Std.ExtTreeSet String :=
  (padEntries device).foldl (fun banks (bel, _) => banks.insert (tiles.bank bel.tile)) ∅

def ringPinsOf (device : Device) : Std.ExtTreeMap BelId Name :=
  (padEntries device).foldl (fun pins (bel, info) =>
    match info.isGlobal, info.pins.find? (·.direction = .output) with
    | true, some pin => pins.insert bel pin.name
    | _, _ => pins) ∅

def bankClocksOf (chip : Chip) : Std.ExtTreeMap Name (Name × Name) :=
  chip.bankClocks.foldl (fun clocks clock =>
    clocks.insert clock.bank (clock.sourceTile, clock.generatorTile)) ∅

/-- The tables of a device whose clock buffers are known. -/
def ofDevice (device : Device) (tiles : TileNames)
    (buffers : Std.ExtTreeMap Nat (List ClockBuffer)) : Tables where
  tiles := tiles
  bankClocks := bankClocksOf device.chip
  buffers := buffers
  cascade := device.cascade
  pads := padsOf device tiles
  banks := banksOf device tiles
  ringPins := ringPinsOf device

end Tables

/-- How much the tables hold. -/
structure TableSizes where
  lobes : Nat
  links : Nat
  pads : Nat
  banks : Nat
  deriving DecidableEq, Repr

def Tables.sizes (tables : Tables) : TableSizes :=
  ⟨tables.buffers.size, tables.cascade.size, tables.pads.size, tables.banks.size⟩

namespace Plan

/-- A plan with other tables. -/
def withTables (plan : Plan) (tables : Tables) : Plan :=
  { plan with fabric := { plan.fabric with tables } }

/-- Fills the tables from the device and counts anew. -/
def setUp (plan : Plan) : Plan × Except MissingTileData TableSizes :=
  let tiles := TileNames.ofChip plan.device.chip
  let named := { plan with lexicon := plan.lexicon.mentionAll tiles.names.toList }
  match ClockBuffer.byLobe plan.device tiles with
  | .error missing =>
    let tables := { plan.fabric.tables with
      tiles := tiles
      bankClocks := Tables.bankClocksOf plan.device.chip }
    (named.withTables tables, .error missing)
  | .ok buffers =>
    let tables := Tables.ofDevice plan.device tiles buffers
    let filled := named.withTables tables
    ({ filled with fabric := { filled.fabric with occupancy := filled.recount } },
      .ok tables.sizes)

end Plan

end UltraFabric
