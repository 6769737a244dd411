/-
# UltraFabric.Flow — from files to a configuration image

A run reads a chip and a netlist, applies records, puts cells where they are required to be, checks
every placed cell, reserves clock paths and makes the image. Illegal cells are only noted; the run
goes on with them.
-/
import UltraFabric.Chip.Reading
import UltraFabric.Cluster
import UltraFabric.ConfigRecord.Reading
import UltraFabric.Failure
import UltraFabric.Netlist.Reading

namespace UltraFabric

set_option autoImplicit false

/-- The architectures that can be asked for. -/
def architectures : List String := ["ng-ultra"]

/-- An architecture by its name, with settings. -/
def Fabric.create (name : String) (arguments : Arguments) : Except Failure Fabric :=
  if architectures.contains name then
    match Options.ofArguments arguments with
    | .error error => .error (.option error)
    | .ok options =>
      match ClockTables.ofPrimitives with
      | .error conflict => .error (.tierConflict conflict)
      | .ok clocks => .ok (Fabric.ofOptions options clocks)
  else .error (.unknownArchitecture name)

namespace Plan

/-! ### Checking and placing -/

/-- `explainAt` from what is known of the bel, and with `check` for its cell. -/
def explainAs (plan : Plan) (check : Cell → BelId → Placement → Answer (Option Violation))
    (bel : BelId) : Option BelInfo → Answer (Bool × List Notice)
  | none => .ok (false, [])
  | some info =>
    match plan.violationAtBy check bel with
    | .error fault => .error fault
    | .ok none => .ok (true, [])
    | .ok (some (cell, violation)) =>
      .ok (false, [.illegalCell cell (plan.tileName bel.tile) info.name violation])

/-- Whether the cell on a bel may be there, and what speaks against it. -/
def explainAt (plan : Plan) (bel : BelId) : Answer (Bool × List Notice) :=
  plan.explainAs plan.violation? bel (plan.device.bel? bel)

/-- Checks bels in order. -/
def auditFrom (plan : Plan) : List (BelId × Name) → Answer (List (Name × Bool) × List Notice)
  | [] => .ok ([], [])
  | (bel, name) :: rest =>
    match plan.explainAt bel with
    | .error fault => .error fault
    | .ok (legal, notices) =>
      match auditFrom plan rest with
      | .error fault => .error fault
      | .ok (verdicts, more) => .ok ((name, legal) :: verdicts, notices ++ more)

/-- Checks every placed cell. -/
def audit (plan : Plan) : Answer (List (Name × Bool) × List Notice) :=
  plan.auditFrom plan.layout.boundBels

/-- The cells that are required on some bel, by name. -/
def requirements (plan : Plan) : List (Name × Name × BelId) :=
  plan.layout.netlist.cellList.filterMap fun cell =>
    cell.required.map fun bel => (cell.name, cell.type, bel)

/-- Puts cells where they are required, in order, and counts those that cannot be put there. -/
def placeRequiredFrom (plan : Plan) : List (Name × Name × BelId) → Nat × Plan × List Notice
  | [] => (0, plan, [])
  | (name, type, bel) :: rest =>
    if plan.layout.belOf? name = some bel then placeRequiredFrom plan rest
    else if ! plan.fits type bel then
      let (failed, plan, notices) := placeRequiredFrom plan rest
      (failed + 1, plan, .requirementUnfit name :: notices)
    else
      match plan.bind bel name with
      | (true, plan) => placeRequiredFrom plan rest
      | (false, plan) =>
        let (failed, plan, notices) := placeRequiredFrom plan rest
        (failed + 1, plan, .requirementTaken name :: notices)

/-- Puts every cell where it is required to be. -/
def placeRequired (plan : Plan) : Nat × Plan × List Notice :=
  plan.placeRequiredFrom plan.requirements

end Plan

/-! ### A whole run -/

/-- What a run is asked to do. -/
structure Request where
  chip : String
  netlist : String
  /-- Whether the chip is stored as it is. -/
  plainChip : Bool
  architecture : String
  records : Option String
  settings : List String
  image : Option String
  deriving DecidableEq, Repr

/-- An image that is ready to be stored. -/
structure Output where
  path : String
  instances : Nat
  contents : String
  deriving DecidableEq, Repr

/-- A step of a run: notices are kept also when it fails. -/
abbrev Work := ExceptT Failure (StateT (List Notice) Answer)

namespace Work

def note (notices : List Notice) : Work Unit :=
  modify (· ++ notices)

/-- A result whose error ends the run. -/
def orFail {α ε : Type} (failure : ε → Failure) : Except ε α → Work α
  | .ok value => pure value
  | .error error => throw (failure error)

/-- A result whose fault ends everything. -/
def orFault {α : Type} (answer : Answer α) : Work α :=
  ExceptT.lift (StateT.lift answer)

end Work

namespace Request

open Work

/-- The device that a request names, and the names mentioned so far. -/
def loadChip (request : Request) (files : String → Option StoredFile) :
    Except FileError (Chip × Lexicon) :=
  let load := if request.plainChip then StoredFile.load (α := Chip) else StoredFile.loadCompressed
  load Chip.read Lexicon.ofPrimitives request.chip (files request.chip)

/-- Everything up to a plan with its tables. -/
def start (request : Request) (files : String → Option StoredFile) : Work Plan := do
  let arguments ← orFail .option (Arguments.ofSettings request.settings)
  let fabric ← orFail id (Fabric.create request.architecture arguments)
  let (chip, lexicon) ← orFail .file (request.loadChip files)
  orFail .chip (match chip.gridError? with
    | some error => .error error
    | none => .ok ())
  note [.chipLoaded chip.name chip.width chip.height]
  let device ← orFail .chip (Device.ofChip chip)
  let (cells, lexicon) ← orFail .file
    (StoredFile.load Netlist.readCells lexicon request.netlist (files request.netlist))
  let netlist ← orFail .netlist (Netlist.ofCells lexicon cells)
  let layout ← orFail .placement (Layout.ofNetlist device netlist)
  note [.netlistLoaded netlist.cells.size netlist.nets.size]
  let (plan, sizes) := Plan.setUp ⟨lexicon, fabric, layout⟩
  let sizes ← orFail .missingTileData sizes
  note [.tablesFilled sizes.lobes sizes.links sizes.pads sizes.banks]
  return plan

/-- Reads records and applies them. -/
def applyFile (files : String → Option StoredFile) (path : String) (plan : Plan) : Work Plan := do
  let (records, lexicon) ← orFail .file
    (StoredFile.load ConfigRecord.readAll plan.lexicon path (files path))
  note [.recordsFound records.length path]
  let (plan, notices, result) := { plan with lexicon }.applyRecords records
  note notices
  orFail .record result
  return plan

/-- Places and checks. -/
def placeAndCheck (plan : Plan) : Work Plan := do
  let (unplaced, plan, notices) := plan.placeRequired
  note notices
  let (verdicts, notices) ← orFault plan.audit
  note notices
  let illegal := unplaced + (verdicts.filter fun (_, legal) => ! legal).length
  if illegal ≠ 0 then note [.illegalCells illegal]
  return plan

/-- Makes the image that is to be stored at a path. -/
def makeImage (plan : Plan) (path : String) : Work Output := do
  let (notices, result) := plan.image
  note notices
  let image ← orFail .unknownCellType (← orFault result)
  return ⟨path, image.instances.size, image.toDocument.page⟩

/-- The work of a request, up to storing the image. -/
def work (request : Request) (files : String → Option StoredFile) : Work (Option Output) := do
  let mut plan ← request.start files
  if let some path := request.records then
    plan ← applyFile files path plan
  plan ← placeAndCheck plan
  let (pass, result) := plan.beforeRouting
  note pass.notices
  orFail .noPath result
  match request.image with
  | none => return none
  | some path => return some (← makeImage pass.plan path)

/-- What a request leads to: notices, and an image to be stored, if one was asked for. -/
def run (request : Request) (files : String → Option StoredFile) :
    Answer (Except Failure (Option Output) × List Notice) :=
  (request.work files).run.run []

end Request

/-- How a run ended. -/
structure Ending where
  lines : List String
  succeeded : Bool
  deriving DecidableEq, Repr

/-- The end of a run, once it is known whether the image could be stored. -/
def Ending.ofRun (result : Except Failure (Option Output)) (notices : List Notice)
    (stored : Bool) : Ending :=
  match result with
  | .error failure => ⟨notices.map Notice.line ++ [failure.line], false⟩
  | .ok none => ⟨notices.map Notice.line, true⟩
  | .ok (some output) =>
    if stored then
      ⟨(notices ++ [Notice.imageWritten output.instances output.path]).map Notice.line, true⟩
    else ⟨notices.map Notice.line ++ [Failure.output.line], false⟩

end UltraFabric
