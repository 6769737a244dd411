/-
# UltraFabric.Proofs.StrictChecks — checks that insist on what they look up

Checks look things up that are there, or so they hope: the data of a bel, the place of the driver of a
clock, the pips into a wire.  The functions here look the same things up and end in a fault wherever an
id names nothing.  Only what a check asks first, and what has an answer for any key, is asked without such
a fault.  What a check makes of what it has been told is not said again: it is one function of the model
for both ways of asking (`Plan.violationBy`, `Plan.placeBy`, `Plan.explainAs`).

Each function gives the very answer of the check that it stands for.  What this takes is that placed
cells are on bels of the device (`Plan.Housed`); everything else that is looked up was given out by the
device.
-/
import UltraFabric.Flow
import UltraFabric.Proofs.Audit
import UltraFabric.Proofs.Ranges

namespace UltraFabric

set_option autoImplicit false

/-! ### Looking up what has to be there -/

namespace Device

def fetchTile (device : Device) (tile : Nat) : Answer TileType :=
  Fault.outOfRange.unless (device.chip.tileType? tile)

def fetchBel (device : Device) (bel : BelId) : Answer BelInfo :=
  Fault.outOfRange.unless (device.bel? bel)

def fetchWire (device : Device) (wire : WireId) : Answer WireInfo :=
  Fault.outOfRange.unless (device.wire? wire)

/-- A pip with the wires at its ends. -/
def fetchArc (device : Device) (pip : PipId) : Answer Arc :=
  Fault.outOfRange.unless (device.arc? pip)

variable {device : Device}

theorem fetchBel_of_isBel {bel : BelId} (isBel : device.isBel bel = true) :
    ∃ info, device.bel? bel = some info ∧ device.fetchBel bel = .ok info := by
  obtain ⟨info, found⟩ := Option.isSome_iff_exists.1 isBel
  exact ⟨info, found, by rw [fetchBel, found]; rfl⟩

theorem locate_of_isBel {bel : BelId} (isBel : device.isBel bel = true) :
    ∃ location, device.location? bel = some location ∧ ClockBuffer.locate device bel = .ok location := by
  obtain ⟨info, found⟩ := Option.isSome_iff_exists.1 isBel
  have located : device.location? bel = some (device.chip.locationOf bel info) := by
    rw [location?, found, Option.map_some]
  exact ⟨_, located, by rw [ClockBuffer.locate, located]; rfl⟩

theorem fetchArc_of_mem {arc : Arc} (there : arc ∈ device.arcs) :
    device.fetchArc arc.pip = .ok arc := by
  rw [fetchArc, mem_arcs_iff.1 there]
  rfl

/-- Pips of the device are fetched as they are. -/
theorem fetchArcs_of_mem (arcs : List Arc) (there : ∀ arc ∈ arcs, arc ∈ device.arcs) :
    (arcs.mapM fun arc => device.fetchArc arc.pip) = .ok arcs := by
  induction arcs with
  | nil => rfl
  | cons arc rest ih =>
      obtain ⟨first, others⟩ := List.forall_mem_cons.1 there
      rw [List.mapM_cons, fetchArc_of_mem first, ih others]
      rfl

end Device

/-- Cells are placed on bels of the device. -/
def Plan.Housed (plan : Plan) : Prop :=
  ∀ name bel, plan.layout.belOf? name = some bel → plan.device.isBel bel = true

theorem Layout.BelsAgree.housed {plan : Plan} (agree : plan.layout.BelsAgree) : plan.Housed :=
  fun name bel placed => agree.onDevice bel name ((agree.placed_iff bel name).2 placed)

namespace Strict

/-- Whether an id names a bel.  The tile is asked for first, and then it has to have a type. -/
def isBel (device : Device) (bel : BelId) : Answer Bool :=
  if device.tileCount ≤ bel.tile then .ok false
  else (device.fetchTile bel.tile).map fun type => decide (bel.index < type.bels.size)

theorem isBel_eq (device : Device) (bel : BelId) : isBel device bel = .ok (device.isBel bel) := by
  unfold isBel
  split
  · rename_i outside
    have missing : device.chip.tileType? bel.tile = none := by
      rw [Chip.tileType?, Array.getElem?_eq_none outside, Option.bind_none]
    rw [Device.isBel, Device.bel?, Chip.belInfo?, missing]
    rfl
  · rename_i inside
    obtain ⟨_, ⟨type, typed⟩, _⟩ := Device.hasTile_of_lt (Nat.lt_of_not_le inside)
    rw [Device.fetchTile, typed, Device.isBel, Device.bel?, Chip.belInfo?, typed, Option.bind_some]
    by_cases there : bel.index < type.bels.size <;> simp [Fault.unless, Except.map, there]

/-- `Device.bel?`: the bel is fetched if it is there. -/
def bel? (device : Device) (bel : BelId) : Answer (Option BelInfo) := do
  if ← isBel device bel then return some (← device.fetchBel bel)
  else return none

theorem bel?_eq (device : Device) (bel : BelId) : bel? device bel = .ok (device.bel? bel) := by
  rw [bel?, isBel_eq]
  cases there : device.isBel bel with
  | true =>
      obtain ⟨info, found, fetched⟩ := Device.fetchBel_of_isBel there
      simp only [found, fetched, bind, Except.bind, if_true]
      rfl
  | false =>
      have missing : device.bel? bel = none := by
        simpa [Device.isBel] using there
      rw [missing]
      rfl

/-- `Device.location?`. -/
def location? (device : Device) (bel : BelId) : Answer (Option Loc) := do
  if ← isBel device bel then return some (← ClockBuffer.locate device bel)
  else return none

theorem location?_eq (device : Device) (bel : BelId) :
    location? device bel = .ok (device.location? bel) := by
  rw [location?, isBel_eq]
  cases there : device.isBel bel with
  | true =>
      obtain ⟨location, located, fetched⟩ := Device.locate_of_isBel there
      simp only [located, fetched, bind, Except.bind, if_true]
      rfl
  | false =>
      have missing : device.location? bel = none := by
        simpa [Device.isBel, Device.location?] using there
      rw [missing]
      rfl

/-- `Device.pinWire?` of a bel that has to be there. -/
def pinWire (device : Device) (bel : BelId) (pin : Name) : Answer (Option WireId) :=
  (device.fetchBel bel).map (device.wireAt? bel pin)

theorem pinWire_eq {device : Device} {bel : BelId} (isBel : device.isBel bel = true) (pin : Name) :
    pinWire device bel pin = .ok (device.pinWire? bel pin) := by
  obtain ⟨info, found, fetched⟩ := Device.fetchBel_of_isBel isBel
  rw [pinWire, fetched, Device.pinWire?, found, Option.bind_some]
  rfl

/-- `Plan.fits`. -/
def fits (plan : Plan) (type : Name) (bel : BelId) : Answer Bool :=
  (bel? plan.device bel).map (plan.fitsAs type bel)

theorem fits_eq (plan : Plan) (type : Name) (bel : BelId) :
    fits plan type bel = .ok (plan.fits type bel) := by
  rw [fits, bel?_eq]
  rfl

/-! ### Settings of multiplexers -/

/-- `Layout.portSetting?`: the pips into the wire at the port are asked for what they select. -/
def portSetting (layout : Layout) (bel : BelId) (port : Name) : Answer (Option Nat) := do
  match ← pinWire layout.device bel port with
  | none => return none
  | some wire =>
    let _ ← (layout.device.entering wire).mapM fun arc => layout.device.fetchArc arc.pip
    return layout.wireSetting? wire

/-- `Plan.portViolation?`: only a port for which something is wanted is asked about. -/
def portViolation (layout : Layout) (cell : Cell) (bel : BelId) (port : Name) :
    Answer (Option Violation) :=
  match Plan.wantedSetting? cell port with
  | none => .ok none
  | some wanted =>
    (portSetting layout bel port).map fun decoded => decoded.bind (Plan.mismatch? port wanted)

/-- `Plan.settingViolation?`. -/
def settingViolation (layout : Layout) (cell : Cell) (bel : BelId) : Answer (Option Violation) :=
  cell.ports.keys.findSomeM? (portViolation layout cell bel)

section Settings

variable {layout : Layout} {bel : BelId} (isBel : layout.device.isBel bel = true)

include isBel

theorem portSetting_eq (port : Name) :
    portSetting layout bel port = .ok (layout.portSetting? bel port) := by
  rw [portSetting, pinWire_eq isBel, Layout.portSetting?]
  simp only [bind, Except.bind]
  cases layout.device.pinWire? bel port with
  | none => rfl
  | some wire =>
      have entering : ∀ arc ∈ layout.device.entering wire, arc ∈ layout.device.arcs :=
        fun _ member => (Device.mem_entering_iff.1 member).1
      simp only [Device.fetchArcs_of_mem _ entering]
      rfl

theorem portViolation_eq (cell : Cell) (port : Name) :
    portViolation layout cell bel port = .ok (Plan.portViolation? layout cell bel port) := by
  unfold portViolation Plan.portViolation?
  cases Plan.wantedSetting? cell port with
  | none => rfl
  | some wanted =>
      rw [portSetting_eq isBel]
      cases layout.portSetting? bel port <;> rfl

theorem settingViolation_eq (cell : Cell) :
    settingViolation layout cell bel = .ok (Plan.settingViolation? layout cell bel) := by
  have ports : portViolation layout cell bel =
      fun port => (pure (Plan.portViolation? layout cell bel port) : Answer (Option Violation)) :=
    funext (portViolation_eq isBel cell)
  rw [settingViolation, ports, List.findSomeM?_pure]
  rfl

end Settings

/-! ### Clock buffers -/

/-- `Plan.clockRequest`: a driver that is placed is asked for its location. -/
def clockRequest (plan : Plan) (net : Name) : Answer ClockRequest :=
  match ((plan.net? net).bind Net.driver).bind fun driver => plan.layout.belOf? driver.cell with
  | none => .ok (plan.clockRequest net)
  | some bel =>
    (ClockBuffer.locate plan.device bel).map fun location =>
      { plan.clockRequest net with driver := some location }

/-- `Plan.clockViolation?`. -/
def clockViolation (plan : Plan) (moves : Placement) (cell : Cell) (bel : BelId) :
    Answer (Option Violation) :=
  if (plan.bufferedNets cell).isEmpty then .ok none
  else
    plan.capacityVerdict bel (plan.lobeNets moves cell) fun nets => nets.mapM (clockRequest plan)

theorem clockRequest_eq {plan : Plan} (housed : plan.Housed) (net : Name) :
    clockRequest plan net = .ok (plan.clockRequest net) := by
  unfold clockRequest Plan.clockRequest Plan.requestAt
  cases (plan.net? net).bind Net.driver with
  | none => rfl
  | some driver =>
      simp only [Option.bind_some]
      cases placed : plan.layout.belOf? driver.cell with
      | none => rfl
      | some bel =>
          obtain ⟨location, located, fetched⟩ := Device.locate_of_isBel (housed _ bel placed)
          simp only [fetched, Option.bind_some, located]
          rfl

theorem clockViolation_eq {plan : Plan} (housed : plan.Housed) :
    clockViolation plan = plan.clockViolation? := by
  have requests : (fun nets : List Name => nets.mapM (clockRequest plan)) =
      fun nets => .ok (nets.map plan.clockRequest) := by
    funext nets
    rw [show clockRequest plan = fun net => pure (plan.clockRequest net) from
      funext (clockRequest_eq housed), List.mapM_pure]
    rfl
  funext moves cell bel
  rw [clockViolation, Plan.clockViolation?, requests]

/-! ### All checks of a cell on a bel -/

/-- `Plan.violation?`. -/
def violation (plan : Plan) : Cell → BelId → Placement → Answer (Option Violation) :=
  plan.violationBy (settingViolation plan.layout) (clockViolation plan)

/-- Settings are asked for on bels of the device only. -/
theorem violation_eq {plan : Plan} (housed : plan.Housed) : violation plan = plan.violation? := by
  funext cell bel moves
  simp only [violation, Plan.violation?, Plan.violationBy, clockViolation_eq housed]
  cases isBel : plan.device.isBel bel with
  | false => rfl
  | true => rw [settingViolation_eq isBel]

/-- `Plan.explainAt`. -/
def explainAt (plan : Plan) (bel : BelId) : Answer (Bool × List Notice) := do
  plan.explainAs (violation plan) bel (← bel? plan.device bel)

theorem explainAt_eq {plan : Plan} (housed : plan.Housed) (bel : BelId) :
    explainAt plan bel = plan.explainAt bel := by
  rw [explainAt, bel?_eq, violation_eq housed]
  rfl

/-! ### Clusters -/

/-- `Plan.memberFits`. -/
def memberFits (plan : Plan) (cell : Cell) (bel : BelId) (placement : Placement) :
    Answer Bool := do
  if ← fits plan cell.type bel then (violation plan cell bel placement).map Option.isNone
  else return false

theorem memberFits_eq {plan : Plan} (housed : plan.Housed) :
    memberFits plan = plan.memberFits := by
  funext cell bel placement
  rw [memberFits, Plan.memberFits, fits_eq, violation_eq housed]
  rfl

/-- `Plan.rootPlace?`. -/
def rootPlace (plan : Plan) (root : Cell) (bel : BelId) : Answer (Option (BelId × Loc)) :=
  (location? plan.device bel).map (plan.rootFrom? root bel)

theorem rootPlace_eq (plan : Plan) :
    rootPlace plan = fun root bel => .ok (plan.rootPlace? root bel) := by
  funext root bel
  rw [rootPlace, location?_eq]
  rfl

/-- `Plan.place?`. -/
def place (plan : Plan) : Name → BelId → Answer (Option Placement) :=
  plan.placeBy (rootPlace plan) (memberFits plan)

theorem place_eq {plan : Plan} (housed : plan.Housed) : place plan = plan.place? := by
  funext cluster bel
  rw [place, rootPlace_eq, memberFits_eq housed, Plan.place?]

end Strict

/-! ### Every check has an answer -/

namespace Plan

section Total

variable {plan : Plan} (there : ClockBuffer.OnDevice plan.device plan.fabric.tables.buffers)

include there

theorem explainAt_total (bel : BelId) : ∃ verdict, plan.explainAt bel = .ok verdict := by
  unfold explainAt explainAs
  cases found : plan.device.bel? bel with
  | none => exact ⟨_, rfl⟩
  | some info =>
      have isBel : plan.device.isBel bel = true := by rw [Device.isBel, found, Option.isSome_some]
      simp only [violationAtBy]
      cases plan.layout.boundCell? bel with
      | none => exact ⟨_, rfl⟩
      | some cell =>
          obtain ⟨answer, looked⟩ := violation?_total there isBel cell []
          simp only [looked]
          cases answer <;> exact ⟨_, rfl⟩

theorem memberFits_total (cell : Cell) (bel : BelId) (placement : Placement) :
    ∃ suits, plan.memberFits cell bel placement = .ok suits := by
  unfold memberFits
  split
  · rename_i suits
    obtain ⟨answer, looked⟩ := violation?_total there (isBel_of_fits suits) cell placement
    exact ⟨_, by rw [looked]; rfl⟩
  · exact ⟨false, rfl⟩

theorem placeWaiting_total (waiting : List Waiting) (placement : Placement) :
    ∃ answer, plan.placeWaiting plan.memberFits waiting placement = .ok answer := by
  fun_induction placeWaiting plan plan.memberFits waiting placement with
  | case5 placement next rest cell known bel there' unused fault undecided =>
      obtain ⟨suits, decided⟩ := memberFits_total there cell bel (placement ++ [(cell.name, bel)])
      rw [undecided] at decided
      cases decided
  | case7 placement next rest cell known bel there' unused suits ih => exact ih
  | _ => exact ⟨_, rfl⟩

theorem allFit_total (placement rest : Placement) :
    ∃ fit, plan.allFit plan.memberFits placement rest = .ok fit := by
  fun_induction allFit plan plan.memberFits placement rest with
  | case3 name bel rest cell known fault undecided =>
      obtain ⟨suits, decided⟩ := memberFits_total there cell bel placement
      rw [undecided] at decided
      cases decided
  | case5 name bel rest cell known suits ih => exact ih
  | _ => exact ⟨_, rfl⟩

/-- **A cluster is placed or it is not.**  There is an answer for every name and every bel. -/
theorem place?_total (cluster : Name) (bel : BelId) :
    ∃ answer, plan.place? cluster bel = .ok answer := by
  simp only [place?, placeBy]
  cases plan.cell? cluster with
  | none => exact ⟨_, rfl⟩
  | some root =>
      simp only
      cases plan.rootPlace? root bel with
      | none => exact ⟨_, rfl⟩
      | some found =>
          obtain ⟨bel, location⟩ := found
          have members : ∃ answer, plan.clusterMembers? plan.memberFits root bel location = .ok answer := by
            unfold clusterMembers?
            split
            · exact ⟨_, rfl⟩
            · obtain ⟨⟨placed, placement⟩, answer⟩ := placeWaiting_total there
                (root.waitingChildren location) [(root.name, bel)]
              rw [answer]
              cases placed <;> exact ⟨_, rfl⟩
          obtain ⟨members, answer⟩ := members
          simp only [answer]
          cases members with
          | none => exact ⟨_, rfl⟩
          | some placement =>
              obtain ⟨fit, answer⟩ := allFit_total there placement placement
              simp only [answer]
              cases fit <;> exact ⟨_, rfl⟩

end Total

end Plan

end UltraFabric
