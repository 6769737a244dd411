/-
# UltraFabric.Proofs.StrictImage — an image that insists on what it looks up

An image is made of names: of the wires and pips of nets, of the bels of cells, of what clock paths lead
through.  Each is looked up by an id, and the names of wires and tiles are cut on the way.  The reader here
(`Strict.reader`) ends in a fault wherever an id names nothing or a cut cannot be made; from what it reads
the image is put together as from any other (`Image.Reader`).

It gives the very image of a plan (`Strict.image_eq`) when the wires and pips of nets are of the device
(`Plan.RoutesKnown`), cells are placed on bels of it, and so are the reserved bels.  What is left of the
faults is then the fault of the image itself: a site that cannot be cut off.
-/
import UltraFabric.Proofs.Crossings
import UltraFabric.Proofs.StrictChecks
import UltraFabric.Proofs.StrictNames

namespace UltraFabric

set_option autoImplicit false

/-- The wires and pips of all nets are of the device. -/
def Layout.RoutesKnown (layout : Layout) : Prop :=
  ∀ (name : Name) (wire : WireId) (slot : Option PipId), layout.hold? name wire = some slot →
    layout.device.InRange (.wire wire) ∧ ∀ pip, slot = some pip → layout.device.InRange (.pip pip)

namespace Strict

/-- `Plan.cellInstances`: the bel is asked for its name, and the name of its tile is cut for the bank. -/
def cellInstances (plan : Plan) (cell : Cell) (bel : BelId) :
    Answer (Except UnknownCellType (List (String × Instance))) := do
  let _ ← plan.device.fetchBel bel
  let _ ← withoutTileType (plan.tileName bel.tile)
  return plan.cellInstances cell bel

/-- `Plan.reader`. -/
def reader (plan : Plan) : Image.Reader where
  wireName := wireName
  belName bel := (plan.device.fetchBel bel).map BelInfo.name
  pip? pip := (Fault.outOfRange.unless (plan.device.pip? pip)).map some
  instances := cellInstances plan

/-- `Plan.image`. -/
def image (plan : Plan) : List Notice × Answer (Except UnknownCellType Image) :=
  (reader plan).image plan

/-! ### What is read -/

section Reading

variable {plan : Plan}

theorem reader_wireName : (reader plan).wireName = plan.reader.wireName :=
  funext₂ wireName_eq

theorem reader_belName {bel : BelId} (isBel : plan.device.isBel bel = true) :
    (reader plan).belName bel = plan.reader.belName bel := by
  obtain ⟨info, found, fetched⟩ := Device.fetchBel_of_isBel isBel
  simp only [reader, Plan.reader, Plan.belName, fetched, found, Except.map, Option.map_some,
    Option.getD_some]
  rfl

theorem reader_pip? {pip : PipId} {info : PipInfo} (found : plan.device.pip? pip = some info) :
    (reader plan).pip? pip = plan.reader.pip? pip := by
  simp only [reader, Plan.reader, found]
  rfl

theorem reader_instances {bel : BelId} (isBel : plan.device.isBel bel = true) (cell : Cell) :
    (reader plan).instances cell bel = plan.reader.instances cell bel := by
  obtain ⟨info, _, fetched⟩ := Device.fetchBel_of_isBel isBel
  simp only [reader, Plan.reader, cellInstances, fetched, withoutTileType_eq, bind, Except.bind]

end Reading

/-! ### Connections -/

section Connections

variable {plan : Plan}

theorem connection?_eq : (reader plan).connection? = plan.reader.connection? := by
  funext source target
  rw [Image.Reader.connection?, Image.Reader.connection?, reader_wireName]

theorem pipConnections_eq :
    (reader plan).pipConnections plan = plan.reader.pipConnections plan := by
  funext pip
  simp only [Image.Reader.pipConnections, Image.Reader.connectionIf?, connection?_eq]

variable (housed : plan.Housed)

include housed

theorem pinConnection?_eq :
    (reader plan).pinConnection? plan = plan.reader.pinConnection? plan := by
  funext source user
  rw [Image.Reader.pinConnection?, Image.Reader.pinConnection?, connection?_eq]
  cases placed : plan.layout.belOf? user.cell with
  | none => rfl
  | some bel => simp only [reader_belName (housed _ bel placed)]

theorem netConnections_eq :
    (reader plan).netConnections plan = plan.reader.netConnections plan := by
  have direct : (reader plan).directConnections plan = plan.reader.directConnections plan := by
    funext net wire
    rw [Image.Reader.directConnections, Image.Reader.directConnections, pinConnection?_eq housed]
  have wires : (reader plan).wireConnections plan = plan.reader.wireConnections plan := by
    funext net ⟨wire, pip⟩
    cases pip with
    | none => rw [Image.Reader.wireConnections, Image.Reader.wireConnections, direct]
    | some pip => exact congrFun pipConnections_eq pip
  funext net
  rw [Image.Reader.netConnections, Image.Reader.netConnections, wires]

theorem nets_eq : (reader plan).nets plan = plan.reader.nets plan := by
  rw [Image.Reader.nets, Image.Reader.nets, netConnections_eq housed]

end Connections

/-! ### Instances -/

section Instances

variable {plan : Plan}

theorem addCells_eq (cells : List Cell)
    (housed : ∀ cell ∈ cells, ∀ bel, cell.bel = some bel → plan.device.isBel bel = true) :
    ∀ image notices,
      (reader plan).addCells plan cells image notices = plan.reader.addCells plan cells image notices := by
  induction cells with
  | nil => exact fun image notices => rfl
  | cons cell rest ih =>
      obtain ⟨here, later⟩ := List.forall_mem_cons.1 housed
      intro image notices
      cases placed : cell.bel with
      | none =>
          simp only [Image.Reader.addCells, placed]
          exact ih later image _
      | some bel =>
          simp only [Image.Reader.addCells, placed, reader_instances (here bel placed)]
          rcases plan.reader.instances cell bel with fault | unknown | instances
          · rfl
          · rfl
          · exact ih later _ _

theorem switchInstance_eq :
    (reader plan).switchInstance plan = plan.reader.switchInstance plan := by
  funext net pip info
  rw [Image.Reader.switchInstance, Image.Reader.switchInstance, reader_wireName]

theorem addSwitches_eq (known : plan.layout.RoutesKnown) (image : Image) :
    (reader plan).addSwitches plan image = plan.reader.addSwitches plan image := by
  refine Collecting.foldlM_congr (fun net stored => Collecting.foldlM_congr fun pip member image => ?_)
    image
  obtain ⟨name, found⟩ := Entries.mem_values_iff.1 stored
  obtain ⟨slot, used, same⟩ := List.mem_filterMap.1 (List.mem_mergeSort.1 member)
  obtain ⟨wire, bound⟩ := Entries.mem_values_iff.1 used
  have held : plan.layout.hold? name wire = some slot := Layout.hold?_eq_some_iff.2 ⟨net, found, bound⟩
  obtain ⟨info, there⟩ := ((known name wire slot held).2 pip same).2.1
  rw [Image.Reader.addSwitch, Image.Reader.addSwitch, reader_pip? there, switchInstance_eq]

theorem addBels_eq {bels : List (BelId × Name)}
    (inside : ∀ entry ∈ bels, plan.device.isBel entry.1 = true) (type : String)
    (config : Std.ExtTreeMap String Document) (image : Image) :
    (reader plan).addBels plan type config bels image =
      plan.reader.addBels plan type config bels image := by
  refine Collecting.foldlM_congr (fun entry member image => ?_) image
  simp only [reader_belName (inside entry member)]

/-- Reserved bels are asked for their names, and are bels of the device. -/
theorem addReserved_eq (reserved : ∀ kind bel name, (plan.crossed kind)[bel]? = some name →
      plan.device.isBel bel = true) :
    (reader plan).addReserved plan = plan.reader.addReserved plan := by
  have generators : ∀ entry ∈ plan.fabric.reserved.generators.toList,
      plan.device.isBel entry.1 = true := fun entry member =>
    reserved .generator entry.1 entry.2 (Std.ExtTreeMap.mem_toList_iff_getElem?_eq_some.1 member)
  have loops : ∀ entry ∈ plan.fabric.reserved.loops.toList, plan.device.isBel entry.1 = true :=
    fun entry member =>
      reserved .loop entry.1 entry.2 (Std.ExtTreeMap.mem_toList_iff_getElem?_eq_some.1 member)
  funext image
  simp only [Image.Reader.addReserved, addBels_eq generators, addBels_eq loops]

end Instances

/-! ### The image -/

/-- **An image that insists is the image.** -/
theorem image_eq {plan : Plan} (housed : plan.Housed) (known : plan.layout.RoutesKnown)
    (reserved : ∀ kind bel name, (plan.crossed kind)[bel]? = some name →
      plan.device.isBel bel = true) : image plan = plan.image := by
  have placed : ∀ cell ∈ plan.layout.netlist.cellList, ∀ bel, cell.bel = some bel →
      plan.device.isBel bel = true := by
    intro cell member bel own
    obtain ⟨name, stored⟩ := Entries.mem_values_iff.1 member
    exact housed name bel (Layout.belOf?_eq_some_iff.2 ⟨cell, stored, own⟩)
  simp only [image, Plan.image, Image.Reader.image, nets_eq housed, addCells_eq _ placed,
    addSwitches_eq known, addReserved_eq reserved]

end Strict

end UltraFabric
