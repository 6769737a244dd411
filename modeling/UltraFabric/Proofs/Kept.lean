/-
# UltraFabric.Proofs.Kept — which cells and nets are lost in an image

Cells and nets have names of their own, but the image knows them by plain names, pads by a parameter,
and a flip-flop by a suffix.  Two of them may end up under one name, and then the image has only the
later one; nothing is said about it.

`image_keeps_iff` says when that happens.  All nets that have wires are in the image with their own
connections exactly when nets of one plain name have the same connections.  All instances of placed
cells are in it exactly when those of one plain name are the same, and nothing that is entered after
them replaces one by another.  `lost_cell` is a plan with two lookup tables, `x$1` and `x_1`, whose
image has one.
-/
import UltraFabric.Proofs.Entered

namespace UltraFabric

set_option autoImplicit false

namespace Plan

variable {plan : Plan} {image : Image}

/-- Every net that has wires is in an image, with its own connections. -/
def KeepsNets (plan : Plan) (image : Image) : Prop :=
  ∀ net ∈ plan.layout.netlist.netList, net.wires.isEmpty = false →
    ∃ connections, plan.netConnections net = .ok connections ∧
      image.nets[Image.plainName net.name]? = some connections

/-- Every instance of every placed cell is in an image. -/
def KeepsCells (plan : Plan) (image : Image) : Prop :=
  ∀ cell ∈ plan.layout.netlist.cellList, ∀ bel, cell.bel = some bel →
    ∃ instances, plan.cellInstances cell bel = .ok instances ∧
      ∀ entry ∈ instances, image.instances[Image.plainName entry.1]? = some entry.2

theorem mem_routedNets_iff {net : Net} :
    net ∈ plan.routedNets ↔ net ∈ plan.layout.netlist.netList ∧ net.wires.isEmpty = false := by
  rw [routedNets, List.mem_filter, Bool.not_eq_true']

theorem mem_placedEntries_iff (configurable : plan.Configurable plan.layout.netlist.cellList)
    {entry : String × Instance} :
    entry ∈ plan.placedEntries ↔ ∃ cell ∈ plan.layout.netlist.cellList, ∃ bel instances,
      cell.bel = some bel ∧ plan.cellInstances cell bel = .ok instances ∧ entry ∈ instances := by
  rw [placedEntries, List.mem_flatMap]
  constructor
  · rintro ⟨cell, member, inside⟩
    cases placed : cell.bel with
    | none =>
        rw [cellEntries, placed] at inside
        cases inside
    | some bel => exact ⟨cell, member, bel, _, placed, configurable cell member bel placed, inside⟩
  · rintro ⟨cell, member, bel, instances, placed, given, inside⟩
    rw [configurable cell member bel placed] at given
    cases given
    exact ⟨cell, member, inside⟩

/-- Nets are kept when each is the last of its name. -/
theorem ShownBy.keepsNets_iff (shown : plan.ShownBy image) :
    plan.KeepsNets image ↔ ∀ net ∈ plan.routedNets,
      Entries.lastUnder? (Image.plainName net.name) (plan.netEntries.map Image.plainEntry) =
        some (plan.connectionsOf net) := by
  simp only [mem_routedNets_iff, KeepsNets, shown.net?, and_imp]
  refine forall₃_congr fun net member routed => ?_
  rw [shown.connected net (mem_routedNets_iff.2 ⟨member, routed⟩)]
  simp only [Except.ok.injEq, exists_eq_left']

/-- Cells are kept when each of their instances is the last of its name. -/
theorem ShownBy.keepsCells_iff (shown : plan.ShownBy image) :
    plan.KeepsCells image ↔ ∀ entry ∈ plan.placedEntries,
      Entries.lastUnder? (Image.plainName entry.1) (plan.entries.map Image.plainEntry) =
        some entry.2 := by
  simp only [KeepsCells, shown.instance?]
  constructor
  · intro kept entry member
    obtain ⟨cell, known, bel, instances, placed, given, inside⟩ :=
      (mem_placedEntries_iff shown.configurable).1 member
    obtain ⟨others, given', all⟩ := kept cell known bel placed
    rw [given] at given'
    cases given'
    exact all entry inside
  · intro last cell known bel placed
    have given := shown.configurable cell known bel placed
    exact ⟨_, given, fun entry inside => last entry
      ((mem_placedEntries_iff shown.configurable).2 ⟨cell, known, bel, _, placed, given, inside⟩)⟩

/-- **When nothing is lost.**  An image that could be made has all routed nets exactly when nets of one
plain name have the same connections; it has all instances of placed cells exactly when those of one
plain name are the same and what is entered last under such a name later is the same again. -/
theorem image_keeps_iff {notices : List Notice} (made : plan.image = (notices, .ok (.ok image))) :
    (plan.KeepsNets image ↔ ∀ net ∈ plan.routedNets, ∀ other ∈ plan.routedNets,
      Image.plainName net.name = Image.plainName other.name →
        plan.netConnections net = plan.netConnections other) ∧
    (plan.KeepsCells image ↔
      (∀ entry ∈ plan.placedEntries, ∀ other ∈ plan.placedEntries,
        Image.plainName entry.1 = Image.plainName other.1 → entry.2 = other.2) ∧
      ∀ entry ∈ plan.placedEntries, ∀ last,
        Entries.lastUnder? (Image.plainName entry.1) (plan.laterEntries.map Image.plainEntry) =
          some last → last = entry.2) := by
  have shown := shownBy_of_image made
  constructor
  · have iff := Entries.all_last_iff (plan.netEntries.map Image.plainEntry)
    simp only [Entries.OneEach, netEntries, List.forall_mem_map, Image.plainEntry] at iff
    refine shown.keepsNets_iff.trans (iff.trans ?_)
    refine forall₂_congr fun net member => forall₂_congr fun other member' => ?_
    rw [shown.connected net member, shown.connected other member', Except.ok.injEq]
  · have iff := Entries.all_last_append_iff (plan.placedEntries.map Image.plainEntry)
      (plan.laterEntries.map Image.plainEntry)
    rw [← List.map_append] at iff
    simp only [Entries.OneEach, List.forall_mem_map, Image.plainEntry] at iff
    exact shown.keepsCells_iff.trans iff

end Plan

/-! ### A sample: two lookup tables whose names differ in a dollar sign -/

namespace NameSample

def tileType : TileType :=
  ⟨"T", #[⟨"F0", "XLUT", 0, 0, [], none, none⟩, ⟨"F1", "XLUT", 1, 0, [], none, none⟩], #[], #[], #[]⟩

def chip : Chip :=
  ⟨"names", 1, 1, #[tileType], #[⟨0, some ⟨"T0", none⟩⟩], [], []⟩

def device : Device :=
  ⟨chip, by decide, Indexes.ofChip chip, rfl⟩

def dollar : Cell :=
  { Cell.bare "x$1" "XLUT" with
    params := (∅ : Std.ExtTreeMap Name Property).insert "lut_table" (.int 5)
    bel := some ⟨0, 0⟩ }

def underscore : Cell :=
  { Cell.bare "x_1" "XLUT" with bel := some ⟨0, 1⟩ }

def netlist : Netlist :=
  (Netlist.empty.setCell dollar).setCell underscore

def fabric : Fabric :=
  { Fabric.ofOptions ⟨.firstFit, 8, 120, 18, 22, 40, 10, true⟩ ⟨∅, ∅⟩ with
    tables := { Tables.empty with tiles := TileNames.ofChip chip } }

def layout : Layout :=
  (Layout.ofNetlist device netlist).toOption.getD ⟨device, netlist, ∅, ∅, ∅⟩

def plan : Plan :=
  ⟨.fresh, fabric, layout⟩

theorem made : ∃ notices image, plan.image = (notices, .ok (.ok image)) :=
  Plan.exists_image (by decide +kernel)

theorem placedEntries_eq :
    (plan.placedEntries.map fun entry => (entry.1, entry.2.location)) =
      [("x$1", "T0:T:F0"), ("x_1", "T0:T:F1")] := by
  decide +kernel

/-- The image keeps all nets of the sample and not all of its cells. -/
theorem keeps_of_made : ∃ notices image, plan.image = (notices, .ok (.ok image)) ∧
    plan.KeepsNets image ∧ ¬ plan.KeepsCells image := by
  obtain ⟨notices, image, made⟩ := made
  obtain ⟨nets, cells⟩ := Plan.image_keeps_iff made
  refine ⟨notices, image, made, nets.2 ?_, fun kept => ?_⟩
  · have unrouted : plan.routedNets = [] := by decide +kernel
    rw [unrouted]
    exact fun net member => absurd member List.not_mem_nil
  · have same := (cells.1 kept).1
    have located : ∀ entry ∈ plan.placedEntries.map fun entry => (entry.1, entry.2.location),
        ∀ other ∈ plan.placedEntries.map fun entry => (entry.1, entry.2.location),
          Image.plainName entry.1 = Image.plainName other.1 → entry.2 = other.2 := by
      simp only [List.forall_mem_map]
      exact fun entry member other member' plain =>
        congrArg Instance.location (same entry member other member' plain)
    rw [placedEntries_eq] at located
    have one := located _ List.mem_cons_self _ (List.mem_cons_of_mem _ List.mem_cons_self) (by decide +kernel)
    exact absurd one (by decide)

/-- The instance of the one cell would go to the first bel, and the image has nothing there. -/
theorem lost_cell : ∃ notices image, plan.image = (notices, .ok (.ok image)) ∧
    plan.layout.netlist.cell? "x$1" = some dollar ∧ dollar.bel = some ⟨0, 0⟩ ∧
    ((plan.cellInstances dollar ⟨0, 0⟩).toOption.map fun instances =>
      instances.map fun (name, entry) => (Image.plainName name, entry.location)) =
        some [("x_1", "T0:T:F0")] ∧
    (image.instances.toList.map fun (name, entry) => (name, entry.location)) =
      [("x_1", "T0:T:F1")] := by
  obtain ⟨notices, image, made⟩ := made
  refine ⟨notices, image, made, by decide +kernel, rfl, by decide +kernel, ?_⟩
  rw [(Plan.shownBy_of_image made).instances]
  decide +kernel

end NameSample

end UltraFabric
