/-
# UltraFabric.Proofs.Emission — when an image cannot be made

An image is asked for after a design has been started and worked on in any way.  Cells are placed on bels
of the device then, and as long as no wire is bound that the device does not have, the wires and pips of
all nets are of the device.  This is `Plan.Tellable`: every operation keeps it (`Tellable.after`), and what
an image looks up is there.

One fault is left, and `image_fault_iff` says exactly when it comes: a pip in use is a switch, and its site
ends inside a character, while all cells could be configured.  In all other cases there is an image, or the
name of a cell that cannot be configured; so it is with all devices whose names have one byte for each
character (`Tellable.exists_image`).

The other pole is `SplitSample.splits_site`, a plan that meets every condition and has the fault.
-/
import UltraFabric.Proofs.Inside
import UltraFabric.Proofs.StrictImage

namespace UltraFabric

set_option autoImplicit false

/-- Wires are bound that the device has.  Nothing is asked of the other operations. -/
def Operation.NamesWires (device : Device) : Operation → Prop
  | bindWire wire _ => device.InRange (.wire wire)
  | _ => True

namespace Layout.RoutesKnown

variable {layout after : Layout}

theorem of_unrouted {device : Device} {netlist : Netlist} (unrouted : Netlist.Unrouted netlist.nets)
    (named : netlist.Named) (placed : Layout.ofNetlist device netlist = .ok layout) :
    layout.RoutesKnown := by
  obtain ⟨_, _, same⟩ := Layout.BelsAgree.ofNetlist named placed
  intro name wire slot held
  obtain ⟨net, found, bound⟩ := hold?_eq_some_iff.1 held
  rw [Layout.net?, same] at found
  rw [(unrouted name net found).2] at bound
  simp at bound

theorem of_sameRouting (known : layout.RoutesKnown) (same : layout.SameRouting after) :
    after.RoutesKnown := by
  intro name wire slot held
  rw [hold?, same.net?] at held
  rw [same.device]
  exact known name wire slot held

/-- A net takes a wire of the device, by a pip of it. -/
theorem take {net : Net} {name : Name} {wire : WireId} {slot : Option PipId}
    (known : layout.RoutesKnown) (found : layout.net? name = some net)
    (wireKnown : layout.device.InRange (.wire wire))
    (pipKnown : ∀ pip, slot = some pip → layout.device.InRange (.pip pip)) :
    (layout.take net name wire slot).RoutesKnown := by
  intro other place slot' held
  rw [hold?_take found] at held
  split at held
  · rename_i own
    obtain ⟨-, rfl⟩ := own
    cases held
    exact ⟨wireKnown, pipKnown⟩
  · exact known other place slot' held

theorem bindWire? {wire : WireId} {name : Name} (known : layout.RoutesKnown)
    (wireKnown : layout.device.InRange (.wire wire))
    (bound : layout.bindWire? wire name = some after) : after.RoutesKnown := by
  rcases bindWire?_cases bound with ⟨_, rfl⟩ | ⟨_, net, found, rfl⟩
  · exact known
  · exact known.take found wireKnown fun pip driven => by cases driven

/-- A pip that can be bound is of the device, and so is the wire that it leads to. -/
theorem bindPip? {pip : PipId} {name : Name} (known : layout.RoutesKnown)
    (bound : layout.bindPip? pip name = .ok (some after)) : after.RoutesKnown := by
  obtain ⟨arc, there, bound⟩ := bindPip?_eq_some_iff.1 bound
  obtain ⟨_, _, net, found, rfl⟩ := bindArc?_eq_some_iff.1 bound
  refine known.take found (Device.inRange_of_arc? there).2 fun other driven => ?_
  cases driven
  obtain ⟨info, own, rfl⟩ := Option.map_eq_some_iff.1 there
  exact Device.inRange_pip own

theorem unbindWire (known : layout.RoutesKnown) (wire : WireId) :
    (layout.unbindWire wire).RoutesKnown := by
  cases bound : layout.netOnWire[wire]? with
  | none =>
      rw [unbindWire_of_free bound]
      exact known
  | some name =>
      intro other place slot held
      rw [hold?_unbindWire bound] at held
      rw [(layout.sameDesign_unbindWire wire).device]
      split at held
      · cases held
      · exact known other place slot held

end Layout.RoutesKnown

namespace Plan

variable {plan : Plan}

/-! ### What an image looks up -/

/-- All that an image looks up is there. -/
structure Tellable (plan : Plan) : Prop where
  agree : plan.layout.BelsAgree
  routes : plan.layout.RoutesKnown
  reserved : ∀ kind bel name, (plan.crossed kind)[bel]? = some name → plan.device.isBel bel = true

/-- Every operation leaves alone what is reserved. -/
theorem reserved_after (plan : Plan) (operation : Operation) :
    (plan.after operation).fabric.reserved = plan.fabric.reserved := by
  cases operation with
  | bind bel name => exact (plan.keepsRouting_bind bel name).reserved
  | unbind bel => exact (plan.keepsRouting_unbind bel).reserved
  | applyRecords records => exact (plan.keepsRouting_applyRecords records).reserved
  | bindWire wire name => rfl
  | bindPip pip name => rfl
  | unbindWire wire => rfl
  | mention name => rfl

theorem routesKnown_withLayout? {layout : Option Layout} (known : plan.layout.RoutesKnown)
    (each : ∀ after, layout = some after → after.RoutesKnown) :
    (plan.withLayout? layout).layout.RoutesKnown := by
  cases layout with
  | none => exact known
  | some after => exact each after rfl

theorem routesKnown_after (known : plan.layout.RoutesKnown) (operation : Operation)
    (names : operation.NamesWires plan.device) : (plan.after operation).layout.RoutesKnown := by
  cases operation with
  | bind bel name => exact known.of_sameRouting (plan.keepsRouting_bind bel name).routing
  | unbind bel => exact known.of_sameRouting (plan.keepsRouting_unbind bel).routing
  | applyRecords records =>
      exact known.of_sameRouting (plan.keepsRouting_applyRecords records).routing
  | bindWire wire name =>
      exact routesKnown_withLayout? known fun _ bound => known.bindWire? names bound
  | bindPip pip name =>
      refine routesKnown_withLayout? known fun after bound => ?_
      cases answer : plan.layout.bindPip? pip name with
      | error fault =>
          rw [answer] at bound
          cases bound
      | ok layout =>
          rw [answer] at bound
          exact known.bindPip? (answer.trans (congrArg Except.ok bound))
  | unbindWire wire => exact known.unbindWire wire
  | mention name => exact known

theorem Tellable.after (tellable : plan.Tellable) (operation : Operation)
    (names : operation.NamesWires plan.device) : (plan.after operation).Tellable := by
  obtain ⟨agree, tables⟩ := sound_after tellable.agree operation
  refine ⟨agree, routesKnown_after tellable.routes operation names, fun kind bel name crossed => ?_⟩
  rw [tables.device]
  refine tellable.reserved kind bel name ?_
  cases kind <;> simpa only [Plan.crossed, plan.reserved_after operation] using crossed

theorem Tellable.run (operations : List Operation) :
    ∀ {plan : Plan}, plan.Tellable →
      (∀ operation ∈ operations, operation.NamesWires plan.device) →
        (plan.run operations).Tellable := by
  induction operations with
  | nil => exact fun tellable _ => tellable
  | cons operation rest ih =>
      intro plan tellable names
      obtain ⟨here, later⟩ := List.forall_mem_cons.1 names
      refine ih (tellable.after operation here) ?_
      rw [(sound_after tellable.agree operation).tables.device]
      exact later

theorem Started.tellable {device : Device} {netlist : Netlist}
    (started : Started device netlist plan) (unrouted : Netlist.Unrouted netlist.nets)
    (fresh : plan.fabric.reserved = .none) : plan.Tellable where
  agree := started.consistent.agree
  routes := .of_unrouted unrouted started.named started.placed
  reserved := (started.routesInside fresh).crossed

theorem Tellable.strict_image (tellable : plan.Tellable) : Strict.image plan = plan.image :=
  Strict.image_eq tellable.agree.housed tellable.routes tellable.reserved

/-! ### Nets can be told -/

theorem wireEnd_of_inRange {wire : WireId} (known : plan.device.InRange (.wire wire)) (tile : Nat) :
    ∃ there, plan.wireEnd tile wire = .ok there := by
  obtain ⟨_, info, found⟩ := known
  exact ⟨⟨plan.tileName tile, info.name, info.type⟩, by rw [wireEnd, found]⟩

theorem exists_connection? (plan : Plan) (source target : Image.WireEnd) :
    ∃ connection, plan.reader.connection? source target = .ok connection := by
  unfold Image.Reader.connection?
  split
  · exact ⟨none, rfl⟩
  · exact ⟨_, rfl⟩

theorem exists_connectionIf? (plan : Plan) (shown : Prop) [Decidable shown]
    (source target : Image.WireEnd) :
    ∃ connection, plan.reader.connectionIf? shown source target = .ok connection := by
  unfold Image.Reader.connectionIf?
  split
  · exact exists_connection? plan source target
  · exact ⟨none, rfl⟩

theorem exists_pipConnections {pip : PipId} (known : plan.device.InRange (.pip pip)) :
    ∃ connections, plan.reader.pipConnections plan pip = .ok connections := by
  obtain ⟨_, ⟨info, own⟩, arc, found⟩ := known
  obtain ⟨source, target⟩ := Device.inRange_of_arc? found
  have same : arc.info = info := by
    obtain ⟨other, own', rfl⟩ := Option.map_eq_some_iff.1 found
    exact Option.some.inj (own'.symm.trans own)
  have origin : plan.device.InRange (.wire ⟨pip.tile, arc.info.source⟩) := by
    rw [same]
    exact (Device.inRange_of_pip? own).1
  obtain ⟨node, atNode⟩ := wireEnd_of_inRange source arc.source.tile
  obtain ⟨inner, atOrigin⟩ := wireEnd_of_inRange origin pip.tile
  obtain ⟨goal, atTarget⟩ := wireEnd_of_inRange target pip.tile
  obtain ⟨entry, first⟩ := exists_connectionIf? plan
    (inner.name ≠ node.name ∨ arc.source.tile ≠ pip.tile) node inner
  obtain ⟨through, second⟩ := exists_connectionIf? plan (Image.isShown arc.info = true) inner goal
  refine ⟨entry.toList ++ through.toList, ?_⟩
  simp only [Image.Reader.pipConnections, found, Fault.unless, atNode, atOrigin, atTarget, first, second,
    Bind.bind, Except.bind]
  rfl

theorem exists_directConnections {wire : WireId} (known : plan.device.InRange (.wire wire)) (net : Net) :
    ∃ connections, plan.reader.directConnections plan net wire = .ok connections := by
  obtain ⟨source, there⟩ := wireEnd_of_inRange known wire.tile
  have each : ∀ user ∈ net.users,
      ∃ connection, plan.reader.pinConnection? plan source user = .ok connection := by
    intro user _
    unfold Image.Reader.pinConnection?
    split
    · exact ⟨none, rfl⟩
    · exact exists_connection? plan _ _
  obtain ⟨connections, told⟩ := Collecting.exists_mapM each
  refine ⟨connections.reduceOption, ?_⟩
  simp only [Image.Reader.directConnections, there, told, Bind.bind, Except.bind]
  rfl

theorem exists_netConnections (known : plan.layout.RoutesKnown) {net : Net}
    (stored : net ∈ plan.layout.netlist.netList) :
    ∃ connections, plan.netConnections net = .ok connections := by
  obtain ⟨name, found⟩ := Entries.mem_values_iff.1 stored
  have each : ∀ entry ∈ net.wires.toList,
      ∃ connections, plan.reader.wireConnections plan net entry = .ok connections := by
    rintro ⟨wire, slot⟩ member
    have bound := Std.ExtTreeMap.mem_toList_iff_getElem?_eq_some.1 member
    obtain ⟨here, driven⟩ := known name wire slot (Layout.hold?_eq_some_iff.2 ⟨net, found, bound⟩)
    cases slot with
    | some pip => exact exists_pipConnections (driven pip rfl)
    | none =>
        rw [Image.Reader.wireConnections]
        split
        · exact exists_directConnections here net
        · exact ⟨[], rfl⟩
  obtain ⟨all, told⟩ := Collecting.exists_mapM each
  refine ⟨.ofList all.flatten, ?_⟩
  rw [netConnections, Image.Reader.netConnections, told]
  rfl

theorem exists_nets (known : plan.layout.RoutesKnown) :
    ∃ nets, plan.reader.nets plan = .ok nets := by
  cases told : plan.reader.nets plan with
  | ok nets => exact ⟨nets, rfl⟩
  | error fault =>
      obtain ⟨net, member, nets, untold⟩ := Collecting.exists_error_of_foldlM told
      obtain ⟨connections, answer⟩ := exists_netConnections known (List.mem_filter.1 member).1
      rw [netConnections] at answer
      rw [answer] at untold
      cases untold

/-! ### Cells and switches -/

/-- Adding cells is no fault, and done to the end if all can be configured. -/
theorem exists_addCells (plan : Plan) (cells : List Cell) :
    ∀ image notices, ∃ notices' result,
      plan.reader.addCells plan cells image notices = (notices', .ok result) ∧
        (plan.Configurable cells → ∃ image', result = .ok image') := by
  induction cells with
  | nil => exact fun image notices => ⟨notices, .ok image, rfl, fun _ => ⟨image, rfl⟩⟩
  | cons cell rest ih =>
      intro image notices
      cases placed : cell.bel with
      | none =>
          obtain ⟨notices', result, added, ends⟩ := ih image (notices ++ [.cellNotPlaced cell.name])
          refine ⟨notices', result, ?_, fun all => ends (List.forall_mem_cons.1 all).2⟩
          simp only [Image.Reader.addCells, placed, added]
      | some bel =>
          have asked : plan.reader.instances cell bel = .ok (plan.cellInstances cell bel) := rfl
          simp only [Image.Reader.addCells, placed, asked]
          cases given : plan.cellInstances cell bel with
          | error unknown =>
              refine ⟨notices, .error unknown, rfl, fun all => ?_⟩
              have known := all cell List.mem_cons_self bel placed
              rw [given] at known
              cases known
          | ok instances =>
              obtain ⟨notices', result, added, ends⟩ := ih _ notices
              exact ⟨notices', result, added, fun all => ends (List.forall_mem_cons.1 all).2⟩

/-- A switch in use whose site ends inside a character. -/
def SplitsSwitch (plan : Plan) (net : Net) (pip : PipId) (info : PipInfo) : Prop :=
  plan.UsesSwitch net pip info ∧ ∃ wire, plan.device.wire? ⟨pip.tile, info.source⟩ = some wire ∧
    Image.SplitsEnd (Image.wireName (plan.tileName pip.tile) wire.name).toList

theorem switchInstance_eq_error_iff {pip : PipId} {info : PipInfo} {wire : WireInfo} {fault : Fault}
    (known : plan.device.wire? ⟨pip.tile, info.source⟩ = some wire) (net : Name) :
    plan.switchInstance net pip info = .error fault ↔ fault = .splitCharacter ∧
      Image.SplitsEnd (Image.wireName (plan.tileName pip.tile) wire.name).toList := by
  rw [switchInstance_eq known, ← Image.site?_eq_none_iff]
  cases Image.site? (Image.wireName (plan.tileName pip.tile) wire.name) with
  | none => simp [Fault.unless, Except.map, eq_comm]
  | some site => simp [Fault.unless, Except.map]

theorem addSwitches_eq_error_iff {image : Image} {fault : Fault} :
    plan.reader.addSwitches plan image = .error fault ↔
      fault = .splitCharacter ∧ ∃ net pip info, plan.SplitsSwitch net pip info := by
  have only : ∀ {fault}, plan.reader.addSwitches plan image = .error fault →
      fault = .splitCharacter ∧ ∃ net pip info, plan.SplitsSwitch net pip info := by
    intro fault ended
    rw [addSwitches_eq] at ended
    obtain ⟨net, stored, _, ended⟩ := Collecting.exists_error_of_foldlM ended
    obtain ⟨⟨pip, info⟩, used, _, ended⟩ := Collecting.exists_error_of_foldlM ended
    have uses : plan.UsesSwitch net pip info := usesSwitch_iff.2 ⟨stored, used⟩
    obtain ⟨_, wire, known⟩ := (Device.inRange_of_pip? uses.known).1
    have refused : plan.switchInstance net.name pip info = .error fault := by
      cases made : plan.switchInstance net.name pip info with
      | error problem =>
          simp only [made] at ended
          exact congrArg Except.error (Except.error.inj ended)
      | ok entry =>
          simp only [made] at ended
          cases ended
    obtain ⟨rfl, splits⟩ := (switchInstance_eq_error_iff known net.name).1 refused
    exact ⟨rfl, net, pip, info, uses, wire, known, splits⟩
  refine ⟨only, ?_⟩
  rintro ⟨rfl, net, pip, info, uses, wire, known, splits⟩
  cases ended : plan.reader.addSwitches plan image with
  | error fault => rw [(only ended).1]
  | ok result =>
      obtain ⟨entry, made⟩ := (addSwitches_eq_ok_iff.1 ended).1 net uses.stored (pip, info)
        (usesSwitch_iff.1 uses).2
      rw [(switchInstance_eq_error_iff known net.name).2 ⟨rfl, splits⟩] at made
      cases made

/-! ### The image -/

/-- **The one fault of an image**, and when it comes. -/
theorem Tellable.image_eq_error_iff (tellable : plan.Tellable) {fault : Fault} :
    plan.image.2 = .error fault ↔ fault = .splitCharacter ∧
      plan.Configurable plan.layout.netlist.cellList ∧
        ∃ net pip info, plan.SplitsSwitch net pip info := by
  obtain ⟨nets, told⟩ := exists_nets tellable.routes
  obtain ⟨notices, result, added, ends⟩ := exists_addCells plan plan.layout.netlist.cellList
    (.ofBanks plan.fabric.bankVoltage) []
  simp only [Plan.image, Image.Reader.image, told, added]
  cases result with
  | error unknown =>
      refine iff_of_false (by simp) ?_
      rintro ⟨-, configurable, -⟩
      obtain ⟨_, done⟩ := ends configurable
      cases done
  | ok withCells =>
      have configurable := (addCells_cases _ added).1
      have switched := @addSwitches_eq_error_iff plan withCells fault
      cases ended : plan.reader.addSwitches plan withCells with
      | error problem =>
          rw [ended] at switched
          simpa only [ended, Except.bind, configurable, true_and, Except.error.injEq] using switched
      | ok image =>
          rw [ended] at switched
          simpa only [ended, Except.bind, addReserved_eq, configurable, true_and, reduceCtorEq]
            using switched

/-- In a device whose names have one byte for each character no image is refused by a fault. -/
theorem Tellable.exists_image (tellable : plan.Tellable)
    (tiles : ∀ tile, Text.Narrow (plan.tileName tile).toList)
    (wires : ∀ id wire, plan.device.wire? id = some wire → Text.Narrow wire.name.toList) :
    ∃ answer, plan.image.2 = .ok answer := by
  cases refused : plan.image.2 with
  | ok answer => exact ⟨answer, rfl⟩
  | error fault =>
      obtain ⟨-, -, net, pip, info, -, wire, known, splits⟩ := tellable.image_eq_error_iff.1 refused
      exact absurd splits ((tiles pip.tile).wireName (wires _ wire known)).not_splitsEnd

/-- **What can go wrong in an image, and what cannot.**  A design made of cells has been started, and
nothing is reserved.  Then it is worked on in any way in which only wires of the device are bound.  No name
of a tile or of a wire is cut where it cannot be, and no id is looked up that names nothing.  The image is
refused by a fault exactly when all placed cells can be configured and a switch in use has its site end
inside a character. -/
theorem image_fault_iff {device : Device} {netlist : Netlist} {lexicon : Lexicon} {cells : List Cell}
    (made : Netlist.ofCells lexicon cells = .ok netlist) (started : Started device netlist plan)
    (fresh : plan.fabric.reserved = .none) (operations : List Operation)
    (names : ∀ operation ∈ operations, operation.NamesWires device) :
    (∀ name, Strict.withoutTileType name = .ok (withoutTileType name)) ∧
    (∀ tile name, Strict.wireName tile name = .ok (Image.wireName tile name)) ∧
    Strict.image (plan.run operations) = (plan.run operations).image ∧
    ∀ fault, (plan.run operations).image.2 = .error fault ↔ fault = .splitCharacter ∧
      (plan.run operations).Configurable (plan.run operations).layout.netlist.cellList ∧
        ∃ net pip info, (plan.run operations).SplitsSwitch net pip info := by
  have tellable := started.tellable (Netlist.unrouted_ofCells made) fresh
  rw [← started.device] at names
  have final := tellable.run operations names
  exact ⟨Strict.withoutTileType_eq, Strict.wireName_eq, final.strict_image,
    fun fault => final.image_eq_error_iff⟩

end Plan

/-! ### A sample: a wire that ends with a character of three bytes -/

namespace SplitSample

def netlist : Netlist :=
  (Netlist.ofCells .fresh [SiteSample.cell]).toOption.getD .empty

theorem made : Netlist.ofCells .fresh [SiteSample.cell] = .ok netlist :=
  Collecting.eq_ok_of_isSome (by decide +kernel)

def layout : Layout :=
  (Layout.ofNetlist SiteSample.device netlist).toOption.getD ⟨SiteSample.device, netlist, ∅, ∅, ∅⟩

theorem placed : Layout.ofNetlist SiteSample.device netlist = .ok layout :=
  Collecting.eq_ok_of_isSome (by decide +kernel)

def plan : Plan :=
  (Plan.mk .fresh SiteSample.fabric layout).setUp.1

theorem started : Plan.Started SiteSample.device netlist plan :=
  .of_built (Netlist.named_ofCells made) placed SiteSample.built .fresh SiteSample.fabric

theorem fresh : plan.fabric.reserved = .none :=
  Plan.reserved_setUp _

/-- The net goes through one of the switches. -/
def through (index : Nat) : List Operation :=
  [.bindPip ⟨0, index⟩ "n"]

theorem names (index : Nat) :
    ∀ operation ∈ through index, operation.NamesWires SiteSample.device := by
  intro operation member
  rw [List.mem_singleton.1 member]
  trivial

/-- The net after it goes through the second one. -/
def split : Plan :=
  plan.run (through 1)

/-- The only cell is not placed, so that there is none that cannot be configured. -/
theorem configurable : split.Configurable split.layout.netlist.cellList := by
  have unplaced : ∀ cell ∈ split.layout.netlist.cellList, cell.bel = none := by
    decide +kernel
  intro cell member bel placed
  rw [unplaced cell member] at placed
  cases placed

/-- The site of the second switch ends inside the last character of its wire. -/
theorem splits : ∃ net pip info, split.SplitsSwitch net pip info := by
  have routed : ∃ net ∈ split.layout.netlist.netList,
      net.wires[(⟨0, 2⟩ : WireId)]? = some (some ⟨0, 1⟩) := by
    decide +kernel
  have named : (Image.wireName (split.tileName 0) "N€").toList = ['N'] ++ ['€'] := by
    decide +kernel
  obtain ⟨net, stored, bound⟩ := routed
  refine ⟨net, ⟨0, 1⟩, ⟨1, 2, 0, some ⟨"S.1", 1, .interconnect, none⟩⟩,
    ⟨stored, ⟨_, bound⟩, by decide +kernel, by decide⟩, ⟨"N€", "", 0⟩, by decide +kernel, ?_⟩
  rw [named]
  exact .wide (by decide)

/-- **A design that meets every condition, and has the fault.** -/
theorem splits_site : Netlist.ofCells .fresh [SiteSample.cell] = .ok netlist ∧
    Plan.Started SiteSample.device netlist plan ∧ plan.fabric.reserved = .none ∧
    (∀ operation ∈ through 1, operation.NamesWires SiteSample.device) ∧
    (plan.run (through 1)).image.2 = .error .splitCharacter := by
  have start := started.tellable (Netlist.unrouted_ofCells made) fresh
  have final : split.Tellable := by
    refine start.run (through 1) ?_
    rw [started.device]
    exact names 1
  exact ⟨made, started, fresh, names 1,
    final.image_eq_error_iff.2 ⟨rfl, configurable, splits⟩⟩

/-- Through the first switch the same net has an image. -/
theorem answers_through_first :
    Strict.image (plan.run (through 0)) = (plan.run (through 0)).image ∧
      ∀ fault, (plan.run (through 0)).image.2 ≠ .error fault := by
  obtain ⟨-, -, strict, faults⟩ := Plan.image_fault_iff made started fresh (through 0) (names 0)
  refine ⟨strict, fun fault refused => ?_⟩
  obtain ⟨-, -, net, pip, info, uses, wire, known, splits⟩ := (faults fault).1 refused
  have only : ∀ net ∈ (plan.run (through 0)).layout.netlist.netList,
      net.wires.values.filterMap id = [⟨0, 0⟩] := by
    decide +kernel
  have cut : ((plan.run (through 0)).device.pip? ⟨0, 0⟩).all fun info =>
      ((plan.run (through 0)).device.wire? ⟨0, info.source⟩).all fun wire =>
        (Image.site? (Image.wireName ((plan.run (through 0)).tileName 0) wire.name)).isSome := by
    decide +kernel
  obtain ⟨place, bound⟩ := uses.bound
  have member : pip ∈ net.wires.values.filterMap id :=
    List.mem_filterMap.2 ⟨some pip, Entries.mem_values_iff.2 ⟨place, bound⟩, rfl⟩
  rw [only net uses.stored, List.mem_singleton] at member
  subst member
  rw [uses.known, Option.all_some, known, Option.all_some, Image.site?_eq_none_iff.2 splits] at cut
  cases cut

end SplitSample

end UltraFabric
