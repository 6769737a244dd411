/-
# UltraFabric.Proofs.Bindings — a layout that is changed

A layout begins with the cells on the bels that the netlist names for them.  That succeeds exactly when
the bels are there and no two cells share one (`exists_ofNetlist_iff`), and then nothing is routed yet.
From there cells are put on bels and taken off, and nets get wires and pips and lose them
(`Layout.Change`), in any order and whether or not the layout agrees.

`Layout.Consistent` says that whatever is kept twice is the same relation on both sides, and
`Layout.Unshared` that nothing is given away twice: no bel, no pip into a wire, and no node of wires.

* `change_cases`: all that a change can have done;
* `change_keeps`: one change keeps the agreement of bels and of wires;
* `keeps_of_changes`: so does a list of them;
* `consistent_of_agree`, `unshared_of_agree`: what the agreement means.

The only thing asked of the changes is that a source is named as its node is: by another name of its
node a wire would be given away once more.
-/
import Mathlib.Data.List.Pairwise
import UltraFabric.Proofs.Bels
import UltraFabric.Proofs.Collecting
import UltraFabric.Proofs.Wires

namespace UltraFabric

set_option autoImplicit false

/-! ### What a netlist begins with -/

namespace Netlist

/-- Nets are stored under their own names and have no wires. -/
def Unrouted (nets : Std.ExtTreeMap Name Net) : Prop :=
  ∀ (name : Name) (net : Net), nets[name]? = some net → net.name = name ∧ net.wires = ∅

theorem keeps_attach {net after : Net} {endpoint : Endpoint}
    (attached : attach net endpoint = .ok after) :
    after.name = net.name ∧ after.wires = net.wires := by
  unfold attach at attached
  split at attached
  · split at attached
    · cases attached
    · cases attached
      exact ⟨rfl, rfl⟩
  · cases attached
    exact ⟨rfl, rfl⟩

theorem unrouted_attachAll (endpoints : List Endpoint) :
    ∀ nets all : Std.ExtTreeMap Name Net, Unrouted nets → attachAll nets endpoints = .ok all →
      Unrouted all := by
  induction endpoints with
  | nil =>
      intro nets all unrouted done
      cases done
      exact unrouted
  | cons endpoint rest ih =>
      intro nets all unrouted done
      simp only [attachAll] at done
      split at done
      · cases done
      rename_i net attached
      refine ih _ all (fun name other found => ?_) done
      rw [Std.ExtTreeMap.getElem?_insert] at found
      split at found
      · rename_i here
        rw [Std.LawfulEqCmp.compare_eq_iff_eq] at here
        cases found
        obtain ⟨own, wires⟩ := keeps_attach attached
        rw [own, wires, ← here, Std.ExtTreeMap.getD_eq_getD_getElem?]
        cases known : nets[endpoint.net]? with
        | none => exact ⟨rfl, rfl⟩
        | some first => exact unrouted endpoint.net first known
      · exact unrouted name other found

/-- The nets of a list of cells have their names, and no wires yet. -/
theorem unrouted_ofCells {lexicon : Lexicon} {cells : List Cell} {netlist : Netlist}
    (made : ofCells lexicon cells = .ok netlist) : Unrouted netlist.nets :=
  unrouted_attachAll _ ∅ _ (fun _ _ found => by simp at found) (ofCells_eq_ok_iff.1 made).2

theorem Named.mem_cellList_iff {netlist : Netlist} (named : netlist.Named) {cell : Cell} :
    cell ∈ netlist.cellList ↔ netlist.cell? cell.name = some cell := by
  rw [cellList, Entries.mem_values_iff]
  constructor
  · rintro ⟨name, found⟩
    cases named name cell found
    exact found
  · intro found
    exact ⟨cell.name, found⟩

theorem Named.pairwise_cellList {netlist : Netlist} (named : netlist.Named) :
    netlist.cellList.Pairwise fun a b => a.name ≠ b.name := by
  rw [cellList, Entries.values_eq_map_toList, List.pairwise_map]
  refine netlist.cells.distinct_keys_toList.imp_of_mem ?_
  rintro ⟨key, cell⟩ ⟨key', cell'⟩ member member' distinct same
  have own := named key cell (Std.ExtTreeMap.mem_toList_iff_getElem?_eq_some.1 member)
  have own' := named key' cell' (Std.ExtTreeMap.mem_toList_iff_getElem?_eq_some.1 member')
  simp only at same own own'
  rw [← own, ← own', same] at distinct
  exact distinct Std.ReflCmp.compare_self

/-- Cells name bels of the device only, and no two cells the same one. -/
structure Placeable (netlist : Netlist) (device : Device) : Prop where
  onDevice : ∀ name cell, netlist.cell? name = some cell → ∀ bel,
    cell.bel = some bel ∨ cell.required = some bel → device.isBel bel = true
  apart : ∀ name other cell otherCell, netlist.cell? name = some cell →
    netlist.cell? other = some otherCell → ∀ bel, cell.bel = some bel →
      otherCell.bel = some bel → name = other

end Netlist

namespace Layout

/-- Placing succeeds when all bels are there and free, and no bel is asked for twice. -/
theorem exists_place_iff (device : Device) (cells : List Cell) :
    ∀ cellOn : Std.ExtTreeMap BelId Name,
      (∃ placed, place device cellOn cells = .ok placed) ↔
        (∀ cell ∈ cells, ∀ bel, cell.bel = some bel ∨ cell.required = some bel →
          device.isBel bel = true) ∧
        (∀ cell ∈ cells, ∀ bel, cell.bel = some bel → cellOn[bel]? = none) ∧
        cells.Pairwise fun a b => ∀ bel, a.bel = some bel → b.bel ≠ some bel := by
  induction cells with
  | nil =>
      intro cellOn
      simp [place]
  | cons cell rest ih =>
      intro cellOn
      simp only [place, List.forall_mem_cons, List.pairwise_cons]
      split
      · -- A bel of the cell is missing.
        rename_i missing found
        refine iff_of_false (by simp) fun ⟨⟨there, _⟩, _⟩ => ?_
        have absent := List.find?_some found
        have named := List.mem_of_find?_eq_some found
        rw [there missing (by simpa using named)] at absent
        cases absent
      · rename_i allThere
        have there : ∀ bel, cell.bel = some bel ∨ cell.required = some bel →
            device.isBel bel = true := by
          intro bel names
          have := List.find?_eq_none.1 allThere bel (by simpa using names)
          simpa using this
        split
        · rename_i unplaced
          rw [ih]
          constructor
          · rintro ⟨onDevice, vacant, apart⟩
            exact ⟨⟨there, onDevice⟩, ⟨by simp [unplaced], vacant⟩, ⟨by simp [unplaced], apart⟩⟩
          · rintro ⟨⟨_, onDevice⟩, ⟨_, vacant⟩, ⟨_, apart⟩⟩
            exact ⟨onDevice, vacant, apart⟩
        · rename_i bel own
          split
          · rename_i other taken
            refine iff_of_false (by simp) fun ⟨_, ⟨free, _⟩, _⟩ => ?_
            rw [free bel own] at taken
            cases taken
          · rename_i free
            rw [ih]
            constructor
            · rintro ⟨onDevice, vacant, apart⟩
              refine ⟨⟨there, onDevice⟩, ⟨?_, fun other member place named => ?_⟩,
                ⟨fun other member place named named' => ?_, apart⟩⟩
              · intro place named
                cases own.symm.trans named
                exact free
              · have empty := vacant other member place named
                rw [Std.ExtTreeMap.getElem?_insert] at empty
                split at empty
                · cases empty
                · exact empty
              · cases own.symm.trans named
                have empty := vacant other member bel named'
                simp at empty
            · rintro ⟨⟨_, onDevice⟩, ⟨_, vacant⟩, ⟨first, apart⟩⟩
              refine ⟨onDevice, fun other member place named => ?_, apart⟩
              rw [Std.ExtTreeMap.getElem?_insert]
              split
              · rename_i here
                rw [Std.LawfulEqCmp.compare_eq_iff_eq] at here
                exact absurd (here ▸ named) (first other member bel own)
              · exact vacant other member place named

/-- **A netlist can be placed exactly when its bels are there and no two cells share one.** -/
theorem exists_ofNetlist_iff {device : Device} {netlist : Netlist} (named : netlist.Named) :
    (∃ layout, Layout.ofNetlist device netlist = .ok layout) ↔ netlist.Placeable device := by
  have placed : (∃ layout, Layout.ofNetlist device netlist = .ok layout) ↔
      ∃ cellOn, place device ∅ netlist.cellList = .ok cellOn := by
    unfold Layout.ofNetlist
    cases place device ∅ netlist.cellList <;> simp
  rw [placed, exists_place_iff]
  constructor
  · rintro ⟨onDevice, _, apart⟩
    have : Std.Symm fun a b : Cell => ∀ bel, a.bel = some bel → b.bel ≠ some bel :=
      ⟨fun a b distinct bel here there => distinct bel there here⟩
    refine ⟨fun name cell found bel names => ?_, fun name other cell otherCell found found' bel
      here there => ?_⟩
    · cases named name cell found
      exact onDevice cell (named.mem_cellList_iff.2 found) bel names
    · cases named name cell found
      cases named other otherCell found'
      refine Decidable.byContradiction fun different => ?_
      refine apart.forall (named.mem_cellList_iff.2 found)
        (named.mem_cellList_iff.2 found') ?_ bel here there
      rintro rfl
      exact different rfl
  · rintro ⟨onDevice, apart⟩
    refine ⟨fun cell member => onDevice cell.name cell (named.mem_cellList_iff.1 member),
      fun _ _ _ _ => by simp, named.pairwise_cellList.imp_of_mem ?_⟩
    intro cell other member member' different bel here there
    exact different (apart _ _ cell other (named.mem_cellList_iff.1 member)
      (named.mem_cellList_iff.1 member') bel here there)

/-- At the beginning nothing is routed. -/
theorem WiresAgree.ofNetlist {device : Device} {netlist : Netlist} {layout : Layout}
    (unrouted : Netlist.Unrouted netlist.nets)
    (placed : Layout.ofNetlist device netlist = .ok layout) : layout.WiresAgree := by
  simp only [Layout.ofNetlist] at placed
  split at placed
  · cases placed
  · cases placed
    exact of_unrouted (fun name net found => (unrouted name net found).2) rfl rfl

/-! ### Putting on and taking off -/

section Bels

variable {layout : Layout} {bel : BelId} {name : Name}

theorem BelsAgree.of_sameCells (agree : layout.BelsAgree) {after : Layout}
    (same : layout.SameCells after) : after.BelsAgree := by
  refine ⟨?_, fun bel name => ?_, fun bel name there => ?_⟩
  · intro name cell found
    rw [Netlist.cell?, same.cells] at found
    exact agree.named name cell found
  · rw [same.cellOn, belOf?, same.cell?]
    exact agree.placed_iff bel name
  · rw [same.cellOn] at there
    rw [same.device]
    exact agree.onDevice bel name there

theorem BelsAgree.bindBel? (agree : layout.BelsAgree) {after : Layout}
    (bound : layout.bindBel? bel name = some after) : after.BelsAgree := by
  have asked : ¬ (layout.device.isBel bel = false ∨ layout.isFree bel = false ∨
      layout.cell? name = none) := by
    rw [← bindBel?_eq_none_iff, bound]
    simp
  simp only [not_or, Bool.not_eq_false] at asked
  obtain ⟨isBel, free, known⟩ := asked
  obtain ⟨cell, found⟩ := Option.ne_none_iff_exists'.1 known
  cases agree.named name cell found
  cases place : cell.bel with
  | none =>
      rw [bindBel?_unplaced isBel free found place] at bound
      cases bound
      exact agree.occupy isBel free found place
  | some old =>
      have there : layout.boundCell? old = some cell := agree.bound_iff.2 ⟨found, place⟩
      rw [bindBel?_placed agree there isBel free] at bound
      cases bound
      refine (agree.vacate there).occupy isBel (isFree_vacate_of_isFree free) ?_ rfl
      rw [cell?_vacate, if_pos rfl]

theorem BelsAgree.unbindBel? (agree : layout.BelsAgree) {after : Layout}
    (unbound : layout.unbindBel? bel = some (name, after)) : after.BelsAgree := by
  cases occupied : layout.cellOn[bel]? with
  | none => simp [Layout.unbindBel?, occupied] at unbound
  | some own =>
      obtain ⟨cell, there, _⟩ := agree.bound_of_cellOn occupied
      rw [unbindBel?_bound agree there] at unbound
      cases unbound
      exact agree.vacate there

theorem sameRouting_bindBel? {after : Layout} (bound : layout.bindBel? bel name = some after) :
    layout.SameRouting after := by
  unfold Layout.bindBel? at bound
  split at bound
  · obtain ⟨cell, _, rfl⟩ := Option.map_eq_some_iff.1 bound
    exact ⟨rfl, rfl, rfl, rfl⟩
  · cases bound

theorem sameRouting_unbindBel? {after : Layout}
    (unbound : layout.unbindBel? bel = some (name, after)) : layout.SameRouting after := by
  obtain ⟨own, _, same⟩ := Option.map_eq_some_iff.1 unbound
  cases same
  exact ⟨rfl, rfl, rfl, rfl⟩

end Bels

/-! ### Changes -/

/-- What may be done to a layout. -/
inductive Change where
  | bindBel (bel : BelId) (name : Name)
  | unbindBel (bel : BelId)
  | bindWire (wire : WireId) (name : Name)
  | bindPip (pip : PipId) (name : Name)
  | unbindWire (wire : WireId)

/-- Sources are named as their nodes are. -/
def Change.NamesNodes (device : Device) : Change → Prop
  | bindWire wire _ => device.canonical wire = wire
  | _ => True

/-- The layout after a change; a change that is refused, or that asks for a pip that is not there,
leaves it as it is. -/
def change (layout : Layout) : Change → Layout
  | .bindBel bel name => (layout.bindBel? bel name).getD layout
  | .unbindBel bel => ((layout.unbindBel? bel).map Prod.snd).getD layout
  | .bindWire wire name => (layout.bindWire? wire name).getD layout
  | .bindPip pip name => (layout.bindPip? pip name).toOption.join.getD layout
  | .unbindWire wire => layout.unbindWire wire

/-- The layout after some changes, one by one. -/
def changeAll (layout : Layout) (changes : List Change) : Layout :=
  changes.foldl change layout

/-- All that a change can have done. -/
theorem change_cases (layout : Layout) (change : Change) :
    layout.change change = layout ∨
      (∃ bel name, layout.bindBel? bel name = some (layout.change change)) ∨
      (∃ bel name, layout.unbindBel? bel = some (name, layout.change change)) ∨
      (∃ wire name, change = .bindWire wire name ∧
        layout.bindWire? wire name = some (layout.change change)) ∨
      (∃ pip name, layout.bindPip? pip name = .ok (some (layout.change change))) ∨
      ∃ wire, layout.change change = layout.unbindWire wire := by
  cases change with
  | bindBel bel name =>
      simp only [Layout.change]
      cases bound : layout.bindBel? bel name with
      | none => exact .inl rfl
      | some after => exact .inr (.inl ⟨bel, name, bound⟩)
  | unbindBel bel =>
      simp only [Layout.change]
      cases unbound : layout.unbindBel? bel with
      | none => exact .inl rfl
      | some answer => exact .inr (.inr (.inl ⟨bel, answer.1, unbound⟩))
  | bindWire wire name =>
      simp only [Layout.change]
      cases bound : layout.bindWire? wire name with
      | none => exact .inl rfl
      | some after => exact .inr (.inr (.inr (.inl ⟨wire, name, rfl, bound⟩)))
  | bindPip pip name =>
      simp only [Layout.change]
      cases answer : layout.bindPip? pip name with
      | error fault => exact .inl rfl
      | ok bound =>
          cases bound with
          | none => exact .inl rfl
          | some after => exact .inr (.inr (.inr (.inr (.inl ⟨pip, name, answer⟩))))
  | unbindWire wire => exact .inr (.inr (.inr (.inr (.inr ⟨wire, rfl⟩))))

/-- **One change keeps the agreement** of bels and of wires, and the device. -/
theorem change_keeps {layout : Layout} (bels : layout.BelsAgree) (wires : layout.WiresAgree)
    (change : Change) (named : change.NamesNodes layout.device) :
    (layout.change change).BelsAgree ∧ (layout.change change).WiresAgree ∧
      (layout.change change).device = layout.device := by
  rcases layout.change_cases change with same | ⟨bel, name, bound⟩ | ⟨bel, name, unbound⟩ |
    ⟨wire, name, rfl, bound⟩ | ⟨pip, name, bound⟩ | ⟨wire, same⟩
  · rw [same]
    exact ⟨bels, wires, rfl⟩
  · have same := sameRouting_bindBel? bound
    exact ⟨bels.bindBel? bound, wires.of_sameRouting same, same.device⟩
  · have same := sameRouting_unbindBel? unbound
    exact ⟨bels.unbindBel? unbound, wires.of_sameRouting same, same.device⟩
  · have same := sameDesign_bindWire? bound
    exact ⟨bels.of_sameCells same.toSameCells, wires.bindWire? named bound, same.device⟩
  · have same := sameDesign_bindPip? bound
    exact ⟨bels.of_sameCells same.toSameCells, wires.bindPip? bound, same.device⟩
  · rw [same]
    have same := layout.sameDesign_unbindWire wire
    exact ⟨bels.of_sameCells same.toSameCells, wires.unbindWire wire, same.device⟩

/-- Whatever is changed, nets are the same but for their wires. -/
theorem nets_change (layout : Layout) (change : Change) (name : Name) :
    ((layout.change change).net? name).map Net.unrouted =
      (layout.net? name).map Net.unrouted := by
  rcases layout.change_cases change with same | ⟨bel, own, bound⟩ | ⟨bel, own, unbound⟩ |
    ⟨wire, own, _, bound⟩ | ⟨pip, own, bound⟩ | ⟨wire, same⟩
  · rw [same]
  · rw [(sameRouting_bindBel? bound).net?]
  · rw [(sameRouting_unbindBel? unbound).net?]
  · exact (sameDesign_bindWire? bound).nets name
  · exact (sameDesign_bindPip? bound).nets name
  · rw [same]
    exact (layout.sameDesign_unbindWire wire).nets name

/-- **And so does a list of changes.** -/
theorem keeps_of_changes (changes : List Change) :
    ∀ {layout : Layout}, layout.BelsAgree → layout.WiresAgree →
      (∀ change ∈ changes, change.NamesNodes layout.device) →
      (layout.changeAll changes).BelsAgree ∧ (layout.changeAll changes).WiresAgree ∧
        (layout.changeAll changes).device = layout.device := by
  induction changes with
  | nil =>
      intro layout bels wires _
      exact ⟨bels, wires, rfl⟩
  | cons change rest ih =>
      intro layout bels wires named
      obtain ⟨bels', wires', same⟩ := change_keeps bels wires change (named change List.mem_cons_self)
      have later : ∀ other ∈ rest, other.NamesNodes (layout.change change).device := by
        intro other member
        rw [same]
        exact named other (List.mem_cons_of_mem _ member)
      obtain ⟨bels'', wires'', same'⟩ := ih bels' wires' later
      exact ⟨bels'', wires'', same'.trans same⟩

/-! ### What the agreement means -/

/-- What is kept twice is the same on both sides. -/
structure Consistent (layout : Layout) : Prop where
  bels : ∀ bel name, layout.cellOn[bel]? = some name ↔
    ∃ cell, layout.cell? name = some cell ∧ cell.bel = some bel
  wires : ∀ wire name, layout.wireNet? wire = some name ↔
    ∃ net, layout.net? name = some net ∧ wire ∈ net.wires
  pips : ∀ pip name, layout.pipNet? pip = some name ↔
    ∃ arc net, layout.device.arc? pip = some arc ∧ layout.net? name = some net ∧
      net.wires[arc.target]? = some (some pip)
  nodes : ∀ wire name, layout.wireNet? wire = some name → layout.device.canonical wire = wire

/-- Nothing is given away twice: two cells are on different bels, pips in use lead into different wires,
and nets have wires of different nodes. -/
structure Unshared (layout : Layout) : Prop where
  bels : ∀ name other cell otherCell bel, layout.cell? name = some cell →
    layout.cell? other = some otherCell → cell.bel = some bel → otherCell.bel = some bel →
      name = other
  pips : ∀ pip other arc otherArc name otherName, layout.pipNet? pip = some name →
    layout.pipNet? other = some otherName → layout.device.arc? pip = some arc →
      layout.device.arc? other = some otherArc → arc.target = otherArc.target → pip = other
  nodes : ∀ name other net otherNet wire otherWire, layout.net? name = some net →
    layout.net? other = some otherNet → wire ∈ net.wires → otherWire ∈ otherNet.wires →
      layout.device.canonical wire = layout.device.canonical otherWire →
        name = other ∧ wire = otherWire

section Agree

variable {layout : Layout}

theorem consistent_of_agree (bels : layout.BelsAgree) (wires : layout.WiresAgree) :
    layout.Consistent := by
  refine ⟨fun bel name => ?_, fun wire name => ?_, fun pip name => ?_, wires.canonical⟩
  · rw [bels.placed_iff, belOf?_eq_some_iff]
  · rw [wireNet?, wires.wire_iff, mem_wires_iff]
  · rw [pipNet?, wires.pip_iff]
    simp only [hold?_eq_some_iff]
    constructor
    · rintro ⟨arc, leads, net, found, held⟩
      exact ⟨arc, net, leads, found, held⟩
    · rintro ⟨arc, net, leads, found, held⟩
      exact ⟨arc, leads, net, found, held⟩

theorem Consistent.wiresOwned (consistent : layout.Consistent) : layout.WiresOwned := by
  intro wire name
  rw [mem_wires_iff]
  exact consistent.wires wire name

theorem unshared_of_agree (consistent : layout.Consistent) : layout.Unshared := by
  refine ⟨fun name other cell otherCell bel found found' here there => ?_,
    fun pip other arc otherArc name otherName used used' leads leads' same => ?_,
    fun name other net otherNet wire otherWire found found' member member' same => ?_⟩
  · have first := (consistent.bels bel name).2 ⟨cell, found, here⟩
    have second := (consistent.bels bel other).2 ⟨otherCell, found', there⟩
    exact Option.some.inj (first.symm.trans second)
  · obtain ⟨arc₁, net, leads₁, found, held⟩ := (consistent.pips pip name).1 used
    obtain ⟨arc₂, net', leads₂, found', held'⟩ := (consistent.pips other otherName).1 used'
    cases leads.symm.trans leads₁
    cases leads'.symm.trans leads₂
    -- Both pips are kept with one wire, and a wire is in one net.
    have mine := (consistent.wires arc.target name).2 ⟨net, found, by
      rw [Std.ExtTreeMap.mem_iff_isSome_getElem?, held]; rfl⟩
    have theirs := (consistent.wires arc.target otherName).2 ⟨net', found', by
      rw [same, Std.ExtTreeMap.mem_iff_isSome_getElem?, held']; rfl⟩
    cases mine.symm.trans theirs
    cases found.symm.trans found'
    rw [← same, held] at held'
    exact Option.some.inj (Option.some.inj held')
  · have mine := (consistent.wires wire name).2 ⟨net, found, member⟩
    have theirs := (consistent.wires otherWire other).2 ⟨otherNet, found', member'⟩
    rw [consistent.nodes wire name mine, consistent.nodes otherWire other theirs] at same
    rw [same] at mine
    exact ⟨Option.some.inj (mine.symm.trans theirs), same⟩

end Agree

/-- **Bindings stay consistent.**  The netlist of a list of cells can be placed exactly when the bels
that its cells name are there and no two of them share one; and whatever is done to the layout after
that, with sources named as their nodes are, both sides of every binding agree and nothing is given
away twice. -/
theorem bindings_consistent {lexicon : Lexicon} {cells : List Cell} {netlist : Netlist}
    (made : Netlist.ofCells lexicon cells = .ok netlist) (device : Device) :
    ((∃ layout, Layout.ofNetlist device netlist = .ok layout) ↔ netlist.Placeable device) ∧
      ∀ layout, Layout.ofNetlist device netlist = .ok layout →
        ∀ changes : List Change, (∀ change ∈ changes, change.NamesNodes device) →
          (layout.changeAll changes).Consistent ∧ (layout.changeAll changes).Unshared := by
  have named := Netlist.named_ofCells made
  refine ⟨exists_ofNetlist_iff named, fun layout placed changes final => ?_⟩
  obtain ⟨bels, own, _⟩ := BelsAgree.ofNetlist named placed
  rw [← own] at final
  have wires := WiresAgree.ofNetlist (Netlist.unrouted_ofCells made) placed
  obtain ⟨bels, wires, _⟩ := keeps_of_changes changes bels wires final
  have consistent := consistent_of_agree bels wires
  exact ⟨consistent, unshared_of_agree consistent⟩

end Layout

/-! ### A sample: a pad that feeds a waveform generator over the clock ring -/

namespace RingSample

/-- The output of the pad leads to the ring, and a loop of the tile that is joined to the ring leads to
the generator. -/
def tileType : TileType :=
  ⟨"IOB", #[⟨"P0", "IOP", 0, 0, [⟨"O", 0, .output⟩], none, none⟩,
      ⟨"W", "WFG", 1, 0, [⟨"ZI", 2, .input⟩], none, none⟩],
    #[⟨"P0.O", "", 0⟩, ⟨"ring", "", 1⟩, ⟨"W.ZI", "", 0⟩, ⟨"loop", "", 1⟩],
    #[⟨0, 1, 0, none⟩, ⟨3, 2, 0, none⟩], #[]⟩

def chip : Chip :=
  ⟨"ring", 1, 1, #[tileType], #[⟨0, some ⟨"IOB0", none⟩⟩], [[⟨0, 1⟩, ⟨0, 3⟩]], []⟩

def device : Device :=
  ⟨chip, by decide +kernel, Indexes.ofChip chip, rfl⟩

def cells : List Cell :=
  [{ Cell.bare "pad" "IOP" with
      ports := (∅ : Std.ExtTreeMap Name Port).insert "O" ⟨.output, some "clk"⟩
      bel := some ⟨0, 0⟩ },
    { Cell.bare "gen" "WFG" with
      ports := (∅ : Std.ExtTreeMap Name Port).insert "ZI" ⟨.input, some "clk"⟩
      bel := some ⟨0, 1⟩ }]

def netlist : Netlist :=
  ⟨.ofList (cells.map fun cell => (cell.name, cell)),
    (∅ : Std.ExtTreeMap Name Net).insert "clk"
      ⟨"clk", some ⟨"pad", "O"⟩, [⟨"gen", "ZI"⟩], ∅⟩⟩

theorem made : Netlist.ofCells .fresh cells = .ok netlist :=
  Netlist.ofCells_of_ordered (by decide +kernel) (by decide +kernel) (by decide +kernel)

def layout : Layout :=
  (Layout.ofNetlist device netlist).toOption.getD ⟨device, netlist, ∅, ∅, ∅⟩

theorem placed : Layout.ofNetlist device netlist = .ok layout :=
  Collecting.eq_ok_of_isSome (by decide +kernel)

/-- The source and both pips are taken, a pip is refused, and the ring and the generator's bel are
given back. -/
def changes : List Layout.Change :=
  [.bindWire ⟨0, 0⟩ "clk", .bindPip ⟨0, 0⟩ "clk", .bindPip ⟨0, 1⟩ "clk", .bindPip ⟨0, 1⟩ "clk",
    .unbindWire ⟨0, 1⟩, .unbindBel ⟨0, 1⟩]

theorem changes_nameNodes : ∀ change ∈ changes, change.NamesNodes device := by
  have source : device.canonical ⟨0, 0⟩ = ⟨0, 0⟩ := by decide +kernel
  simp only [changes, List.forall_mem_cons]
  exact ⟨source, trivial, trivial, trivial, trivial, trivial, by simp⟩

/-- The sample can be placed, and after some changes its bindings are still consistent. -/
theorem consistent_of_changes :
    netlist.Placeable device ∧
      (layout.changeAll changes).Consistent ∧ (layout.changeAll changes).Unshared :=
  ⟨(Layout.bindings_consistent made device).1.1 ⟨layout, placed⟩,
    (Layout.bindings_consistent made device).2 layout placed changes changes_nameNodes⟩

end RingSample

end UltraFabric
