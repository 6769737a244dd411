/-
# UltraFabric.Proofs.Bels — cells and bels name each other

A binding of a cell is kept twice: the cell names its bel, and the layout names the cell on the bel.
`Layout.BelsAgree` says that the two sides are the same relation, that cells are stored under their
own names, and that only bels of the device are occupied.  It holds of the layout that a netlist
describes (`BelsAgree.ofNetlist`) and is kept by taking a cell off (`BelsAgree.vacate`) and by
putting an unplaced cell on a free bel (`BelsAgree.occupy`).  Moving a cell is doing both
(`bindBel?_placed`), so nothing has to be said about moves.

`Layout.placedCells` lists what the bindings say.  Taking off and putting on change it by one entry,
up to order (`placedCells_vacate`, `placedCells_occupy`), and so they change whatever the placed cells
use together by what that cell uses (`uses_vacate`, `uses_occupy`).
-/
import Mathlib.Data.List.Basic
import UltraFabric.Layout
import UltraFabric.Proofs.Entries

namespace UltraFabric

set_option autoImplicit false

/-- Every cell is stored under its own name. -/
def Netlist.Named (netlist : Netlist) : Prop :=
  ∀ name cell, netlist.cell? name = some cell → cell.name = name

namespace Netlist

theorem named_empty : empty.Named := by
  intro name cell found
  simp [empty, cell?] at found

theorem Named.setCell {netlist : Netlist} (named : netlist.Named) (cell : Cell) :
    (netlist.setCell cell).Named := by
  intro name other found
  simp only [cell?, Netlist.setCell, Std.ExtTreeMap.getElem?_insert] at found
  split at found
  · rename_i same
    rw [Std.LawfulEqCmp.compare_eq_iff_eq] at same
    cases found
    exact same
  · exact named name other found

theorem Named.setNet {netlist : Netlist} (named : netlist.Named) (net : Net) :
    (netlist.setNet net).Named :=
  named

theorem named_collectCells (cells : List Cell) :
    ∀ (known all : Std.ExtTreeMap Name Cell) (nets : Std.ExtTreeMap Name Net),
      (⟨known, nets⟩ : Netlist).Named → collectCells known cells = .ok all →
        (⟨all, nets⟩ : Netlist).Named := by
  induction cells with
  | nil =>
      intro known all nets named collected
      cases collected
      exact named
  | cons cell rest ih =>
      intro known all nets named collected
      simp only [collectCells] at collected
      split at collected
      · cases collected
      · exact ih _ all nets (named.setCell cell) collected

section Making

variable {lexicon : Lexicon} {cells : List Cell} {netlist : Netlist}

/-- A netlist is made by storing the cells and joining their ends. -/
theorem ofCells_eq_ok_iff : ofCells lexicon cells = .ok netlist ↔
    collectCells ∅ cells = .ok netlist.cells ∧
      attachAll ∅ (endpoints lexicon netlist.cells) = .ok netlist.nets := by
  constructor
  · intro made
    simp only [ofCells] at made
    split at made
    · cases made
    rename_i all collected
    split at made
    · cases made
    rename_i nets joined
    cases made
    exact ⟨collected, joined⟩
  · rintro ⟨collected, joined⟩
    rw [ofCells, collected]
    simp only [joined]

/-- When names are in order already, the ends of cells are listed as the cells are stored. -/
theorem endpoints_of_ordered {all : Std.ExtTreeMap Name Cell}
    (ordered : all.keys.Pairwise fun name other => (lexicon.compareNames name other).isLE = true) :
    endpoints lexicon all = all.toList.flatMap fun entry => cellEndpoints lexicon entry.2 := by
  rw [endpoints, Lexicon.sort, List.mergeSort_of_pairwise ordered,
    ← Std.ExtTreeMap.map_fst_toList_eq_keys, List.flatMap_map]
  refine List.flatMap_congr fun entry member => ?_
  rw [Std.ExtTreeMap.mem_toList_iff_getElem?_eq_some.1 member]

theorem ofCells_of_ordered
    (ordered : netlist.cells.keys.Pairwise fun name other =>
      (lexicon.compareNames name other).isLE = true)
    (collected : collectCells ∅ cells = .ok netlist.cells)
    (joined : attachAll ∅ (netlist.cells.toList.flatMap fun entry => cellEndpoints lexicon entry.2) =
      .ok netlist.nets) : ofCells lexicon cells = .ok netlist := by
  rw [ofCells_eq_ok_iff, endpoints_of_ordered ordered]
  exact ⟨collected, joined⟩

/-- Netlists that are made from lists of cells store every cell under its own name. -/
theorem named_ofCells (made : ofCells lexicon cells = .ok netlist) : netlist.Named :=
  named_collectCells cells ∅ netlist.cells netlist.nets named_empty (ofCells_eq_ok_iff.1 made).1

end Making

end Netlist

namespace Layout

/-- Cells and bels name each other, and only bels of the device are named. -/
structure BelsAgree (layout : Layout) : Prop where
  named : layout.netlist.Named
  placed_iff : ∀ bel name, layout.cellOn[bel]? = some name ↔ layout.belOf? name = some bel
  onDevice : ∀ bel name, layout.cellOn[bel]? = some name → layout.device.isBel bel = true

theorem isFree_iff {layout : Layout} {bel : BelId} :
    layout.isFree bel = true ↔ layout.cellOn[bel]? = none := by
  rw [isFree, Std.ExtTreeMap.contains_eq_isSome_getElem?]
  cases layout.cellOn[bel]? <;> simp

theorem belOf?_eq_some_iff {layout : Layout} {name : Name} {bel : BelId} :
    layout.belOf? name = some bel ↔ ∃ cell, layout.cell? name = some cell ∧ cell.bel = some bel :=
  Option.bind_eq_some_iff

theorem boundCell?_eq_some_iff {layout : Layout} {bel : BelId} {cell : Cell} :
    layout.boundCell? bel = some cell ↔
      ∃ name, layout.cellOn[bel]? = some name ∧ layout.cell? name = some cell :=
  Option.bind_eq_some_iff

namespace BelsAgree

variable {layout : Layout} {bel : BelId} {name : Name} {cell : Cell}

theorem bound_iff (agree : layout.BelsAgree) :
    layout.boundCell? bel = some cell ↔
      layout.cell? cell.name = some cell ∧ cell.bel = some bel := by
  rw [boundCell?_eq_some_iff]
  constructor
  · rintro ⟨name, occupied, found⟩
    obtain ⟨other, found', placed⟩ := belOf?_eq_some_iff.1 ((agree.placed_iff bel name).1 occupied)
    cases found.symm.trans found'
    cases agree.named name cell found
    exact ⟨found, placed⟩
  · rintro ⟨found, placed⟩
    exact ⟨cell.name, (agree.placed_iff bel _).2 (belOf?_eq_some_iff.2 ⟨cell, found, placed⟩), found⟩

theorem cellOn_of_bound (agree : layout.BelsAgree) (bound : layout.boundCell? bel = some cell) :
    layout.cellOn[bel]? = some cell.name := by
  obtain ⟨found, placed⟩ := agree.bound_iff.1 bound
  exact (agree.placed_iff bel _).2 (belOf?_eq_some_iff.2 ⟨cell, found, placed⟩)

theorem bound_of_cellOn (agree : layout.BelsAgree) (occupied : layout.cellOn[bel]? = some name) :
    ∃ cell, layout.boundCell? bel = some cell ∧ cell.name = name := by
  obtain ⟨cell, found, placed⟩ := belOf?_eq_some_iff.1 ((agree.placed_iff bel name).1 occupied)
  exact ⟨cell, boundCell?_eq_some_iff.2 ⟨name, occupied, found⟩, agree.named name cell found⟩

theorem isBel_of_bound (agree : layout.BelsAgree) (bound : layout.boundCell? bel = some cell) :
    layout.device.isBel bel = true :=
  agree.onDevice bel cell.name (agree.cellOn_of_bound bound)

/-- A cell is on one bel only. -/
theorem bel_unique (agree : layout.BelsAgree) {other : BelId} {otherCell : Cell}
    (bound : layout.boundCell? bel = some cell)
    (bound' : layout.boundCell? other = some otherCell) (same : cell.name = otherCell.name) :
    bel = other := by
  obtain ⟨found, placed⟩ := agree.bound_iff.1 bound
  obtain ⟨found', placed'⟩ := agree.bound_iff.1 bound'
  rw [same, found'] at found
  cases found
  exact Option.some.inj (placed.symm.trans placed')

end BelsAgree

/-! ### The layout of a netlist -/

/-- Placing goes on from the bels that are occupied, and changes none of them. -/
theorem place_spec (device : Device) (cells : List Cell) :
    ∀ cellOn placed : Std.ExtTreeMap BelId Name, place device cellOn cells = .ok placed →
      (∀ bel name, placed[bel]? = some name ↔
        cellOn[bel]? = some name ∨ ∃ cell ∈ cells, cell.name = name ∧ cell.bel = some bel) ∧
      ∀ cell ∈ cells, ∀ bel, cell.bel = some bel → device.isBel bel = true := by
  induction cells with
  | nil =>
      intro cellOn placed done
      cases done
      simp
  | cons cell rest ih =>
      intro cellOn placed done
      simp only [place] at done
      split at done
      · cases done
      rename_i noMissing
      have sound : ∀ bel, cell.bel = some bel → device.isBel bel = true := by
        intro bel there
        have := List.find?_eq_none.1 noMissing bel (by simp [there])
        simpa using this
      split at done
      · rename_i unplaced
        obtain ⟨entries, sound'⟩ := ih cellOn placed done
        refine ⟨fun bel name => ?_, fun other member => ?_⟩
        · rw [entries bel name]
          simp [unplaced]
        · rcases List.mem_cons.1 member with rfl | member
          · exact sound
          · exact sound' other member
      · rename_i own there
        split at done
        · cases done
        rename_i vacant
        obtain ⟨entries, sound'⟩ := ih _ placed done
        refine ⟨fun bel name => ?_, fun other member => ?_⟩
        · rw [entries bel name, Std.ExtTreeMap.getElem?_insert]
          by_cases same : own = bel
          · subst same
            simp [vacant, there]
          · have other : ¬ cell.bel = some bel := by
              rw [there]
              exact fun e => same (Option.some.inj e)
            simp [same, other]
        · rcases List.mem_cons.1 member with rfl | member
          · exact sound
          · exact sound' other member

theorem BelsAgree.ofNetlist {device : Device} {netlist : Netlist} {layout : Layout}
    (named : netlist.Named) (placed : Layout.ofNetlist device netlist = .ok layout) :
    layout.BelsAgree ∧ layout.device = device ∧ layout.netlist = netlist := by
  simp only [Layout.ofNetlist] at placed
  split at placed
  · cases placed
  rename_i cellOn done
  cases placed
  obtain ⟨entries, sound⟩ := place_spec device netlist.cellList ∅ cellOn done
  have member_iff : ∀ cell, cell ∈ netlist.cellList ↔ netlist.cell? cell.name = some cell := by
    intro cell
    rw [Netlist.cellList, Entries.mem_values_iff]
    refine ⟨fun ⟨name, found⟩ => ?_, fun found => ⟨cell.name, found⟩⟩
    cases named name cell found
    exact found
  have placed_iff : ∀ bel name, cellOn[bel]? = some name ↔
      ∃ cell, netlist.cell? name = some cell ∧ cell.bel = some bel := by
    intro bel name
    rw [entries bel name]
    constructor
    · rintro (impossible | ⟨cell, member, rfl, there⟩)
      · simp at impossible
      · exact ⟨cell, (member_iff cell).1 member, there⟩
    · rintro ⟨cell, found, there⟩
      cases named name cell found
      exact Or.inr ⟨cell, (member_iff cell).2 found, rfl, there⟩
  refine ⟨⟨named, fun bel name => ?_, fun bel name occupied => ?_⟩, rfl, rfl⟩
  · rw [belOf?_eq_some_iff]
    exact placed_iff bel name
  · obtain ⟨cell, found, there⟩ := (placed_iff bel name).1 occupied
    cases named name cell found
    exact sound cell ((member_iff cell).2 found) bel there

/-! ### Taking off and putting on -/

/-- A layout in which a cell says that it is on `bel`, or on none, and bels are occupied as given. -/
def withCellAt (layout : Layout) (cell : Cell) (bel : Option BelId)
    (cellOn : Std.ExtTreeMap BelId Name) : Layout :=
  { layout with
    netlist := { layout.netlist with
      cells := layout.netlist.cells.insert cell.name { cell with bel } }
    cellOn }

section WithCellAt

variable (layout : Layout) (cell : Cell) (bel : Option BelId)
  (cellOn : Std.ExtTreeMap BelId Name)

theorem cell?_withCellAt (name : Name) :
    (layout.withCellAt cell bel cellOn).cell? name =
      if cell.name = name then some { cell with bel } else layout.cell? name := by
  simp [withCellAt, cell?, Netlist.cell?, Std.ExtTreeMap.getElem?_insert]

theorem belOf?_withCellAt (name : Name) :
    (layout.withCellAt cell bel cellOn).belOf? name =
      if cell.name = name then bel else layout.belOf? name := by
  rw [belOf?, cell?_withCellAt, belOf?]
  split <;> rfl

theorem named_withCellAt (named : layout.netlist.Named) :
    (layout.withCellAt cell bel cellOn).netlist.Named :=
  named.setCell { cell with bel }

/-- Only the last thing said of a cell counts. -/
theorem withCellAt_withCellAt (before : Option BelId) (cellOn' : Std.ExtTreeMap BelId Name) :
    (layout.withCellAt cell before cellOn').withCellAt { cell with bel := before } bel cellOn =
      layout.withCellAt cell bel cellOn := by
  have same : (layout.netlist.cells.insert cell.name { cell with bel := before }).insert cell.name
      { cell with bel } = layout.netlist.cells.insert cell.name { cell with bel } := by
    apply Std.ExtTreeMap.ext_getElem?
    intro name
    simp only [Std.ExtTreeMap.getElem?_insert]
    split <;> rfl
  simp only [withCellAt, same]

end WithCellAt

/-- Taking the cell off a bel. -/
def vacate (layout : Layout) (bel : BelId) (cell : Cell) : Layout :=
  layout.withCellAt cell none (layout.cellOn.erase bel)

/-- Putting an unplaced cell on a bel. -/
def occupy (layout : Layout) (bel : BelId) (cell : Cell) : Layout :=
  layout.withCellAt cell (some bel) (layout.cellOn.insert bel cell.name)

theorem bindBel?_eq_none_iff {layout : Layout} {bel : BelId} {name : Name} :
    layout.bindBel? bel name = none ↔
      layout.device.isBel bel = false ∨ layout.isFree bel = false ∨ layout.cell? name = none := by
  unfold bindBel?
  cases layout.device.isBel bel <;> cases layout.isFree bel <;> simp

section Moves

variable {layout : Layout} {bel : BelId} {cell : Cell}

theorem unbindBel?_bound (agree : layout.BelsAgree) (bound : layout.boundCell? bel = some cell) :
    layout.unbindBel? bel = some (cell.name, layout.vacate bel cell) := by
  simp only [unbindBel?, agree.cellOn_of_bound bound, Option.map_some, (agree.bound_iff.1 bound).1]
  rfl

theorem bindBel?_unplaced (isBel : layout.device.isBel bel = true)
    (free : layout.isFree bel = true) (found : layout.cell? cell.name = some cell)
    (unplaced : cell.bel = none) :
    layout.bindBel? bel cell.name = some (layout.occupy bel cell) := by
  simp only [bindBel?, isBel, free, Bool.and_self, if_true, found, Option.map_some, unplaced]
  rfl

/-- A cell without its place; it is stored once it has been taken off. -/
theorem cell?_vacate (name : Name) :
    (layout.vacate bel cell).cell? name =
      if cell.name = name then some { cell with bel := none } else layout.cell? name :=
  cell?_withCellAt layout cell none _ name

theorem cell?_occupy (name : Name) :
    (layout.occupy bel cell).cell? name =
      if cell.name = name then some { cell with bel := some bel } else layout.cell? name :=
  cell?_withCellAt layout cell (some bel) _ name

/-- **A move is taking off and putting on.** -/
theorem bindBel?_placed {old : BelId} (agree : layout.BelsAgree)
    (bound : layout.boundCell? old = some cell) (isBel : layout.device.isBel bel = true)
    (free : layout.isFree bel = true) :
    layout.bindBel? bel cell.name =
      some ((layout.vacate old cell).occupy bel { cell with bel := none }) := by
  obtain ⟨found, placed⟩ := agree.bound_iff.1 bound
  have twice := withCellAt_withCellAt layout cell (some bel)
    ((layout.cellOn.erase old).insert bel cell.name) none (layout.cellOn.erase old)
  simp only [bindBel?, isBel, free, Bool.and_self, if_true, found, Option.map_some, placed]
  exact congrArg some twice.symm

theorem isFree_vacate_of_isFree {old : BelId} (free : layout.isFree bel = true) :
    (layout.vacate old cell).isFree bel = true := by
  rw [isFree_iff] at free ⊢
  simp [vacate, withCellAt, Std.ExtTreeMap.getElem?_erase, free]

theorem BelsAgree.vacate (agree : layout.BelsAgree) (bound : layout.boundCell? bel = some cell) :
    (layout.vacate bel cell).BelsAgree := by
  have occupied := agree.cellOn_of_bound bound
  have entry : ∀ other, (layout.vacate bel cell).cellOn[other]? =
      if bel = other then none else layout.cellOn[other]? := by
    intro other
    simp [Layout.vacate, withCellAt, Std.ExtTreeMap.getElem?_erase]
  refine ⟨named_withCellAt _ _ _ _ agree.named, fun other name => ?_, fun other name there => ?_⟩
  · rw [entry, Layout.vacate, belOf?_withCellAt]
    by_cases mine : cell.name = name
    · -- The cell itself: it was on `bel` only.
      subst mine
      by_cases here : bel = other
      · simp [here]
      · have elsewhere : ¬ layout.cellOn[other]? = some cell.name := by
          rw [agree.placed_iff, (agree.placed_iff bel cell.name).1 occupied]
          exact fun e => here (Option.some.inj e)
        simp [here, elsewhere]
    · by_cases here : bel = other
      · subst here
        have other : ¬ layout.belOf? name = some bel := by
          rw [← agree.placed_iff, occupied]
          exact fun e => mine (Option.some.inj e)
        simp [mine, other]
      · simp [mine, here, agree.placed_iff]
  · rw [entry] at there
    split at there
    · cases there
    · exact agree.onDevice other name there

theorem BelsAgree.occupy (agree : layout.BelsAgree) (isBel : layout.device.isBel bel = true)
    (free : layout.isFree bel = true) (found : layout.cell? cell.name = some cell)
    (unplaced : cell.bel = none) : (layout.occupy bel cell).BelsAgree := by
  rw [isFree_iff] at free
  have entry : ∀ other, (layout.occupy bel cell).cellOn[other]? =
      if bel = other then some cell.name else layout.cellOn[other]? := by
    intro other
    simp [Layout.occupy, withCellAt, Std.ExtTreeMap.getElem?_insert]
  have nowhere : layout.belOf? cell.name = none := by
    simp [belOf?, found, unplaced]
  refine ⟨named_withCellAt _ _ _ _ agree.named, fun other name => ?_, fun other name there => ?_⟩
  · rw [entry, Layout.occupy, belOf?_withCellAt]
    by_cases mine : cell.name = name
    · subst mine
      by_cases here : bel = other
      · simp [here]
      · simp [here, agree.placed_iff, nowhere]
    · by_cases here : bel = other
      · subst here
        simp [mine, ← agree.placed_iff, free]
      · simp [mine, here, agree.placed_iff]
  · rw [entry] at there
    split at there
    · rename_i here
      rw [← here]
      exact isBel
    · exact agree.onDevice other name there

end Moves

/-! ### The placed cells -/

section PlacedCells

variable {layout : Layout} {bel : BelId} {cell : Cell}

theorem boundCell?_vacate (agree : layout.BelsAgree) (bound : layout.boundCell? bel = some cell)
    (other : BelId) :
    (layout.vacate bel cell).boundCell? other =
      if bel = other then none else layout.boundCell? other := by
  have entry : (layout.vacate bel cell).cellOn[other]? =
      if bel = other then none else layout.cellOn[other]? := by
    simp [Layout.vacate, withCellAt, Std.ExtTreeMap.getElem?_erase]
  rw [boundCell?, boundCell?, entry]
  split
  · rfl
  · rename_i elsewhere
    cases occupied : layout.cellOn[other]? with
    | none => rfl
    | some name =>
        obtain ⟨otherCell, bound', rfl⟩ := agree.bound_of_cellOn occupied
        have different : ¬ cell.name = otherCell.name :=
          fun same => elsewhere (agree.bel_unique bound bound' same)
        simp only [Option.bind_some, cell?_vacate, different, if_false]

theorem boundCell?_occupy (agree : layout.BelsAgree) (found : layout.cell? cell.name = some cell)
    (unplaced : cell.bel = none) (other : BelId) :
    (layout.occupy bel cell).boundCell? other =
      if bel = other then some { cell with bel := some bel } else layout.boundCell? other := by
  have entry : (layout.occupy bel cell).cellOn[other]? =
      if bel = other then some cell.name else layout.cellOn[other]? := by
    simp [Layout.occupy, withCellAt, Std.ExtTreeMap.getElem?_insert]
  rw [boundCell?, boundCell?, entry]
  split
  · simp only [Option.bind_some, cell?_occupy, if_true]
  · cases occupied : layout.cellOn[other]? with
    | none => rfl
    | some name =>
        obtain ⟨otherCell, bound', rfl⟩ := agree.bound_of_cellOn occupied
        have different : ¬ cell.name = otherCell.name := by
          intro same
          obtain ⟨found', placed⟩ := agree.bound_iff.1 bound'
          rw [← same, found] at found'
          cases found'
          rw [unplaced] at placed
          cases placed
        simp only [Option.bind_some, cell?_occupy, different, if_false]

/-- The cells that are named by a list of entries, with their bels. -/
def cellsOf (layout : Layout) (bels : List (BelId × Name)) : List (BelId × Cell) :=
  bels.filterMap fun (bel, name) => (layout.cell? name).map (bel, ·)

theorem cellsOf_cons (layout : Layout) (bel : BelId) (name : Name) (rest : List (BelId × Name)) :
    layout.cellsOf ((bel, name) :: rest) =
      match layout.cell? name with
      | none => layout.cellsOf rest
      | some cell => (bel, cell) :: layout.cellsOf rest := by
  simp only [cellsOf, List.filterMap_cons]
  cases layout.cell? name <;> rfl

/-- The placed cells with their bels. -/
def placedCells (layout : Layout) : List (BelId × Cell) :=
  layout.cellsOf layout.boundBels

theorem mem_placedCells_iff : (bel, cell) ∈ layout.placedCells ↔
    layout.boundCell? bel = some cell := by
  rw [placedCells, cellsOf, List.mem_filterMap, boundCell?_eq_some_iff]
  constructor
  · rintro ⟨⟨bel', name⟩, member, found⟩
    obtain ⟨cell', found, same⟩ := Option.map_eq_some_iff.1 found
    cases same
    exact ⟨name, Std.ExtTreeMap.mem_toList_iff_getElem?_eq_some.1 member, found⟩
  · rintro ⟨name, occupied, found⟩
    exact ⟨(bel, name), Std.ExtTreeMap.mem_toList_iff_getElem?_eq_some.2 occupied, by simp [found]⟩

/-- Every bel is listed once. -/
theorem pairwise_placedCells (layout : Layout) :
    layout.placedCells.Pairwise fun a b => a.1 ≠ b.1 := by
  refine List.Pairwise.filterMap _ ?_ layout.cellOn.distinct_keys_toList
  rintro ⟨bel, name⟩ ⟨bel', name'⟩ distinct ⟨b, cell⟩ found ⟨b', cell'⟩ found'
  obtain ⟨_, _, same⟩ := Option.map_eq_some_iff.1 (Option.mem_def.1 found)
  obtain ⟨_, _, same'⟩ := Option.map_eq_some_iff.1 (Option.mem_def.1 found')
  cases same
  cases same'
  rintro rfl
  exact distinct Std.ReflCmp.compare_self

theorem nodup_placedCells (layout : Layout) : layout.placedCells.Nodup :=
  layout.pairwise_placedCells.imp fun distinct same => distinct (congrArg Prod.fst same)

theorem placedCells_vacate (agree : layout.BelsAgree)
    (bound : layout.boundCell? bel = some cell) :
    layout.placedCells.Perm ((bel, cell) :: (layout.vacate bel cell).placedCells) := by
  have gone : (bel, cell) ∉ (layout.vacate bel cell).placedCells := by
    rw [mem_placedCells_iff, boundCell?_vacate agree bound, if_pos rfl]
    simp
  refine (List.perm_ext_iff_of_nodup (nodup_placedCells _)
    (List.nodup_cons.2 ⟨gone, nodup_placedCells _⟩)).2 ?_
  rintro ⟨other, otherCell⟩
  rw [List.mem_cons, mem_placedCells_iff, mem_placedCells_iff, boundCell?_vacate agree bound]
  by_cases here : bel = other
  · subst here
    simp [bound, eq_comm]
  · simp [here, Ne.symm here]

theorem placedCells_occupy (agree : layout.BelsAgree) (free : layout.isFree bel = true)
    (found : layout.cell? cell.name = some cell) (unplaced : cell.bel = none) :
    (layout.occupy bel cell).placedCells.Perm
      ((bel, { cell with bel := some bel }) :: layout.placedCells) := by
  have empty : layout.boundCell? bel = none := by
    rw [boundCell?, isFree_iff.1 free]
    rfl
  have new : (bel, { cell with bel := some bel }) ∉ layout.placedCells := by
    rw [mem_placedCells_iff, empty]
    simp
  refine (List.perm_ext_iff_of_nodup (nodup_placedCells _)
    (List.nodup_cons.2 ⟨new, nodup_placedCells _⟩)).2 ?_
  rintro ⟨other, otherCell⟩
  rw [List.mem_cons, mem_placedCells_iff, mem_placedCells_iff,
    boundCell?_occupy agree found unplaced]
  by_cases here : bel = other
  · subst here
    simp [empty, eq_comm]
  · simp [here, Ne.symm here]

/-- What all placed cells use together, when `of` gives what a cell uses on a bel. -/
def uses {α : Type} (layout : Layout) (of : BelId → Cell → List α) : List α :=
  layout.placedCells.flatMap fun (bel, cell) => of bel cell

theorem mem_uses_iff {α : Type} {of : BelId → Cell → List α} {use : α} :
    use ∈ layout.uses of ↔
      ∃ bel cell, layout.boundCell? bel = some cell ∧ use ∈ of bel cell := by
  rw [uses, List.mem_flatMap]
  constructor
  · rintro ⟨⟨bel, cell⟩, placed, used⟩
    exact ⟨bel, cell, mem_placedCells_iff.1 placed, used⟩
  · rintro ⟨bel, cell, bound, used⟩
    exact ⟨(bel, cell), mem_placedCells_iff.2 bound, used⟩

theorem uses_vacate {α : Type} (of : BelId → Cell → List α) (agree : layout.BelsAgree)
    (bound : layout.boundCell? bel = some cell) :
    (layout.uses of).Perm (of bel cell ++ (layout.vacate bel cell).uses of) :=
  (placedCells_vacate agree bound).flatMap_right _

theorem uses_occupy {α : Type} (of : BelId → Cell → List α) (agree : layout.BelsAgree)
    (free : layout.isFree bel = true) (found : layout.cell? cell.name = some cell)
    (unplaced : cell.bel = none) :
    ((layout.occupy bel cell).uses of).Perm
      (of bel { cell with bel := some bel } ++ layout.uses of) :=
  (placedCells_occupy agree free found unplaced).flatMap_right _

end PlacedCells

end Layout

end UltraFabric
