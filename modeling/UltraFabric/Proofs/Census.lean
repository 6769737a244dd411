/-
# UltraFabric.Proofs.Census — how many there are

A count of uses is a number of things on the chip, and both can be said without a list: the clock
pins of placed cells that take a net into a lobe (`Plan.ClockedAt`), and the bels of a bank whose pads
have some voltage (`Plan.ImposedAt`).  `count_allClockUses` and `count_allVoltageUses` say that the
uses of the placed cells, as the tallies count them, are as many as there are such pins and bels.  A
pin is counted once, even when several pins of one cell take the same net.
-/
import Mathlib.Data.List.Nodup
import Mathlib.Data.Set.Card
import UltraFabric.Proofs.Occupancy

namespace UltraFabric

set_option autoImplicit false

/-- A set has as many members as a list that has each of them once. -/
theorem ncard_eq_length {α : Type} {members : Set α} (items : List α) (nodup : items.Nodup)
    (member_iff : ∀ item, item ∈ items ↔ item ∈ members) : members.ncard = items.length := by
  classical
  have same : members = (items.toFinset : Set α) := by
    apply Set.ext
    intro item
    rw [List.coe_toFinset]
    exact (member_iff item).symm
  rw [same, Set.ncard_coe_finset, List.toFinset_card_of_nodup nodup]

namespace Plan

/-- A port, on a bel of a lobe, of a cell that takes a net through a buffer of the lobe. -/
def ClockedAt (plan : Plan) (lobe : Nat) (net : Name) (pin : BelId × Name) : Prop :=
  plan.fabric.tables.tiles.lobe? pin.1.tile = some lobe ∧
    ∃ cell, plan.layout.boundCell? pin.1 = some cell ∧ cell.portNet? pin.2 = some net ∧
      (plan.fabric.clocks.sinkTier? cell.type pin.2 = some .fabric ∨
        plan.fabric.clocks.sinkTier? cell.type pin.2 = some .ring)

/-- A bel of a bank with a pad that imposes a voltage. -/
def ImposedAt (plan : Plan) (bank voltage : String) (bel : BelId) : Prop :=
  plan.fabric.tables.tiles.bank bel.tile = bank ∧
    ∃ cell, plan.layout.boundCell? bel = some cell ∧ Primitive.isPad cell.type = true ∧
      cell.voltage? = some voltage

theorem imposedVoltage?_eq_some_iff {cell : Cell} {voltage : String} :
    imposedVoltage? cell = some voltage ↔
      Primitive.isPad cell.type = true ∧ cell.voltage? = some voltage := by
  rw [imposedVoltage?]
  cases Primitive.isPad cell.type <;> simp

/-- **Uses are as many as the pins behind them**, when every cell has one pin for each use, and a pin
tells on which bel it is. -/
theorem count_uses_eq_ncard {α γ : Type} [BEq α] (layout : Layout) {of : BelId → Cell → List α}
    {pins : BelId → Cell → List γ} {use : α} (belOf : γ → BelId)
    (same : ∀ bel cell, (of bel cell).count use = (pins bel cell).length)
    (nodup : ∀ bel cell, (pins bel cell).Nodup)
    (onBel : ∀ bel cell, ∀ pin ∈ pins bel cell, belOf pin = bel) :
    (layout.uses of).count use = {pin | pin ∈ layout.uses pins}.ncard := by
  have once : (layout.uses pins).Nodup := by
    refine List.nodup_flatMap.2 ⟨fun (bel, cell) _ => nodup bel cell, ?_⟩
    refine layout.pairwise_placedCells.imp fun distinct pin here there => ?_
    exact distinct ((onBel _ _ pin here).symm.trans (onBel _ _ pin there))
  have size : {pin | pin ∈ layout.uses pins}.ncard = (layout.uses pins).length :=
    ncard_eq_length _ once fun _ => Iff.rfl
  rw [size, Layout.uses, Layout.uses, List.count_flatMap, List.length_flatMap]
  exact congrArg List.sum (List.map_congr_left fun (bel, cell) _ => same bel cell)

/-- Something is used exactly when it has a pin. -/
theorem mem_uses_iff_pin {α γ : Type} [BEq α] [LawfulBEq α] {layout : Layout}
    {of : BelId → Cell → List α} {pins : BelId → Cell → List γ} {use : α}
    (same : ∀ bel cell, (of bel cell).count use = (pins bel cell).length) :
    use ∈ layout.uses of ↔ ∃ pin, pin ∈ layout.uses pins := by
  have used_iff : ∀ bel cell, use ∈ of bel cell ↔ ∃ pin, pin ∈ pins bel cell := by
    intro bel cell
    rw [← List.count_pos_iff, same bel cell, List.length_pos_iff_exists_mem]
  simp only [Layout.mem_uses_iff, used_iff]
  constructor
  · rintro ⟨bel, cell, bound, pin, taken⟩
    exact ⟨pin, bel, cell, bound, taken⟩
  · rintro ⟨pin, bel, cell, bound, taken⟩
    exact ⟨bel, cell, bound, pin, taken⟩

/-! ### Pads -/

/-- The bel of a placed cell, if its pad imposes the voltage. -/
def imposingBel (plan : Plan) (bank voltage : String) (bel : BelId) (cell : Cell) : List BelId :=
  if plan.fabric.tables.tiles.bank bel.tile = bank ∧ imposedVoltage? cell = some voltage then [bel]
  else []

theorem mem_imposingBel_iff {plan : Plan} {bank voltage : String} {bel place : BelId} {cell : Cell} :
    place ∈ plan.imposingBel bank voltage bel cell ↔ place = bel ∧
      plan.fabric.tables.tiles.bank bel.tile = bank ∧ imposedVoltage? cell = some voltage := by
  unfold imposingBel
  split
  · rename_i imposes
    simp [imposes]
  · rename_i imposes
    simp [imposes]

theorem mem_uses_imposingBel_iff {plan : Plan} {bank voltage : String} {bel : BelId} :
    bel ∈ plan.layout.uses (plan.imposingBel bank voltage) ↔ plan.ImposedAt bank voltage bel := by
  rw [Layout.mem_uses_iff]
  constructor
  · rintro ⟨place, cell, bound, imposes⟩
    obtain ⟨rfl, here, imposed⟩ := mem_imposingBel_iff.1 imposes
    exact ⟨here, cell, bound, imposedVoltage?_eq_some_iff.1 imposed⟩
  · rintro ⟨here, cell, bound, imposed⟩
    exact ⟨bel, cell, bound,
      mem_imposingBel_iff.2 ⟨rfl, here, imposedVoltage?_eq_some_iff.2 imposed⟩⟩

theorem count_voltageUses (plan : Plan) (bank voltage : String) (bel : BelId) (cell : Cell) :
    (plan.voltageUses bel cell).count ⟨bank, voltage⟩ =
      (plan.imposingBel bank voltage bel cell).length := by
  unfold voltageUses imposingBel
  cases imposedVoltage? cell with
  | none => simp
  | some own =>
      by_cases here : plan.fabric.tables.tiles.bank bel.tile = bank ∧ own = voltage
      · obtain ⟨rfl, rfl⟩ := here
        simp
      · have other : ¬ (⟨plan.fabric.tables.tiles.bank bel.tile, own⟩ : Keyed String String) =
            ⟨bank, voltage⟩ := by
          intro same
          cases same
          exact here ⟨rfl, rfl⟩
        simp [here, other]

/-- **The pads of a bank with some voltage are counted one by one.** -/
theorem count_allVoltageUses (plan : Plan) (bank voltage : String) :
    plan.allVoltageUses.count ⟨bank, voltage⟩ = {bel | plan.ImposedAt bank voltage bel}.ncard := by
  have nodup : ∀ bel cell, (plan.imposingBel bank voltage bel cell).Nodup := by
    intro bel cell
    unfold imposingBel
    split <;> simp
  have counted := count_uses_eq_ncard plan.layout id
    (plan.count_voltageUses bank voltage) nodup
    fun bel cell place imposes => (mem_imposingBel_iff.1 imposes).1
  simpa only [allVoltageUses, mem_uses_imposingBel_iff] using counted

theorem mem_allVoltageUses_iff_imposedAt {plan : Plan} {bank voltage : String} :
    (⟨bank, voltage⟩ : Keyed String String) ∈ plan.allVoltageUses ↔
      ∃ bel, plan.ImposedAt bank voltage bel := by
  rw [allVoltageUses, mem_uses_iff_pin (plan.count_voltageUses bank voltage)]
  exact exists_congr fun bel => mem_uses_imposingBel_iff

/-! ### Clock pins -/

/-- Whether a port of a cell takes a net through a buffer. -/
def takesNet (plan : Plan) (cell : Cell) (net : Name) (port : Name × Port) : Bool :=
  match plan.fabric.clocks.sinkTier? cell.type port.1 with
  | some .fabric | some .ring => port.2.net = some net
  | _ => false

theorem takesNet_iff {plan : Plan} {cell : Cell} {net port : Name} {info : Port} :
    plan.takesNet cell net (port, info) = true ↔ info.net = some net ∧
      (plan.fabric.clocks.sinkTier? cell.type port = some .fabric ∨
        plan.fabric.clocks.sinkTier? cell.type port = some .ring) := by
  simp only [takesNet]
  split <;> simp_all

/-- The pins of a placed cell that take a net into a lobe. -/
def clockedPins (plan : Plan) (lobe : Nat) (net : Name) (bel : BelId) (cell : Cell) :
    List (BelId × Name) :=
  if plan.fabric.tables.tiles.lobe? bel.tile = some lobe then
    (cell.ports.toList.filter (plan.takesNet cell net)).map fun port => (bel, port.1)
  else []

theorem mem_clockedPins_iff {plan : Plan} {lobe : Nat} {net : Name} {bel : BelId} {cell : Cell}
    {pin : BelId × Name} :
    pin ∈ plan.clockedPins lobe net bel cell ↔ pin.1 = bel ∧
      plan.fabric.tables.tiles.lobe? bel.tile = some lobe ∧ cell.portNet? pin.2 = some net ∧
      (plan.fabric.clocks.sinkTier? cell.type pin.2 = some .fabric ∨
        plan.fabric.clocks.sinkTier? cell.type pin.2 = some .ring) := by
  unfold clockedPins
  split
  · rename_i here
    rw [List.mem_map]
    constructor
    · rintro ⟨⟨port, info⟩, taken, rfl⟩
      obtain ⟨member, takes⟩ := List.mem_filter.1 taken
      obtain ⟨joined, tier⟩ := takesNet_iff.1 takes
      have found := Std.ExtTreeMap.mem_toList_iff_getElem?_eq_some.1 member
      refine ⟨rfl, here, ?_, tier⟩
      simp only [Cell.portNet?, found, Option.bind_some, joined]
    · rintro ⟨same, _, joined, tier⟩
      obtain ⟨info, found, joined⟩ := Option.bind_eq_some_iff.1 joined
      refine ⟨(pin.2, info), List.mem_filter.2 ⟨?_, takesNet_iff.2 ⟨joined, tier⟩⟩, ?_⟩
      · exact Std.ExtTreeMap.mem_toList_iff_getElem?_eq_some.2 found
      · rw [← same]
  · rename_i elsewhere
    simp [elsewhere]

theorem mem_uses_clockedPins_iff {plan : Plan} {lobe : Nat} {net : Name} {pin : BelId × Name} :
    pin ∈ plan.layout.uses (plan.clockedPins lobe net) ↔ plan.ClockedAt lobe net pin := by
  rw [Layout.mem_uses_iff]
  constructor
  · rintro ⟨bel, cell, bound, taken⟩
    obtain ⟨rfl, here, joined, tier⟩ := mem_clockedPins_iff.1 taken
    exact ⟨here, cell, bound, joined, tier⟩
  · rintro ⟨here, cell, bound, joined, tier⟩
    exact ⟨pin.1, cell, bound, mem_clockedPins_iff.2 ⟨rfl, here, joined, tier⟩⟩

theorem nodup_clockedPins (plan : Plan) (lobe : Nat) (net : Name) (bel : BelId) (cell : Cell) :
    (plan.clockedPins lobe net bel cell).Nodup := by
  unfold clockedPins
  split
  · have distinct : (cell.ports.toList.filter (plan.takesNet cell net)).Pairwise
        fun a b => a.1 ≠ b.1 := by
      refine (cell.ports.distinct_keys_toList.imp ?_).filter _
      rintro ⟨port, info⟩ ⟨other, info'⟩ distinct rfl
      exact distinct Std.ReflCmp.compare_self
    refine List.Pairwise.map _ ?_ distinct
    intro port other distinct same
    exact distinct (Prod.mk.inj same).2
  · exact List.nodup_nil

theorem count_bufferedNets (plan : Plan) (cell : Cell) (net : Name) :
    (plan.bufferedNets cell).count net =
      (cell.ports.toList.filter (plan.takesNet cell net)).length := by
  rw [bufferedNets, List.count_filterMap, List.countP_eq_length_filter]
  refine congrArg List.length (List.filter_congr ?_)
  rintro ⟨port, info⟩ _
  simp only [takesNet]
  split <;> simp_all [Bool.beq_eq_decide_eq]

theorem count_clockUses (plan : Plan) (lobe : Nat) (net : Name) (bel : BelId) (cell : Cell) :
    (plan.clockUses bel cell).count ⟨lobe, net⟩ =
      (plan.clockedPins lobe net bel cell).length := by
  unfold clockUses clockedPins
  cases plan.fabric.tables.tiles.lobe? bel.tile with
  | none => simp
  | some own =>
      by_cases here : own = lobe
      · subst here
        rw [if_pos rfl, List.length_map, ← count_bufferedNets]
        refine List.count_map_of_injective _ _ ?_ _
        intro net net' same
        cases same
        rfl
      · have absent : (⟨lobe, net⟩ : Keyed Nat Name) ∉
            (plan.bufferedNets cell).map fun net => ⟨own, net⟩ := by
          rw [List.mem_map]
          rintro ⟨other, _, same⟩
          cases same
          exact here rfl
        simp only [Option.some.injEq, here, if_false, List.length_nil]
        exact List.count_eq_zero_of_not_mem absent

/-- **The clock pins of a lobe on some net are counted one by one.** -/
theorem count_allClockUses (plan : Plan) (lobe : Nat) (net : Name) :
    plan.allClockUses.count ⟨lobe, net⟩ = {pin | plan.ClockedAt lobe net pin}.ncard := by
  have counted := count_uses_eq_ncard plan.layout Prod.fst
    (plan.count_clockUses lobe net) (plan.nodup_clockedPins lobe net)
    fun bel cell pin taken => (mem_clockedPins_iff.1 taken).1
  simpa only [allClockUses, mem_uses_clockedPins_iff] using counted

/-- A lobe uses the nets that are at its clock pins. -/
theorem mem_allClockUses_iff_clockedAt {plan : Plan} {lobe : Nat} {net : Name} :
    (⟨lobe, net⟩ : Keyed Nat Name) ∈ plan.allClockUses ↔ ∃ pin, plan.ClockedAt lobe net pin := by
  rw [allClockUses, mem_uses_iff_pin (plan.count_clockUses lobe net)]
  exact exists_congr fun pin => mem_uses_clockedPins_iff

end Plan

end UltraFabric
