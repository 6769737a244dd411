/-
# UltraFabric.Proofs.Commit — making the moves of a placement

A placement is made by taking its members off their bels and then putting each of them on its own
(`Plan.commit`).  Both are done one member at a time and keep that cells and bels name each other.

* `lifted_takeOffs`: taking off leaves the members without a bel, and counts nothing more;
* `landed_putOns`: members that are ready, with bels that are free, get there, and what is counted then
  was counted before or is used by one of them;
* `committed_commit`: so every member arrives if its bel was empty or held by another member.

`OnlyMoves` is what stays throughout: everything but the places of cells and the counts.
-/
import UltraFabric.Legality
import UltraFabric.Proofs.Occupancy

namespace UltraFabric

set_option autoImplicit false

theorem Layout.cell?_eq_map (layout : Layout) (name : Name) :
    layout.cell? name =
      (layout.cell? name).map fun cell => { cell with bel := layout.belOf? name } := by
  rw [belOf?]
  cases layout.cell? name <;> rfl

/-- The uses of the members of a placement at their places. -/
def Layout.UsedBy {α : Type} (layout : Layout) (of : BelId → Cell → List α) (placement : Placement)
    (use : α) : Prop :=
  ∃ entry ∈ placement, ∃ cell, layout.cell? entry.1 = some cell ∧ use ∈ of entry.2 cell

theorem Tally.count_arrive_ne_zero_iff {γ μ : Type} [Ord γ] [Ord μ] [Std.TransOrd γ] [Std.TransOrd μ]
    [DecidableEq γ] [DecidableEq μ] [Std.LawfulEqOrd γ] [Std.LawfulEqOrd μ] {tally : Tally γ μ}
    {uses : List (Keyed γ μ)} {group : γ} {member : μ} :
    (tally.changeAll true uses).count group member ≠ 0 ↔
      tally.count group member ≠ 0 ∨ (⟨group, member⟩ : Keyed γ μ) ∈ uses := by
  rw [count_changeAll_arrive, ← List.count_pos_iff]
  omega

namespace Plan

/-! ### Making moves -/

/-- Takes a cell off its bel, if it is on one. -/
def takeOff (plan : Plan) (name : Name) : Plan :=
  match plan.layout.belOf? name with
  | some bel => (plan.unbind bel).2
  | none => plan

/-- Puts a cell on a bel. -/
def putOn (plan : Plan) (entry : Name × BelId) : Plan :=
  (plan.bind entry.2 entry.1).2

/-- Takes some cells off their bels, and then puts cells on bels. -/
def commit (plan : Plan) (leaving : List Name) (arriving : Placement) : Plan :=
  arriving.foldl putOn (leaving.foldl takeOff plan)

/-- Cells may have other places, and other uses may be counted; nothing else has changed. -/
structure OnlyMoves (before after : Plan) : Prop where
  lexicon : after.lexicon = before.lexicon
  fabric : after.fabric = { before.fabric with occupancy := after.fabric.occupancy }
  device : after.layout.device = before.layout.device
  nets : after.layout.netlist.nets = before.layout.netlist.nets
  wires : after.layout.netOnWire = before.layout.netOnWire
  pips : after.layout.netOnPip = before.layout.netOnPip
  cells : ∀ name, after.layout.cell? name =
    (before.layout.cell? name).map fun cell => { cell with bel := after.layout.belOf? name }

namespace OnlyMoves

variable {before between after : Plan}

theorem refl (plan : Plan) : plan.OnlyMoves plan :=
  ⟨rfl, rfl, rfl, rfl, rfl, rfl, plan.layout.cell?_eq_map⟩

theorem trans (first : before.OnlyMoves between) (second : between.OnlyMoves after) :
    before.OnlyMoves after where
  lexicon := second.lexicon.trans first.lexicon
  fabric := by rw [second.fabric, first.fabric]
  device := second.device.trans first.device
  nets := second.nets.trans first.nets
  wires := second.wires.trans first.wires
  pips := second.pips.trans first.pips
  cells name := by
    rw [second.cells, first.cells, Option.map_map]
    rfl

end OnlyMoves

section OneMove

variable {plan : Plan} {bel : BelId} {cell : Cell}

/-- A cell that is stored under its name moves, and no other. -/
theorem cells_withCellAt {layout : Layout} (found : layout.cell? cell.name = some cell)
    (place : Option BelId) (cellOn : Std.ExtTreeMap BelId Name) (name : Name) :
    (layout.withCellAt cell place cellOn).cell? name = (layout.cell? name).map fun cell' =>
      { cell' with bel := (layout.withCellAt cell place cellOn).belOf? name } := by
  rw [Layout.cell?_withCellAt, Layout.belOf?_withCellAt]
  split
  · rename_i own
    rw [← own, found]
    rfl
  · exact layout.cell?_eq_map name

theorem onlyMoves_leave (found : plan.layout.cell? cell.name = some cell) :
    plan.OnlyMoves (plan.leave bel cell) :=
  ⟨rfl, rfl, rfl, rfl, rfl, rfl, cells_withCellAt found none _⟩

theorem onlyMoves_arrive (found : plan.layout.cell? cell.name = some cell) :
    plan.OnlyMoves (plan.arrive bel cell) :=
  ⟨rfl, rfl, rfl, rfl, rfl, rfl, cells_withCellAt found (some bel) _⟩

end OneMove

/-! ### Taking off -/

/-- Some cells have been taken off, and nothing more is counted. -/
structure Lifted (before : Plan) (names : List Name) (after : Plan) : Prop where
  agree : after.layout.BelsAgree
  moves : before.OnlyMoves after
  belOf? : ∀ name, after.layout.belOf? name =
    if name ∈ names then none else before.layout.belOf? name
  clocks : ∀ lobe net, after.fabric.occupancy.clocks.count lobe net ≤
    before.fabric.occupancy.clocks.count lobe net
  voltages : ∀ bank voltage, after.fabric.occupancy.voltages.count bank voltage ≤
    before.fabric.occupancy.voltages.count bank voltage

theorem lifted_nil {plan : Plan} (agree : plan.layout.BelsAgree) : plan.Lifted [] plan :=
  ⟨agree, .refl plan, fun _ => by simp, fun _ _ => Nat.le_refl _, fun _ _ => Nat.le_refl _⟩

theorem Lifted.trans {before between after : Plan} {names others : List Name}
    (first : before.Lifted names between) (second : between.Lifted others after) :
    before.Lifted (names ++ others) after where
  agree := second.agree
  moves := first.moves.trans second.moves
  belOf? name := by
    rw [second.belOf?, first.belOf?]
    by_cases now : name ∈ others
    · simp [now]
    · simp [now]
  clocks lobe net := Nat.le_trans (second.clocks lobe net) (first.clocks lobe net)
  voltages bank voltage :=
    Nat.le_trans (second.voltages bank voltage) (first.voltages bank voltage)

/-- A cell has no bel and nothing happens, or it leaves its bel. -/
theorem takeOff_cases {plan : Plan} (agree : plan.layout.BelsAgree) (name : Name) :
    (plan.layout.belOf? name = none ∧ plan.takeOff name = plan) ∨
      ∃ bel cell, plan.layout.boundCell? bel = some cell ∧ cell.name = name ∧
        plan.takeOff name = plan.leave bel cell := by
  cases placed : plan.layout.belOf? name with
  | none => exact Or.inl ⟨rfl, by simp only [takeOff, placed]⟩
  | some bel =>
      obtain ⟨cell, bound, own⟩ := agree.bound_of_cellOn ((agree.placed_iff bel name).2 placed)
      refine Or.inr ⟨bel, cell, bound, own, ?_⟩
      simp only [takeOff, placed]
      rcases unbind_cases agree bel with ⟨empty, _⟩ | ⟨other, bound', same⟩
      · cases bound.symm.trans empty
      · cases bound.symm.trans bound'
        rw [same]

theorem lifted_takeOff {plan : Plan} (agree : plan.layout.BelsAgree) (name : Name) :
    plan.Lifted [name] (plan.takeOff name) := by
  rcases takeOff_cases agree name with ⟨unplaced, same⟩ | ⟨bel, cell, bound, rfl, same⟩
  · rw [same]
    refine ⟨agree, .refl plan, fun other => ?_, fun _ _ => Nat.le_refl _, fun _ _ => Nat.le_refl _⟩
    split
    · rename_i own
      rw [List.mem_singleton.1 own, unplaced]
    · rfl
  · rw [same]
    refine ⟨agree.vacate bound, onlyMoves_leave (agree.bound_iff.1 bound).1, fun other => ?_,
      fun lobe net => ?_, fun bank voltage => ?_⟩
    · rw [leave, Layout.vacate, Layout.belOf?_withCellAt]
      simp only [List.mem_singleton, eq_comm]
    · rw [leave, trackedOccupancy_eq, Tally.count_changeAll_leave]
      exact Nat.sub_le _ _
    · rw [leave, trackedOccupancy_eq, Tally.count_changeAll_leave]
      exact Nat.sub_le _ _

/-- **Taking off leaves the members without a bel.** -/
theorem lifted_takeOffs (names : List Name) :
    ∀ {plan : Plan}, plan.layout.BelsAgree → plan.Lifted names (names.foldl takeOff plan) := by
  induction names with
  | nil =>
      intro plan agree
      exact lifted_nil agree
  | cons name rest ih =>
      intro plan agree
      have first := lifted_takeOff agree name
      exact first.trans (ih first.agree)

/-! ### Putting on -/

/-- The members of a placement are not placed, and their bels are free. -/
structure ReadyFor (plan : Plan) (placement : Placement) : Prop where
  names : (placement.map Prod.fst).Nodup
  bels : (placement.map Prod.snd).Nodup
  unplaced : ∀ entry ∈ placement, ∃ cell, plan.layout.cell? entry.1 = some cell ∧ cell.bel = none
  vacant : ∀ entry ∈ placement,
    plan.layout.device.isBel entry.2 = true ∧ plan.layout.isFree entry.2 = true

/-- The members of a placement have arrived, and their uses are counted. -/
structure Landed (before : Plan) (placement : Placement) (after : Plan) : Prop where
  agree : after.layout.BelsAgree
  moves : before.OnlyMoves after
  there : ∀ entry ∈ placement, after.layout.belOf? entry.1 = some entry.2
  others : ∀ name, name ∉ placement.map Prod.fst →
    after.layout.belOf? name = before.layout.belOf? name
  clocks : ∀ lobe net, after.fabric.occupancy.clocks.count lobe net ≠ 0 ↔
    before.fabric.occupancy.clocks.count lobe net ≠ 0 ∨
      before.layout.UsedBy before.clockUses placement ⟨lobe, net⟩
  voltages : ∀ bank voltage, after.fabric.occupancy.voltages.count bank voltage ≠ 0 ↔
    before.fabric.occupancy.voltages.count bank voltage ≠ 0 ∨
      before.layout.UsedBy before.voltageUses placement ⟨bank, voltage⟩

section Arrive

variable {plan : Plan} {bel : BelId} {cell : Cell}

/-- Uses of members that are still to come do not change when another one arrives. -/
theorem usedBy_arrive_iff {α : Type} {of : BelId → Cell → List α} {rest : Placement}
    (apart : cell.name ∉ rest.map Prod.fst) (use : α) :
    (plan.arrive bel cell).layout.UsedBy of rest use ↔ plan.layout.UsedBy of rest use := by
  refine exists_congr fun entry => and_congr_right fun member => exists_congr fun other => ?_
  have different : ¬ cell.name = entry.1 := by
    intro same
    exact apart (List.mem_map.2 ⟨entry, member, same.symm⟩)
  rw [arrive, Layout.cell?_occupy, if_neg different]

theorem usedBy_cons_iff {α : Type} {of : BelId → Cell → List α} {rest : Placement}
    (found : plan.layout.cell? cell.name = some cell) (use : α) :
    plan.layout.UsedBy of ((cell.name, bel) :: rest) use ↔
      use ∈ of bel cell ∨ plan.layout.UsedBy of rest use := by
  simp only [Layout.UsedBy, List.mem_cons, exists_eq_or_imp, found, Option.some.injEq,
    exists_eq_left']

/-- When a member arrives, the others are still ready. -/
theorem ReadyFor.arrive {rest : Placement} (ready : plan.ReadyFor ((cell.name, bel) :: rest)) :
    (plan.arrive bel cell).ReadyFor rest := by
  obtain ⟨names, bels, unplaced, vacant⟩ := ready
  rw [List.map_cons, List.nodup_cons] at names bels
  refine ⟨names.2, bels.2, fun entry member => ?_, fun entry member => ?_⟩
  · have different : ¬ cell.name = entry.1 := by
      intro same
      exact names.1 (List.mem_map.2 ⟨entry, member, same.symm⟩)
    rw [Plan.arrive, Layout.cell?_occupy, if_neg different]
    exact unplaced entry (List.mem_cons_of_mem _ member)
  · have different : ¬ bel = entry.2 := by
      intro same
      exact bels.1 (List.mem_map.2 ⟨entry, member, same.symm⟩)
    obtain ⟨isBel, free⟩ := vacant entry (List.mem_cons_of_mem _ member)
    refine ⟨isBel, ?_⟩
    rw [Layout.isFree_iff] at free ⊢
    simp [Plan.arrive, Layout.occupy, Layout.withCellAt, Std.ExtTreeMap.getElem?_insert, different,
      free]

end Arrive

/-- **Members that are ready arrive.** -/
theorem landed_putOns (placement : Placement) :
    ∀ {plan : Plan}, plan.layout.BelsAgree → plan.ReadyFor placement →
      plan.Landed placement (placement.foldl putOn plan) := by
  induction placement with
  | nil =>
      intro plan agree _
      exact ⟨agree, .refl plan, by simp, fun _ _ => rfl, fun _ _ => by simp [Layout.UsedBy],
        fun _ _ => by simp [Layout.UsedBy]⟩
  | cons entry rest ih =>
      obtain ⟨name, bel⟩ := entry
      intro plan agree ready
      obtain ⟨cell, found, unplaced⟩ := ready.unplaced _ List.mem_cons_self
      obtain ⟨isBel, free⟩ := ready.vacant _ List.mem_cons_self
      cases agree.named name cell found
      have first : plan.putOn (cell.name, bel) = plan.arrive bel cell := by
        rw [putOn, bind_unplaced isBel free found unplaced]
      have apart : cell.name ∉ rest.map Prod.fst := by
        have names := ready.names
        rw [List.map_cons, List.nodup_cons] at names
        exact names.1
      have later := ih (agree.occupy isBel free found unplaced) ready.arrive
      rw [List.foldl_cons, first]
      refine ⟨later.agree, (onlyMoves_arrive found).trans later.moves, fun entry member => ?_,
        fun other outside => ?_, fun lobe net => ?_, fun bank voltage => ?_⟩
      · rcases List.mem_cons.1 member with rfl | member
        · rw [later.others _ apart, arrive, Layout.occupy, Layout.belOf?_withCellAt, if_pos rfl]
        · exact later.there entry member
      · rw [List.map_cons, List.mem_cons, not_or] at outside
        rw [later.others _ outside.2, arrive, Layout.occupy, Layout.belOf?_withCellAt,
          if_neg (Ne.symm outside.1)]
      · rw [later.clocks, usedBy_arrive_iff apart, usedBy_cons_iff found, ← or_assoc]
        refine or_congr_left ?_
        rw [arrive, trackedOccupancy_eq]
        exact Tally.count_arrive_ne_zero_iff
      · rw [later.voltages, usedBy_arrive_iff apart, usedBy_cons_iff found, ← or_assoc]
        refine or_congr_left ?_
        rw [arrive, trackedOccupancy_eq]
        exact Tally.count_arrive_ne_zero_iff

/-! ### Both -/

theorem usedBy_perm_iff {α : Type} {layout : Layout} {of : BelId → Cell → List α}
    {placement others : Placement} (same : placement.Perm others) (use : α) :
    layout.UsedBy of placement use ↔ layout.UsedBy of others use := by
  simp only [Layout.UsedBy, same.mem_iff]

namespace OnlyMoves

variable {before after : Plan}

theorem bufferedNets (moves : before.OnlyMoves after) (cell : Cell) :
    after.bufferedNets cell = before.bufferedNets cell := by
  rw [Plan.bufferedNets, Plan.bufferedNets, moves.fabric]

theorem clockUses (moves : before.OnlyMoves after) : after.clockUses = before.clockUses := by
  funext bel cell
  rw [Plan.clockUses, Plan.clockUses, moves.bufferedNets, moves.fabric]

theorem voltageUses (moves : before.OnlyMoves after) :
    after.voltageUses = before.voltageUses := by
  funext bel cell
  rw [Plan.voltageUses, Plan.voltageUses, moves.fabric]

/-- What a cell would use somewhere does not depend on where it is. -/
theorem usedBy_iff (moves : before.OnlyMoves after) {α : Type} {of : BelId → Cell → List α}
    (anywhere : ∀ bel cell place, of bel { cell with bel := place } = of bel cell)
    (placement : Placement) (use : α) :
    after.layout.UsedBy of placement use ↔ before.layout.UsedBy of placement use := by
  refine exists_congr fun entry => and_congr_right fun _ => ?_
  rw [moves.cells]
  cases before.layout.cell? entry.1 with
  | none => simp
  | some cell => simp [anywhere]

end OnlyMoves

/-- The members of a placement are on their bels, and everybody else is where they were; what is
counted was counted before or is used by a member, and the voltages of the members are counted. -/
structure Committed (before : Plan) (placement : Placement) (after : Plan) : Prop where
  agree : after.layout.BelsAgree
  moves : before.OnlyMoves after
  there : ∀ entry ∈ placement, after.layout.belOf? entry.1 = some entry.2
  others : ∀ name, name ∉ placement.map Prod.fst →
    after.layout.belOf? name = before.layout.belOf? name
  clocks : ∀ lobe net, after.fabric.occupancy.clocks.count lobe net ≠ 0 →
    before.fabric.occupancy.clocks.count lobe net ≠ 0 ∨
      before.layout.UsedBy before.clockUses placement ⟨lobe, net⟩
  voltages : ∀ bank voltage, after.fabric.occupancy.voltages.count bank voltage ≠ 0 →
    before.fabric.occupancy.voltages.count bank voltage ≠ 0 ∨
      before.layout.UsedBy before.voltageUses placement ⟨bank, voltage⟩
  counted : ∀ bank voltage, before.layout.UsedBy before.voltageUses placement ⟨bank, voltage⟩ →
    after.fabric.occupancy.voltages.count bank voltage ≠ 0

/-- A placement that can be made: nobody has two places, no bel is given twice, all members and bels
are there, and whoever is on one of the bels is a member. -/
structure Makeable (plan : Plan) (placement : Placement) : Prop where
  names : (placement.map Prod.fst).Nodup
  bels : (placement.map Prod.snd).Nodup
  known : ∀ entry ∈ placement, ∃ cell, plan.layout.cell? entry.1 = some cell
  onDevice : ∀ entry ∈ placement, plan.layout.device.isBel entry.2 = true
  room : ∀ entry ∈ placement, ∀ name, plan.layout.cellOn[entry.2]? = some name →
    name ∈ placement.map Prod.fst

/-- Once the members of a makeable placement have been taken off, they are ready. -/
theorem Makeable.ready {before between : Plan} {placement arriving : Placement} {leaving : List Name}
    (makeable : before.Makeable placement) (agree : before.layout.BelsAgree) (lifted : before.Lifted leaving between)
    (all : leaving.Perm (placement.map Prod.fst)) (same : arriving.Perm placement) :
    between.ReadyFor arriving := by
  refine ⟨(same.map Prod.fst).nodup_iff.2 makeable.names,
    (same.map Prod.snd).nodup_iff.2 makeable.bels, fun entry member => ?_, fun entry member => ?_⟩
  · have member := same.mem_iff.1 member
    obtain ⟨cell, found⟩ := makeable.known entry member
    have gone : entry.1 ∈ leaving := all.mem_iff.2 (List.mem_map.2 ⟨entry, member, rfl⟩)
    refine ⟨{ cell with bel := none }, ?_, rfl⟩
    rw [lifted.moves.cells, found, lifted.belOf?, if_pos gone]
    rfl
  · have member := same.mem_iff.1 member
    refine ⟨?_, ?_⟩
    · rw [lifted.moves.device]
      exact makeable.onDevice entry member
    · rw [Layout.isFree_iff]
      refine Option.eq_none_iff_forall_ne_some.2 fun name occupied => ?_
      -- Whoever is still on the bel has not been taken off, but was there before.
      have still := (lifted.agree.placed_iff entry.2 name).1 occupied
      rw [lifted.belOf?] at still
      split at still
      · cases still
      · rename_i kept
        have occupied := (agree.placed_iff entry.2 name).2 still
        exact kept (all.mem_iff.2 (makeable.room entry member name occupied))

/-- **A makeable placement is made**, in whatever order the members are taken off and put on. -/
theorem committed_commit {plan : Plan} {placement arriving : Placement} {leaving : List Name}
    (agree : plan.layout.BelsAgree) (makeable : plan.Makeable placement)
    (all : leaving.Perm (placement.map Prod.fst)) (same : arriving.Perm placement) :
    plan.Committed placement (plan.commit leaving arriving) := by
  have lifted := lifted_takeOffs leaving agree
  have landed := landed_putOns arriving lifted.agree (makeable.ready agree lifted all same)
  have clockUses : ∀ use, (leaving.foldl takeOff plan).layout.UsedBy
      (leaving.foldl takeOff plan).clockUses arriving use ↔
        plan.layout.UsedBy plan.clockUses placement use := by
    intro use
    rw [lifted.moves.clockUses, lifted.moves.usedBy_iff (fun _ _ _ => rfl), usedBy_perm_iff same]
  have voltageUses : ∀ use, (leaving.foldl takeOff plan).layout.UsedBy
      (leaving.foldl takeOff plan).voltageUses arriving use ↔
        plan.layout.UsedBy plan.voltageUses placement use := by
    intro use
    rw [lifted.moves.voltageUses, lifted.moves.usedBy_iff (fun _ _ _ => rfl), usedBy_perm_iff same]
  refine ⟨landed.agree, lifted.moves.trans landed.moves,
    fun entry member => landed.there entry (same.mem_iff.2 member), fun name outside => ?_,
    fun lobe net counted => ?_, fun bank voltage counted => ?_, fun bank voltage used => ?_⟩
  · have away : name ∉ arriving.map Prod.fst := mt (same.map Prod.fst).mem_iff.1 outside
    rw [commit, landed.others name away, lifted.belOf?, if_neg (mt all.mem_iff.1 outside)]
  · rcases (landed.clocks lobe net).1 counted with old | used
    · left
      have less := lifted.clocks lobe net
      omega
    · exact Or.inr ((clockUses _).1 used)
  · rcases (landed.voltages bank voltage).1 counted with old | used
    · left
      have less := lifted.voltages bank voltage
      omega
    · exact Or.inr ((voltageUses _).1 used)
  · exact (landed.voltages bank voltage).2 (Or.inr ((voltageUses _).2 used))

end Plan

end UltraFabric
