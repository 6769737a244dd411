/-
# UltraFabric.Proofs.MovedClocks — clock buffers, before and after some moves

The clock nets of cells that move into a lobe are added to those that are counted there.  Nothing is
taken away for cells that leave it, and drivers are looked for where they still are.  So a cell may be
refused for nets that nobody has there any more once the moves have been made, and accepted with
requests that are other ones then.

What would have to be said is known before the moves: the counts of a lobe go down by what leaves it
(`count_takeOffs`), and each driver is where the view has it (`clockRequest_of_moves`).  The check with
these nets and requests is `foreseenClockViolation?`, and it says what the check says afterwards
(`clockViolation?_commit`).  It differs from the check under moves by the nets that are abandoned, and
by what drivers ask from their new places; where neither matters, the check under moves is right
(`clockViolation?_foreseen`).

In `ClockSample` a cell is refused and fits afterwards, and another one is accepted and does not fit.
-/
import UltraFabric.Proofs.Clusters
import UltraFabric.Proofs.Views

namespace UltraFabric

set_option autoImplicit false

namespace Plan

/-! ### What leaves -/

/-- The clock nets that a cell takes where it is, once for every port. -/
def usesNow (plan : Plan) (name : Name) : List (Keyed Nat Name) :=
  match plan.layout.belOf? name, plan.layout.cell? name with
  | some bel, some cell => plan.clockUses bel cell
  | _, _ => []

/-- The clock nets that the members of a placement take where they are. -/
def leavingUses (plan : Plan) (placement : Placement) : List (Keyed Nat Name) :=
  (placement.map Prod.fst).flatMap plan.usesNow

theorem OnlyMoves.usesNow {before after : Plan} (moves : before.OnlyMoves after) {name : Name}
    (stays : after.layout.belOf? name = before.layout.belOf? name) :
    after.usesNow name = before.usesNow name := by
  rw [Plan.usesNow, Plan.usesNow, moves.cells, stays, moves.clockUses]
  cases before.layout.belOf? name <;> cases before.layout.cell? name <;> rfl

theorem count_takeOff {plan : Plan} (agree : plan.layout.BelsAgree) (name : Name) (lobe : Nat)
    (net : Name) : (plan.takeOff name).fabric.occupancy.clocks.count lobe net =
      plan.fabric.occupancy.clocks.count lobe net - (plan.usesNow name).count ⟨lobe, net⟩ := by
  rcases takeOff_cases agree name with ⟨unplaced, same⟩ | ⟨bel, cell, bound, rfl, same⟩
  · have nothing : plan.usesNow name = [] := by simp only [usesNow, unplaced]
    rw [same, nothing, List.count_nil, Nat.sub_zero]
  · obtain ⟨found, placed⟩ := agree.bound_iff.1 bound
    have here := Layout.belOf?_eq_some_iff.2 ⟨cell, found, placed⟩
    have own : plan.usesNow cell.name = plan.clockUses bel cell := by
      simp only [usesNow, here, found]
    rw [same, own, leave, trackedOccupancy_eq, Tally.count_changeAll_leave]

/-- **Counts go down by what leaves**, and stop at zero. -/
theorem count_takeOffs (names : List Name) (lobe : Nat) (net : Name) :
    ∀ {plan : Plan}, plan.layout.BelsAgree → names.Nodup →
      (names.foldl takeOff plan).fabric.occupancy.clocks.count lobe net =
        plan.fabric.occupancy.clocks.count lobe net -
          (names.flatMap plan.usesNow).count ⟨lobe, net⟩ := by
  induction names with
  | nil => exact fun _ _ => rfl
  | cons name rest ih =>
      intro plan agree once
      obtain ⟨fresh, once⟩ := List.nodup_cons.1 once
      have first := lifted_takeOff agree name
      -- The others are still where they were, so they take the same nets.
      have others : rest.flatMap (plan.takeOff name).usesNow = rest.flatMap plan.usesNow := by
        refine List.flatMap_congr fun other member => first.moves.usesNow ?_
        have different : other ∉ [name] := fun own => fresh (List.mem_singleton.1 own ▸ member)
        rw [first.belOf?, if_neg different]
      rw [List.foldl_cons, ih first.agree once, others, count_takeOff agree, List.flatMap_cons,
        List.count_append, Nat.sub_sub]

section Commit

variable {plan : Plan} {placement arriving : Placement} {leaving : List Name}

/-- **Afterwards a net is counted that does not leave altogether, or that a member brings.** -/
theorem count_commit_ne_zero_iff (agree : plan.layout.BelsAgree) (makeable : plan.Makeable placement)
    (all : leaving.Perm (placement.map Prod.fst)) (same : arriving.Perm placement) (lobe : Nat)
    (net : Name) : (plan.commit leaving arriving).fabric.occupancy.clocks.count lobe net ≠ 0 ↔
      (plan.leavingUses placement).count ⟨lobe, net⟩ <
          plan.fabric.occupancy.clocks.count lobe net ∨
        net ∈ plan.movedNets placement lobe := by
  have lifted := lifted_takeOffs leaving agree
  have landed := landed_putOns arriving lifted.agree (makeable.ready agree lifted all same)
  have left : (leaving.flatMap plan.usesNow).count ⟨lobe, net⟩ =
      (plan.leavingUses placement).count ⟨lobe, net⟩ := (all.flatMap_right _).count_eq _
  rw [commit, landed.clocks, lifted.moves.clockUses, lifted.moves.usedBy_iff (fun _ _ _ => rfl),
    usedBy_perm_iff same, mem_movedNets_iff,
    count_takeOffs leaving lobe net agree (all.nodup_iff.2 makeable.names), left]
  exact or_congr_left (Nat.sub_ne_zero_iff_lt)

end Commit

/-! ### What the check will say -/

/-- The clock nets of a lobe after some moves, without those that nobody has there any more. -/
def foreseenNets (plan : Plan) (placement : Placement) (cell : Cell) (lobe : Nat) : List Name :=
  let staying := (plan.fabric.occupancy.clocks.members lobe).filter fun net =>
    (plan.leavingUses placement).count ⟨lobe, net⟩ < plan.fabric.occupancy.clocks.count lobe net
  let nets := plan.bufferedNets cell ++ staying ++ plan.movedNets placement lobe
  plan.lexicon.sort (Std.ExtTreeSet.ofList nets).toList

/-- What a clock net asks for after some moves. -/
def foreseenRequest (plan : Plan) (placement : Placement) : Name → ClockRequest :=
  plan.requestAt (View.mk plan.layout placement).belOf?

/-- What the clock check says of a cell after some moves. -/
def foreseenClockViolation? (plan : Plan) (placement : Placement) (cell : Cell) (bel : BelId) :
    Answer (Option Violation) :=
  if (plan.bufferedNets cell).isEmpty then .ok none
  else
    plan.capacityVerdict bel (plan.foreseenNets placement cell) fun nets =>
      .ok (nets.map (plan.foreseenRequest placement))

theorem mem_foreseenNets_iff {plan : Plan} {placement : Placement} {cell : Cell} {lobe : Nat}
    {net : Name} : net ∈ plan.foreseenNets placement cell lobe ↔
      net ∈ plan.bufferedNets cell ∨
        (plan.leavingUses placement).count ⟨lobe, net⟩ <
          plan.fabric.occupancy.clocks.count lobe net ∨
        net ∈ plan.movedNets placement lobe := by
  rw [foreseenNets, Lexicon.mem_sort_iff, Std.ExtTreeSet.mem_toList, Std.ExtTreeSet.mem_ofList,
    List.contains_iff_mem, List.mem_append, List.mem_append, List.mem_filter,
    Tally.mem_members_iff, decide_eq_true_eq, or_assoc]
  refine or_congr_right (or_congr_left ?_)
  omega

/-- What is foreseen for a lobe is a part of what is asked of it under the moves. -/
theorem foreseenNets_subset (plan : Plan) (placement : Placement) (cell : Cell) (lobe : Nat) :
    plan.foreseenNets placement cell lobe ⊆ plan.lobeNets placement cell lobe := by
  intro net member
  rw [mem_lobeNets_iff, Tally.mem_members_iff]
  rcases mem_foreseenNets_iff.1 member with own | stays | moved
  · exact Or.inl own
  · exact Or.inr (Or.inl (Nat.ne_of_gt (Nat.zero_lt_of_lt stays)))
  · exact Or.inr (Or.inr moved)

section Commit

variable {plan : Plan} {placement arriving : Placement} {leaving : List Name}

theorem lobeNets_commit (agree : plan.layout.BelsAgree) (makeable : plan.Makeable placement)
    (all : leaving.Perm (placement.map Prod.fst)) (same : arriving.Perm placement) (cell : Cell)
    (place : Option BelId) (lobe : Nat) :
    (plan.commit leaving arriving).lobeNets [] { cell with bel := place } lobe =
      plan.foreseenNets placement cell lobe := by
  have committed := committed_commit agree makeable all same
  have lexicon : (plan.commit leaving arriving).lexicon = plan.lexicon := committed.moves.lexicon
  have own : (plan.commit leaving arriving).bufferedNets { cell with bel := place } =
      plan.bufferedNets cell := committed.moves.bufferedNets _
  have nowhere : (plan.commit leaving arriving).movedNets [] lobe = [] := rfl
  have members : ∀ net, net ∈ (plan.commit leaving arriving).lobeNets [] { cell with bel := place }
      lobe ↔ net ∈ plan.foreseenNets placement cell lobe := by
    intro net
    rw [mem_lobeNets_iff, mem_foreseenNets_iff, own, nowhere, Tally.mem_members_iff,
      count_commit_ne_zero_iff agree makeable all same]
    simp only [List.not_mem_nil, or_false]
  simp only [lobeNets, foreseenNets, lexicon] at members ⊢
  exact plan.lexicon.sort_congr members

/-- **The check that is foreseen is the check after the moves.** -/
theorem clockViolation?_commit (agree : plan.layout.BelsAgree) (makeable : plan.Makeable placement)
    (all : leaving.Perm (placement.map Prod.fst)) (same : arriving.Perm placement) (cell : Cell)
    (place : Option BelId) (bel : BelId) :
    (plan.commit leaving arriving).clockViolation? [] { cell with bel := place } bel =
      plan.foreseenClockViolation? placement cell bel := by
  have committed := committed_commit agree makeable all same
  have device : (plan.commit leaving arriving).device = plan.device := committed.moves.device
  have tables : (plan.commit leaving arriving).fabric.tables = plan.fabric.tables := by
    rw [committed.moves.fabric]
  have options : (plan.commit leaving arriving).fabric.options = plan.fabric.options := by
    rw [committed.moves.fabric]
  have own : (plan.commit leaving arriving).bufferedNets { cell with bel := place } =
      plan.bufferedNets cell := committed.moves.bufferedNets _
  have nets : (plan.commit leaving arriving).lobeNets [] { cell with bel := place } =
      plan.foreseenNets placement cell :=
    funext (lobeNets_commit agree makeable all same cell place)
  have requests : (plan.commit leaving arriving).clockRequest = plan.foreseenRequest placement := by
    rw [clockRequest_of_moves committed.moves, foreseenRequest, funext committed.belOf?_eq]
  simp only [clockViolation?, foreseenClockViolation?, capacityVerdict, own, nets, requests,
    device, tables, options]

end Commit

end Plan

/-! ### Where the check under moves is right -/

/-- Requests that buffers serve alike: where a driver is matters for the nearest buffer only. -/
structure ClockRequest.Alike (choice : BufferChoice) (one other : ClockRequest) : Prop where
  tier : one.tier = other.tier
  driver : choice = .nearest → one.driver = other.driver

namespace ClockBuffer

variable {device : Device} {choice : BufferChoice} {buffers : List ClockBuffer}

theorem choose?_of_alike {one other : ClockRequest} (alike : one.Alike choice other)
    (free : List (ClockBuffer × Nat)) :
    choose? device choice free one.driver = choose? device choice free other.driver := by
  cases choice with
  | firstFit => rfl
  | nearest => rw [alike.driver rfl]

theorem assignFrom_of_alike {requests others : List ClockRequest}
    (alike : List.Forall₂ (ClockRequest.Alike choice) requests others) :
    ∀ used, assignFrom device choice buffers used requests =
      assignFrom device choice buffers used others := by
  induction alike with
  | nil => exact fun _ => rfl
  | cons first rest ih =>
      intro used
      simp only [assignFrom, first.tier, choose?_of_alike first, ih]

end ClockBuffer

namespace Plan

/-- By some moves nothing changes in what some clock nets ask for. -/
def KeepsRequests (plan : Plan) (placement : Placement) (nets : List Name) : Prop :=
  ∀ net ∈ nets, (plan.clockRequest net).Alike plan.fabric.options.bufferChoice
    (plan.foreseenRequest placement net)

/-- A clock net is counted in a lobe for members only that leave it, and no member brings it. -/
def Abandons (plan : Plan) (placement : Placement) (lobe : Nat) (net : Name) : Prop :=
  plan.fabric.occupancy.clocks.count lobe net ≠ 0 ∧
    plan.fabric.occupancy.clocks.count lobe net ≤ (plan.leavingUses placement).count ⟨lobe, net⟩ ∧
    net ∉ plan.movedNets placement lobe

theorem foreseenNets_eq {plan : Plan} {placement : Placement} {lobe : Nat}
    (kept : ∀ net, ¬ plan.Abandons placement lobe net) (cell : Cell) :
    plan.foreseenNets placement cell lobe = plan.lobeNets placement cell lobe := by
  have members : ∀ net, net ∈ plan.foreseenNets placement cell lobe ↔
      net ∈ plan.lobeNets placement cell lobe := by
    refine fun net => ⟨fun member => plan.foreseenNets_subset placement cell lobe member, ?_⟩
    rw [mem_lobeNets_iff, mem_foreseenNets_iff, Tally.mem_members_iff]
    rintro (own | counted | moved)
    · exact Or.inl own
    · refine Or.inr (Decidable.byContradiction fun gone => kept net ?_)
      obtain ⟨leaves, unmoved⟩ := not_or.1 gone
      exact ⟨counted, Nat.not_lt.1 leaves, unmoved⟩
    · exact Or.inr (Or.inr moved)
  exact plan.lexicon.sort_congr members

section Foreseen

variable {plan : Plan} {placement : Placement} {cell : Cell} {bel : BelId}

theorem KeepsRequests.assign_eq {nets : List Name} (keeps : plan.KeepsRequests placement nets)
    (buffers : List ClockBuffer) :
    ClockBuffer.assign plan.device plan.fabric.options.bufferChoice buffers
        (nets.map plan.clockRequest) =
      ClockBuffer.assign plan.device plan.fabric.options.bufferChoice buffers
        (nets.map (plan.foreseenRequest placement)) := by
  refine ClockBuffer.assignFrom_of_alike ?_ []
  rw [List.forall₂_map_left_iff, List.forall₂_map_right_iff, List.forall₂_same]
  exact keeps

/-- With the same nets that ask for the same, the check under moves is the one that is foreseen. -/
theorem clockViolation?_of_kept
    (keeps : ∀ lobe, plan.fabric.tables.tiles.lobe? bel.tile = some lobe →
      plan.KeepsRequests placement (plan.foreseenNets placement cell lobe))
    (kept : ∀ lobe, plan.fabric.tables.tiles.lobe? bel.tile = some lobe →
      ∀ net, ¬ plan.Abandons placement lobe net) :
    plan.clockViolation? placement cell bel = plan.foreseenClockViolation? placement cell bel := by
  rw [clockViolation?, foreseenClockViolation?, capacityVerdict, capacityVerdict]
  cases here : plan.fabric.tables.tiles.lobe? bel.tile with
  | none => rfl
  | some lobe => simp only [← foreseenNets_eq (kept lobe here), (keeps lobe here).assign_eq]

/-- A cell that is accepted under moves stays accepted if the nets that are left ask for the same. -/
theorem foreseen_of_quiet
    (there : ClockBuffer.OnDevice plan.device plan.fabric.tables.buffers)
    (keeps : ∀ lobe, plan.fabric.tables.tiles.lobe? bel.tile = some lobe →
      plan.KeepsRequests placement (plan.foreseenNets placement cell lobe))
    (quiet : plan.clockViolation? placement cell bel = .ok none) :
    plan.foreseenClockViolation? placement cell bel = .ok none := by
  rw [clockViolation?_eq_ok_none_iff_assigned] at quiet
  unfold foreseenClockViolation?
  split
  · rfl
  · rename_i clocked
    refine capacityVerdict_eq_ok_none_iff.2 fun lobe here buffers known => ?_
    obtain ⟨served, assigned⟩ := quiet (mt List.isEmpty_iff.2 clocked) lobe here buffers known
    have fewer : (plan.foreseenNets placement cell lobe).Sublist (plan.lobeNets placement cell lobe) :=
      plan.lexicon.sort_sublist (plan.foreseenNets_subset placement cell lobe)
    rw [← (keeps lobe here).assign_eq]
    exact ClockBuffer.assigned_of_sublists (fun _ => there lobe buffers known) (.refl buffers)
      (fewer.map _) assigned

end Foreseen

/-! ### Where counts are right -/

theorem Consistent.takeOffs (names : List Name) :
    ∀ {plan : Plan}, plan.Consistent → (names.foldl takeOff plan).Consistent := by
  induction names with
  | nil => exact id
  | cons name rest ih =>
      intro plan consistent
      refine ih ?_
      unfold takeOff
      split
      · exact consistent.unbind _
      · exact consistent

theorem Consistent.putOns (placement : Placement) :
    ∀ {plan : Plan}, plan.Consistent →
      (∀ entry ∈ placement, plan.layout.device.isBel entry.2 = true) →
      (placement.foldl putOn plan).Consistent := by
  induction placement with
  | nil => exact fun consistent _ => consistent
  | cons entry rest ih =>
      intro plan consistent there
      obtain ⟨here, there⟩ := List.forall_mem_cons.1 there
      refine ih (consistent.bind here entry.1) fun other member => ?_
      have device := (sameTables_bind consistent.agree here entry.1).device
      exact (congrArg (·.isBel other.2) device).trans (there other member)

section Commit

variable {plan : Plan} {placement arriving : Placement} {leaving : List Name}

theorem Consistent.commit (consistent : plan.Consistent) (makeable : plan.Makeable placement)
    (same : arriving.Perm placement) : (plan.commit leaving arriving).Consistent := by
  refine (consistent.takeOffs leaving).putOns arriving fun entry member => ?_
  rw [(lifted_takeOffs leaving consistent.agree).moves.device]
  exact makeable.onDevice entry (same.mem_iff.1 member)

/-- **A net is abandoned when it is used in the lobe before the moves, and by nobody afterwards.** -/
theorem abandons_iff (consistent : plan.Consistent) (makeable : plan.Makeable placement)
    (all : leaving.Perm (placement.map Prod.fst)) (same : arriving.Perm placement) {lobe : Nat}
    {net : Name} : plan.Abandons placement lobe net ↔
      (⟨lobe, net⟩ : Keyed Nat Name) ∈ plan.allClockUses ∧
        (⟨lobe, net⟩ : Keyed Nat Name) ∉ (plan.commit leaving arriving).allClockUses := by
  have after : (plan.commit leaving arriving).Consistent := consistent.commit makeable same
  rw [← consistent.counted.clocks.count_ne_zero_iff, ← after.counted.clocks.count_ne_zero_iff,
    count_commit_ne_zero_iff consistent.agree makeable all same, not_or, Nat.not_lt, Abandons]

/-- **What the clock check says under moves, and what it says after them.**  In any plan that may have
come about, a cell is to move with others to bels that are empty or become free.

* What the check says of it afterwards is the check with the nets and requests that are foreseen.
* If these nets ask for the same as before, a cell that is accepted under the moves is accepted
  afterwards; and if no net is abandoned either, the check says the same both times.
* Where the counts are right, a net is abandoned when it is used in the lobe, and by nobody after the
  moves. -/
theorem clockViolation?_foreseen {device : Device} {netlist : Netlist}
    (reachable : Reachable device netlist plan) (makeable : plan.Makeable placement)
    (all : leaving.Perm (placement.map Prod.fst)) (same : arriving.Perm placement) {name : Name}
    {bel : BelId} {cell : Cell} (member : (name, bel) ∈ placement) (found : plan.cell? name = some cell) :
    let after := plan.commit leaving arriving
    let moved : Cell := { cell with bel := some bel }
    after.cell? name = some moved ∧
    after.clockViolation? [] moved bel = plan.foreseenClockViolation? placement cell bel ∧
    ((∀ lobe, plan.fabric.tables.tiles.lobe? bel.tile = some lobe →
        plan.KeepsRequests placement (plan.foreseenNets placement cell lobe)) →
      (plan.clockViolation? placement cell bel = .ok none →
        after.clockViolation? [] moved bel = .ok none) ∧
      ((∀ lobe, plan.fabric.tables.tiles.lobe? bel.tile = some lobe →
          ∀ net, ¬ plan.Abandons placement lobe net) →
        plan.clockViolation? placement cell bel = after.clockViolation? [] moved bel)) ∧
    (plan.Consistent → ∀ lobe net, plan.Abandons placement lobe net ↔
      (⟨lobe, net⟩ : Keyed Nat Name) ∈ plan.allClockUses ∧
        (⟨lobe, net⟩ : Keyed Nat Name) ∉ after.allClockUses) := by
  intro after moved
  obtain ⟨agree, prepared⟩ := reachable.invariant
  have committed := committed_commit agree makeable all same
  have arrived : after.cell? name = some moved := by
    have there : after.layout.belOf? name = some bel := committed.there _ member
    have found : plan.layout.cell? name = some cell := found
    have moves : after.layout.cell? name =
        (plan.layout.cell? name).map fun cell => { cell with bel := after.layout.belOf? name } :=
      committed.moves.cells name
    rw [cell?, moves, found, there]
    rfl
  have foreseen : after.clockViolation? [] moved bel =
      plan.foreseenClockViolation? placement cell bel :=
    clockViolation?_commit agree makeable all same cell (some bel) bel
  refine ⟨arrived, foreseen, fun keeps => ⟨fun quiet => ?_, fun kept => ?_⟩,
    fun consistent lobe net => abandons_iff consistent makeable all same⟩
  · rw [foreseen]
    exact foreseen_of_quiet prepared.onDevice keeps quiet
  · rw [foreseen]
    exact clockViolation?_of_kept keeps kept

end Commit

end Plan

/-! ### A sample: one buffer, for the ring only -/

namespace ClockSample

/-- A tile with a buffer that takes the ring only, and one without a buffer.  Two of the pads feed the
ring, the third one does not. -/
def tileTypes : Array TileType :=
  #[⟨"IOB", #[⟨"G", "GCK", 0, 0, [], none, some ⟨true, false, false⟩⟩,
        ⟨"F0", "BEYOND_FE", 1, 0, [], none, none⟩, ⟨"F1", "BEYOND_FE", 2, 0, [], none, none⟩,
        ⟨"P0", "IOP", 3, 1, [⟨"O", 0, .output⟩], none, none⟩,
        ⟨"P1", "IOP", 4, 1, [⟨"O", 1, .output⟩], none, none⟩,
        ⟨"P2", "IOP", 5, 0, [], none, none⟩],
      #[⟨"P0.O", "", 0⟩, ⟨"P1.O", "", 0⟩], #[], #[]⟩,
    ⟨"CGB", #[⟨"F2", "BEYOND_FE", 0, 0, [], none, none⟩], #[], #[], #[]⟩]

def chip : Chip :=
  ⟨"clocks", 2, 1, tileTypes, #[⟨0, some ⟨"IOB0", some 0⟩⟩, ⟨1, some ⟨"CGB0", some 1⟩⟩], [], []⟩

def device : Device :=
  ⟨chip, by decide, Indexes.ofChip chip, rfl⟩

/-- A pad that drives a clock. -/
def pad (name net : Name) (index : Nat) : Cell :=
  { Cell.bare name "IOP" with
    ports := (∅ : Std.ExtTreeMap Name Port).insert "O" ⟨.output, some net⟩
    bel := some ⟨0, index⟩ }

/-- A cell that takes a clock. -/
def user (name net : Name) (bel : Option BelId) : Cell :=
  { Cell.bare name "BEYOND_FE" with
    ports := (∅ : Std.ExtTreeMap Name Port).insert "CK" ⟨.input, some net⟩
    bel := bel }

/-- Both clocks come from the ring; only the user of the first one is placed. -/
def netlist : Netlist :=
  (((((Netlist.empty.setCell (pad "p" "a" 3)).setCell (pad "q" "b" 4)).setCell
    (user "x" "a" (some ⟨0, 1⟩))).setCell (user "y" "b" none)).setNet
      ⟨"a", some ⟨"p", "O"⟩, [⟨"x", "CK"⟩], ∅⟩).setNet ⟨"b", some ⟨"q", "O"⟩, [⟨"y", "CK"⟩], ∅⟩

theorem named : netlist.Named :=
  (((((Netlist.named_empty.setCell _).setCell _).setCell _).setCell _).setNet _).setNet _

def layout : Layout :=
  match Layout.ofNetlist device netlist with
  | .ok layout => layout
  | .error _ => ⟨device, netlist, ∅, ∅, ∅⟩

theorem placed : Layout.ofNetlist device netlist = .ok layout := by
  rfl

def fabric : Fabric :=
  Fabric.ofOptions ⟨.firstFit, 8, 120, 18, 22, 40, 10, true⟩
    ⟨(∅ : Std.ExtTreeMap PrimitivePort SinkTier).insert ⟨"BEYOND_FE", "CK"⟩ .fabric, ∅⟩

def plan : Plan :=
  (Plan.mk .fresh fabric layout).setUp.1

theorem built : ClockBuffer.byLobe device (TileNames.ofChip chip) =
    .ok ((∅ : Std.ExtTreeMap Nat (List ClockBuffer)).insert 0
      [⟨⟨0, 0⟩, ⟨true, false, false⟩⟩]) := by
  with_unfolding_all rfl

theorem started : Plan.Started device netlist plan :=
  .of_built named placed built .fresh fabric

/-- The user of the first clock goes to the other bel of the lobe. -/
def shifted : Placement :=
  [("x", ⟨0, 2⟩)]

/-- The user of the first clock leaves the lobe, and that of the second one takes its bel. -/
def exchanged : Placement :=
  [("x", ⟨1, 0⟩), ("y", ⟨0, 1⟩)]

/-- The user of the first clock goes to the other bel of the lobe, and its pad leaves the ring. -/
def detached : Placement :=
  [("p", ⟨0, 5⟩), ("x", ⟨0, 2⟩)]

theorem shifted_makeable : plan.Makeable shifted := by
  refine ⟨by decide, by decide, ?_, by decide +kernel, ?_⟩
  · simp only [shifted, List.forall_mem_singleton]
    exact ⟨user "x" "a" (some ⟨0, 1⟩), by with_unfolding_all rfl⟩
  · have empty : plan.layout.cellOn[(⟨0, 2⟩ : BelId)]? = none := by decide +kernel
    simp [shifted, empty]

theorem exchanged_makeable : plan.Makeable exchanged := by
  refine ⟨by decide, by decide, ?_, by decide +kernel, ?_⟩
  · simp only [exchanged, List.forall_mem_cons]
    exact ⟨⟨user "x" "a" (some ⟨0, 1⟩), by with_unfolding_all rfl⟩,
      ⟨user "y" "b" none, by with_unfolding_all rfl⟩, by simp⟩
  · have held : exchanged.map (fun entry => plan.layout.cellOn[entry.2]?) = [none, some "x"] := by
      decide +kernel
    simp only [exchanged, List.map_cons, List.map_nil, List.cons.injEq, and_true] at held
    simp [exchanged, held]

theorem detached_makeable : plan.Makeable detached := by
  refine ⟨by decide, by decide, ?_, by decide +kernel, ?_⟩
  · simp only [detached, List.forall_mem_cons]
    exact ⟨⟨pad "p" "a" 3, by with_unfolding_all rfl⟩,
      ⟨user "x" "a" (some ⟨0, 1⟩), by with_unfolding_all rfl⟩, by simp⟩
  · have empty : detached.map (fun entry => plan.layout.cellOn[entry.2]?) = [none, none] := by
      decide +kernel
    simp only [detached, List.map_cons, List.map_nil, List.cons.injEq, and_true] at empty
    simp [detached, empty]

/-- A shift inside the lobe, of which the check under moves says what it says afterwards. -/
theorem foreseen_shifted :
    plan.Makeable shifted ∧
      plan.clockViolation? shifted (user "x" "a" (some ⟨0, 1⟩)) ⟨0, 2⟩ =
        (plan.commit ["x"] shifted).clockViolation? [] (user "x" "a" (some ⟨0, 2⟩)) ⟨0, 2⟩ := by
  have found : plan.cell? "x" = some (user "x" "a" (some ⟨0, 1⟩)) := by with_unfolding_all rfl
  obtain ⟨_, _, right, _⟩ := Plan.clockViolation?_foreseen (.started started) shifted_makeable
    (by decide : ["x"].Perm (shifted.map Prod.fst)) (.refl shifted) List.mem_cons_self found
  have here : plan.fabric.tables.tiles.lobe? 0 = some 0 := by decide +kernel
  have nets : plan.foreseenNets shifted (user "x" "a" (some ⟨0, 1⟩)) 0 = ["a"] := by decide +kernel
  have same : plan.foreseenRequest shifted "a" = plan.clockRequest "a" := by decide +kernel
  have counted : plan.fabric.occupancy.clocks.members 0 = ["a"] := by decide +kernel
  have moved : "a" ∈ plan.movedNets shifted 0 := by decide +kernel
  refine ⟨shifted_makeable, (right fun lobe own => ?_).2 fun lobe own net abandoned => ?_⟩
  · cases here.symm.trans own
    rw [nets]
    refine List.forall_mem_singleton.2 ⟨?_, fun _ => ?_⟩
    · rw [same]
    · rw [same]
  · cases here.symm.trans own
    have known := Tally.mem_members_iff.2 abandoned.1
    rw [counted] at known
    cases List.mem_singleton.1 known
    exact abandoned.2.2 moved

/-- The second user is refused for a clock that leaves with the first one, and fits afterwards.  The
first user is accepted for a clock from the ring, and does not fit when its pad has left the ring. -/
theorem moved_misjudged :
    Plan.Reachable device netlist plan ∧ plan.Makeable exchanged ∧ plan.Makeable detached ∧
      plan.cell? "x" = some (user "x" "a" (some ⟨0, 1⟩)) ∧ plan.cell? "y" = some (user "y" "b" none) ∧
      plan.clockViolation? exchanged (user "y" "b" none) ⟨0, 1⟩ = .ok (some (.clockCapacity 0 2 1)) ∧
      (plan.commit ["x", "y"] exchanged).clockViolation? [] (user "y" "b" (some ⟨0, 1⟩)) ⟨0, 1⟩ =
        .ok none ∧
      plan.clockViolation? detached (user "x" "a" (some ⟨0, 1⟩)) ⟨0, 2⟩ = .ok none ∧
      (plan.commit ["p", "x"] detached).clockViolation? [] (user "x" "a" (some ⟨0, 2⟩)) ⟨0, 2⟩ =
        .ok (some (.clockCapacity 0 1 1)) := by
  refine ⟨.started started, exchanged_makeable, detached_makeable, by with_unfolding_all rfl,
    by with_unfolding_all rfl, ?_, by decide +kernel, by decide +kernel, by decide +kernel⟩
  have here : plan.fabric.tables.tiles.lobe? 0 = some 0 := by decide +kernel
  have known : plan.fabric.tables.buffers[0]? = some [⟨⟨0, 0⟩, ⟨true, false, false⟩⟩] := by
    decide +kernel
  have clocked : (plan.bufferedNets (user "y" "b" none)).isEmpty = false := by decide +kernel
  -- How many nets there are does not depend on their order.
  have two : (plan.lobeNets exchanged (user "y" "b" none) 0).length = 2 := by
    rw [Plan.lobeNets, Lexicon.sort, List.length_mergeSort]
    decide +kernel
  simp only [Plan.clockViolation?, clocked, Plan.capacityVerdict, here, known, two]
  rfl

end ClockSample

end UltraFabric
