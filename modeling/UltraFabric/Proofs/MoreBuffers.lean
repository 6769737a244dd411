/-
# UltraFabric.Proofs.MoreBuffers — a lobe that is served stays served

A lobe is relieved when fewer clock nets need its buffers, or when it gets more buffers.  All buffers
may be given otherwise then: a request takes a buffer that is new, or one that has become free, and
leaves its own to others.  Nobody is left without a buffer by that (`assign_of_sublists`).

`Relieves` says what it is for nets to be dropped: those that are left ask for the same, and because
nets are sorted by the order of their mention, they ask in the same order (`lobeNets_sublist_of_subset`).
What is asked of the lobe is then a part of what was asked before, so a cell that was accepted is
accepted again (`capacity_monotone`).
-/
import UltraFabric.Proofs.Nested
import UltraFabric.Proofs.Run

namespace UltraFabric

set_option autoImplicit false

namespace Plan

/-- A cell that is looked at for its clock nets, in a lobe with buffers. -/
structure AsksLobe (plan : Plan) (cell : Cell) (bel : BelId) (lobe : Nat)
    (buffers : List ClockBuffer) : Prop where
  clocked : plan.bufferedNets cell ≠ []
  here : plan.fabric.tables.tiles.lobe? bel.tile = some lobe
  known : plan.fabric.tables.buffers[lobe]? = some buffers

/-- Of some clock nets a part is left, and it asks for the same. -/
structure Relieves (before after : Plan) (nets part : List Name) : Prop where
  device : after.device = before.device
  choice : after.fabric.options.bufferChoice = before.fabric.options.bufferChoice
  lexicon : after.lexicon = before.lexicon
  nets : part ⊆ nets
  requests : ∀ net ∈ part, after.clockRequest net = before.clockRequest net

section Relieved

variable {before after : Plan} {moves moves' : Placement} {cell cell' : Cell} {bel bel' : BelId}
  {lobe lobe' : Nat} {buffers more : List ClockBuffer}

/-- The cell is accepted when all clock nets of the lobe get a buffer. -/
theorem AsksLobe.quiet_iff (asks : before.AsksLobe cell bel lobe buffers) :
    before.clockViolation? moves cell bel = .ok none ↔
      ∃ served, ClockBuffer.assign before.device before.fabric.options.bufferChoice buffers
        (before.lobeRequests moves cell lobe) = .ok (some served) := by
  obtain ⟨clocked, here, known⟩ := asks
  rw [clockViolation?_eq_ok_none_iff_assigned]
  constructor
  · intro assigned
    exact assigned clocked lobe here buffers known
  · rintro assigned _ other here' others known'
    cases here.symm.trans here'
    cases known.symm.trans known'
    exact assigned

theorem Relieves.lobeRequests_sublist
    (relieves : before.Relieves after (before.lobeNets moves cell lobe)
      (after.lobeNets moves' cell' lobe')) :
    (after.lobeRequests moves' cell' lobe').Sublist (before.lobeRequests moves cell lobe) := by
  rw [lobeRequests, lobeRequests, List.map_congr_left relieves.requests]
  exact (lobeNets_sublist_of_subset relieves.lexicon relieves.nets).map _

/-- **A cell stays accepted when its lobe is relieved and gets more buffers.** -/
theorem clockViolation?_of_relieves
    (measurable : ClockBuffer.Measurable before.device before.fabric.options.bufferChoice more)
    (inserted : buffers.Sublist more) (asks : before.AsksLobe cell bel lobe buffers)
    (asks' : after.AsksLobe cell' bel' lobe' more)
    (relieves : before.Relieves after (before.lobeNets moves cell lobe)
      (after.lobeNets moves' cell' lobe'))
    (quiet : before.clockViolation? moves cell bel = .ok none) :
    after.clockViolation? moves' cell' bel' = .ok none := by
  obtain ⟨served, assigned⟩ := asks.quiet_iff.1 quiet
  rw [asks'.quiet_iff, relieves.device, relieves.choice]
  exact ClockBuffer.assigned_of_sublists measurable inserted relieves.lobeRequests_sublist assigned

end Relieved

/-- **Serving clock nets is monotone.**  If some requests are served among some buffers, any part of
them, in the same order, is not refused among these buffers and any others that are inserted anywhere,
and it is served where distances can be measured.

So no cell that is accepted by a lobe with buffers is refused when the lobe has got more buffers and
fewer clock nets, and those that are left ask for the same.

Distances are measured when the nearest buffer is taken, and only to bels of the device
(`ClockBuffer.Measurable`).  The lists of the lobes hold such bels only (`ClockBuffer.isBel_of_byLobe`);
for a list with any other bel there may be no answer at all. -/
theorem capacity_monotone {device : Device} {choice : BufferChoice} {buffers more : List ClockBuffer}
    (inserted : buffers.Sublist more) :
    (∀ requests part : List ClockRequest, part.Sublist requests →
      (∃ served, ClockBuffer.assign device choice buffers requests = .ok (some served)) →
        ClockBuffer.assign device choice more part ≠ .ok none ∧
        (ClockBuffer.Measurable device choice more →
          ∃ served, ClockBuffer.assign device choice more part = .ok (some served))) ∧
    (ClockBuffer.Measurable device choice more →
      ∀ (before after : Plan) (moves moves' : Placement) (cell cell' : Cell) (bel bel' : BelId)
        (lobe lobe' : Nat),
        before.device = device → before.fabric.options.bufferChoice = choice →
        before.AsksLobe cell bel lobe buffers → after.AsksLobe cell' bel' lobe' more →
        before.Relieves after (before.lobeNets moves cell lobe)
          (after.lobeNets moves' cell' lobe') →
        before.clockViolation? moves cell bel = .ok none →
          after.clockViolation? moves' cell' bel' = .ok none) := by
  constructor
  · rintro requests part fewer ⟨served, assigned⟩
    exact ⟨ClockBuffer.assign_of_sublists inserted fewer assigned,
      fun measurable => ClockBuffer.assigned_of_sublists measurable inserted fewer assigned⟩
  · rintro measurable before after moves moves' cell cell' bel bel' lobe lobe' rfl rfl asks asks'
      relieves quiet
    exact clockViolation?_of_relieves measurable inserted asks asks' relieves quiet

end Plan

/-! ### A sample: three buffers in a row -/

namespace RowSample

/-- A tile with a buffer, an element and a pad. -/
def tileType : TileType :=
  ⟨"IOB", #[⟨"G", "GCK", 0, 0, [], none, none⟩, ⟨"F", "BEYOND_FE", 1, 0, [], none, none⟩,
    ⟨"P", "IOP", 2, 0, [], none, none⟩], #[], #[], #[]⟩

/-- Three such tiles in a row, all of one lobe. -/
def chip : Chip :=
  ⟨"row", 3, 1, #[tileType],
    #[⟨0, some ⟨"IOB0", some 0⟩⟩, ⟨0, some ⟨"IOB1", some 0⟩⟩, ⟨0, some ⟨"IOB2", some 0⟩⟩], [], []⟩

def device : Device :=
  ⟨chip, by decide, Indexes.ofChip chip, rfl⟩

def pad (name net : Name) (tile : Nat) : Cell :=
  { Cell.bare name "IOP" with
    ports := (∅ : Std.ExtTreeMap Name Port).insert "O" ⟨.output, some net⟩
    bel := some ⟨tile, 2⟩ }

def user (name net : Name) : Cell :=
  { Cell.bare name "BEYOND_FE" with
    ports := (∅ : Std.ExtTreeMap Name Port).insert "CK" ⟨.input, some net⟩ }

/-- One clock comes from the last tile and one from the tile in the middle; their users are not placed. -/
def netlist : Netlist :=
  (((((Netlist.empty.setCell (pad "p" "a" 2)).setCell (pad "q" "b" 1)).setCell (user "x" "a")).setCell
    (user "y" "b")).setNet ⟨"a", some ⟨"p", "O"⟩, [⟨"x", "CK"⟩], ∅⟩).setNet
      ⟨"b", some ⟨"q", "O"⟩, [⟨"y", "CK"⟩], ∅⟩

def layout : Layout :=
  match Layout.ofNetlist device netlist with
  | .ok layout => layout
  | .error _ => ⟨device, netlist, ∅, ∅, ∅⟩

/-- The design on a device whose lobe has some buffers, of which the nearest is taken. -/
def plan (buffers : List ClockBuffer) : Plan :=
  ⟨.fresh, { Fabric.ofOptions ⟨.nearest, 8, 120, 18, 22, 40, 10, true⟩
      ⟨(∅ : Std.ExtTreeMap PrimitivePort SinkTier).insert ⟨"BEYOND_FE", "CK"⟩ .fabric, ∅⟩ with
    tables := { Tables.empty with
      tiles := TileNames.ofChip chip
      buffers := (∅ : Std.ExtTreeMap Nat (List ClockBuffer)).insert 0 buffers } }, layout⟩

/-- The buffers at the ends of the row. -/
def ends : List ClockBuffer :=
  [⟨⟨0, 0⟩, .any⟩, ⟨⟨2, 0⟩, .any⟩]

/-- All buffers of the row. -/
def row : List ClockBuffer :=
  [⟨⟨0, 0⟩, .any⟩, ⟨⟨1, 0⟩, .any⟩, ⟨⟨2, 0⟩, .any⟩]

/-- The user of the first clock is placed, and there is no buffer in the middle. -/
def crowded : Plan :=
  (plan ends).run [.bind ⟨0, 1⟩ "x"]

/-- The user of the first clock has been placed and has left, and all buffers are there. -/
def relieved : Plan :=
  (plan row).run [.bind ⟨0, 1⟩ "x", .unbind ⟨0, 1⟩]

/-- What the two clocks ask for. -/
def first : ClockRequest :=
  ⟨"a", .fabric, some ⟨2, 0, 2⟩⟩

def second : ClockRequest :=
  ⟨"b", .fabric, some ⟨1, 0, 2⟩⟩

theorem lobeNets_crowded : crowded.lobeNets [] (user "y" "b") 0 = ["a", "b"] := by
  have both : (Std.ExtTreeSet.ofList (crowded.bufferedNets (user "y" "b") ++
      crowded.fabric.occupancy.clocks.members 0 ++ crowded.movedNets [] 0)).toList = ["a", "b"] := by
    decide +kernel
  have ordered : ["a", "b"].Pairwise fun net other =>
      (crowded.lexicon.compareNames net other).isLE = true := by
    decide +kernel
  rw [Plan.lobeNets, both, Lexicon.sort, List.mergeSort_of_pairwise ordered]

theorem lobeNets_relieved : relieved.lobeNets [] (user "y" "b") 0 = ["b"] := by
  decide +kernel

/-- Two clocks are served from the ends of the row, each from the nearest buffer that is left.  When the
first one is gone and the buffer in the middle is there, the second one is served from the middle, and its
user is accepted as before. -/
theorem relieved_served :
    ends.Sublist row ∧ [second].Sublist [first, second] ∧
      ClockBuffer.Measurable device .nearest row ∧
      ClockBuffer.assign device .nearest ends [first, second] = .ok (some [1, 0]) ∧
      ClockBuffer.assign device .nearest row [second] ≠ .ok none ∧
      (∃ served, ClockBuffer.assign device .nearest row [second] = .ok (some served)) ∧
      crowded.AsksLobe (user "y" "b") ⟨1, 1⟩ 0 ends ∧ relieved.AsksLobe (user "y" "b") ⟨1, 1⟩ 0 row ∧
      crowded.lobeRequests [] (user "y" "b") 0 = [first, second] ∧
      relieved.lobeRequests [] (user "y" "b") 0 = [second] ∧
      crowded.clockViolation? [] (user "y" "b") ⟨1, 1⟩ = .ok none ∧
      relieved.clockViolation? [] (user "y" "b") ⟨1, 1⟩ = .ok none := by
  have inserted : ends.Sublist row := by decide
  have fewer : [second].Sublist [first, second] := by decide
  have measurable : ClockBuffer.Measurable device .nearest row := by
    intro _ buffer member
    simp only [row, List.mem_cons, List.not_mem_nil, or_false] at member
    rcases member with rfl | rfl | rfl <;> decide
  have served : ClockBuffer.assign device .nearest ends [first, second] = .ok (some [1, 0]) := by
    decide +kernel
  have asks : crowded.AsksLobe (user "y" "b") ⟨1, 1⟩ 0 ends :=
    ⟨by decide +kernel, by decide +kernel, by decide +kernel⟩
  have asks' : relieved.AsksLobe (user "y" "b") ⟨1, 1⟩ 0 row :=
    ⟨by decide +kernel, by decide +kernel, by decide +kernel⟩
  have requests : crowded.lobeRequests [] (user "y" "b") 0 = [first, second] := by
    rw [Plan.lobeRequests, lobeNets_crowded]
    decide +kernel
  have requests' : relieved.lobeRequests [] (user "y" "b") 0 = [second] := by
    rw [Plan.lobeRequests, lobeNets_relieved]
    decide +kernel
  have devices : crowded.device = device ∧ relieved.device = device := ⟨rfl, rfl⟩
  have choices : crowded.fabric.options.bufferChoice = .nearest ∧
      relieved.fabric.options.bufferChoice = .nearest := ⟨by decide +kernel, by decide +kernel⟩
  have relieves : crowded.Relieves relieved (crowded.lobeNets [] (user "y" "b") 0)
      (relieved.lobeNets [] (user "y" "b") 0) := by
    rw [lobeNets_crowded, lobeNets_relieved]
    exact ⟨devices.2.trans devices.1.symm, choices.2.trans choices.1.symm, rfl, by simp,
      List.forall_mem_singleton.2 (by decide +kernel)⟩
  have quiet : crowded.clockViolation? [] (user "y" "b") ⟨1, 1⟩ = .ok none := by
    rw [asks.quiet_iff, requests, devices.1, choices.1]
    exact ⟨[1, 0], served⟩
  have ⟨unrefused, answered⟩ := (Plan.capacity_monotone inserted).1 _ _ fewer ⟨_, served⟩
  exact ⟨inserted, fewer, measurable, served, unrefused, answered measurable, asks, asks', requests,
    requests', quiet, (Plan.capacity_monotone inserted).2 measurable crowded relieved [] []
      (user "y" "b") (user "y" "b") ⟨1, 1⟩ ⟨1, 1⟩ 0 0 devices.1 choices.1 asks asks' relieves quiet⟩

end RowSample

end UltraFabric
