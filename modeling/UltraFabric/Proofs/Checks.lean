/-
# UltraFabric.Proofs.Checks — what each check asks of a cell on its bel

The checks of a cell look for the first thing that speaks against it.  For a cell that is where it is
looked at, and with no moves planned, each of them finds nothing exactly when a condition on the
bindings holds:

* `groupViolation?_eq_none_iff`: the cells on the other bels of the group have the same nets at the
  shared ports (`Layout.GroupAgrees`);
* `settingViolation?_eq_none_iff`: ports are fed as the cell wants (`Layout.SettingsAgree`);
* `cascadeViolation?_eq_none_iff`: dedicated links lead to and from the other placed multipliers
  (`Plan.CascadeLinked`);
* `clockViolation?_eq_ok_none_iff`: the clock nets of the lobe all get a buffer (`Plan.LobeServed`).

What a view with moves has to show is said first (`groupViolation?_eq_none_iff_seen`,
`cascadeViolation?_eq_none_iff_seen`).  These two checks leave the cell itself out, by its name; without
moves it is enough to leave its bel out, because a cell is on one bel only.  The last check adds the nets
of the cell to those that are counted; where the counts are right they are among them (`lobeNets_eq`).
-/
import UltraFabric.Legality
import UltraFabric.Proofs.Assignment
import UltraFabric.Proofs.Census

namespace UltraFabric

set_option autoImplicit false

/-! ### A view without moves -/

theorem View.cellOn?_unmoved (layout : Layout) (bel : BelId) :
    (⟨layout, []⟩ : View).cellOn? bel = layout.boundCell? bel := by
  simp only [View.cellOn?, List.find?_nil]
  cases layout.boundCell? bel <;> rfl

/-! ### Shared multiplexers -/

namespace Layout

/-- At the ports that a group shares, the cell has no other net than the cells on the other bels. -/
def GroupAgrees (layout : Layout) (cell : Cell) (bel : BelId) : Prop :=
  ∀ group, layout.device.muxGroup? bel = some group →
    ∀ index ∈ group.bels, (⟨bel.tile, index⟩ : BelId) ≠ bel →
      ∀ other, layout.boundCell? ⟨bel.tile, index⟩ = some other →
        ∀ port ∈ group.ports, ∀ net otherNet, cell.portNet? port = some net →
          other.portNet? port = some otherNet → net = otherNet

/-- Every port that is fed through a multiplexer is fed as the cell wants, if it wants something. -/
def SettingsAgree (layout : Layout) (cell : Cell) (bel : BelId) : Prop :=
  ∀ port ∈ cell.ports, ∀ wanted decoded, Plan.wantedSetting? cell port = some wanted →
    layout.portSetting? bel port = some decoded → (decoded : Int) = wanted

end Layout

namespace Plan

section Seen

variable {view : View} {cell : Cell} {bel : BelId}

theorem groupConflict?_eq_none_iff {port net : Name} {index : Nat} :
    groupConflict? view cell bel port net index = none ↔ ((⟨bel.tile, index⟩ : BelId) ≠ bel →
      ∀ other, view.cellOn? ⟨bel.tile, index⟩ = some other → other.name ≠ cell.name →
        ∀ otherNet, other.portNet? port = some otherNet → otherNet = net) := by
  rw [groupConflict?]
  by_cases here : (⟨bel.tile, index⟩ : BelId) = bel
  · simp [here]
  · cases seen : view.cellOn? ⟨bel.tile, index⟩ with
    | none => simp [here]
    | some other =>
        by_cases itself : other.name = cell.name
        · simp [here, itself]
        · cases joined : other.portNet? port with
          | none => simp [here, itself, joined]
          | some otherNet => by_cases same : otherNet = net <;> simp [here, itself, joined, same]

/-- Nothing speaks against a cell in its group when no other cell that is seen there has another net
at a port that they share. -/
theorem groupViolation?_eq_none_iff_seen :
    groupViolation? view cell bel = none ↔
      ∀ group, view.layout.device.muxGroup? bel = some group →
        ∀ port ∈ group.ports, ∀ net, cell.portNet? port = some net →
          ∀ index ∈ group.bels, (⟨bel.tile, index⟩ : BelId) ≠ bel →
            ∀ other, view.cellOn? ⟨bel.tile, index⟩ = some other → other.name ≠ cell.name →
              ∀ otherNet, other.portNet? port = some otherNet → otherNet = net := by
  rw [groupViolation?]
  cases view.layout.device.muxGroup? bel with
  | none => simp
  | some group =>
      simp only [List.findSome?_eq_none_iff, Option.some.injEq, forall_eq']
      refine forall_congr' fun port => forall_congr' fun _ => ?_
      cases cell.portNet? port with
      | none => simp
      | some net =>
          simp only [List.findSome?_eq_none_iff, Option.some.injEq, forall_eq',
            groupConflict?_eq_none_iff]

end Seen

theorem groupViolation?_eq_none_iff {layout : Layout} (agree : layout.BelsAgree) {cell : Cell}
    {bel : BelId} (bound : layout.boundCell? bel = some cell) :
    groupViolation? ⟨layout, []⟩ cell bel = none ↔ layout.GroupAgrees cell bel := by
  simp only [groupViolation?_eq_none_iff_seen, View.cellOn?_unmoved]
  constructor
  · intro quiet group grouped index member elsewhere other bound' port shared net otherNet joined
      joined'
    have apart : other.name ≠ cell.name := fun same =>
      elsewhere (agree.bel_unique bound' bound same)
    exact (quiet group grouped port shared net joined index member elsewhere other bound' apart
      otherNet joined').symm
  · intro agrees group grouped port shared net joined index member elsewhere other bound' _ otherNet
      joined'
    exact (agrees group grouped index member elsewhere other bound' port shared net otherNet joined
      joined').symm

theorem portViolation?_eq_none_iff {layout : Layout} {cell : Cell} {bel : BelId} {port : Name} :
    portViolation? layout cell bel port = none ↔
      ∀ wanted decoded, wantedSetting? cell port = some wanted →
        layout.portSetting? bel port = some decoded → (decoded : Int) = wanted := by
  unfold portViolation?
  cases wantedSetting? cell port with
  | none => simp
  | some wanted =>
      cases layout.portSetting? bel port with
      | none => simp
      | some decoded => simp [mismatch?]

theorem settingViolation?_eq_none_iff {layout : Layout} {cell : Cell} {bel : BelId} :
    settingViolation? layout cell bel = none ↔ layout.SettingsAgree cell bel := by
  rw [settingViolation?, List.findSome?_eq_none_iff]
  constructor
  · intro quiet port member
    exact portViolation?_eq_none_iff.1 (quiet port (Std.ExtTreeMap.mem_keys.2 member))
  · intro agrees port member
    exact portViolation?_eq_none_iff.2 (agrees port (Std.ExtTreeMap.mem_keys.1 member))

end Plan

/-! ### Links between multipliers -/

/-- Cascade ports are told apart by their third letter. -/
theorem Primitive.third_of_starts {starts : List String} {letter : Char} {port : Name}
    (third : ∀ start ∈ starts, start.toList[2]? = some letter)
    (begins : (starts.any fun start => start.toList.isPrefixOf port.toList) = true) :
    port.toList[2]? = some letter := by
  obtain ⟨start, member, begins⟩ := List.any_eq_true.1 begins
  obtain ⟨rest, same⟩ := List.isPrefixOf_iff_prefix.1 begins
  have here := third start member
  obtain ⟨inside, _⟩ := List.getElem?_eq_some_iff.1 here
  rw [← same, List.getElem?_append_left inside]
  exact here

/-- No port is both an input and an output. -/
theorem Primitive.isCascadeInput_of_isCascadeOutput {port : Name}
    (output : isCascadeOutput port = true) : isCascadeInput port = false := by
  refine Bool.eq_false_iff.2 fun input => ?_
  have inLetter : port.toList[2]? = some 'I' := third_of_starts (by decide) input
  have outLetter : port.toList[2]? = some 'O' := third_of_starts (by decide) output
  rw [inLetter] at outLetter
  exact absurd outLetter (by decide)

/-- A multiplier of some name is on a bel. -/
def Layout.MultiplierAt (layout : Layout) (name : Name) (bel : BelId) : Prop :=
  ∃ cell, layout.boundCell? bel = some cell ∧ cell.name = name ∧ cell.type = "DSP"

theorem Layout.multiplierAt_iff {layout : Layout} (agree : layout.BelsAgree) {name : Name}
    {bel : BelId} : layout.MultiplierAt name bel ↔
      Plan.isMultiplier layout name = true ∧ layout.belOf? name = some bel := by
  constructor
  · rintro ⟨cell, bound, rfl, type⟩
    obtain ⟨found, placed⟩ := agree.bound_iff.1 bound
    refine ⟨?_, belOf?_eq_some_iff.2 ⟨cell, found, placed⟩⟩
    simp only [Plan.isMultiplier, found, type, decide_true]
  · rintro ⟨multiplier, there⟩
    obtain ⟨cell, found, placed⟩ := belOf?_eq_some_iff.1 there
    cases agree.named name cell found
    refine ⟨cell, agree.bound_iff.2 ⟨found, placed⟩, rfl, ?_⟩
    simpa only [Plan.isMultiplier, found, decide_eq_true_eq] using multiplier

/-- Whether a cell is the one on a bel can be said by name or by bel. -/
theorem Layout.MultiplierAt.name_ne_iff {layout : Layout} (agree : layout.BelsAgree) {cell : Cell}
    {bel other : BelId} {name : Name} (bound : layout.boundCell? bel = some cell)
    (there : layout.MultiplierAt name other) : name ≠ cell.name ↔ other ≠ bel := by
  obtain ⟨otherCell, bound', rfl, _⟩ := there
  constructor
  · rintro different rfl
    rw [bound] at bound'
    cases bound'
    exact different rfl
  · intro elsewhere same
    exact elsewhere (agree.bel_unique bound' bound same)

namespace Plan

/-- The dedicated links of a device join a multiplier with the other placed multipliers that drive its
cascade inputs or use its cascade outputs. -/
def CascadeLinked (plan : Plan) (cell : Cell) (bel : BelId) : Prop :=
  ∀ port name net, cell.portNet? port = some name → plan.net? name = some net →
    (Primitive.isCascadeInput port = true → ∀ driver, net.driver = some driver → ∀ other,
      plan.layout.MultiplierAt driver.cell other → other ≠ bel →
        plan.fabric.tables.cascade[other]? = some bel) ∧
    (Primitive.isCascadeOutput port = true → ∀ user ∈ net.users, ∀ other,
      plan.layout.MultiplierAt user.cell other → other ≠ bel →
        plan.fabric.tables.cascade[bel]? = some other)

section Cascade

variable {plan : Plan} {view : View} {cell : Cell} {bel : BelId}

/-- Another multiplier at a cascade port needs a link from or to where it is seen. -/
theorem unlinked_eq_none_iff {name : Name} (linked : BelId → Prop) [DecidablePred linked]
    (violation : Violation) :
    (if name = cell.name || ! isMultiplier view.layout name then none
      else
        match view.belOf? name with
        | none => none
        | some other => if linked other then none else some violation) = none ↔
      (name ≠ cell.name → isMultiplier view.layout name = true →
        ∀ place, view.belOf? name = some place → linked place) := by
  by_cases itself : name = cell.name
  · simp [itself]
  · cases isMultiplier view.layout name with
    | false => simp
    | true =>
        cases view.belOf? name with
        | none => simp
        | some place => simp [itself]

theorem cascadeInputViolation?_eq_none_iff {port : Name} {net : Net} :
    plan.cascadeInputViolation? view cell bel port net = none ↔
      ∀ driver, net.driver = some driver → driver.cell ≠ cell.name →
        isMultiplier view.layout driver.cell = true → ∀ place, view.belOf? driver.cell = some place →
          plan.fabric.tables.cascade[place]? = some bel := by
  rw [cascadeInputViolation?]
  cases net.driver with
  | none => simp
  | some driver =>
      simp only [Option.some.injEq, forall_eq']
      exact unlinked_eq_none_iff (fun place => plan.fabric.tables.cascade[place]? = some bel) _

theorem cascadeOutputViolation?_eq_none_iff {port : Name} {net : Net} :
    plan.cascadeOutputViolation? view cell bel port net = none ↔
      ∀ user ∈ net.users, user.cell ≠ cell.name → isMultiplier view.layout user.cell = true →
        ∀ place, view.belOf? user.cell = some place →
          plan.fabric.tables.cascade[bel]? = some place := by
  rw [cascadeOutputViolation?, List.findSome?_eq_none_iff]
  refine forall_congr' fun user => forall_congr' fun _ => ?_
  exact unlinked_eq_none_iff (fun place => plan.fabric.tables.cascade[bel]? = some place) _

/-- Nothing speaks against a multiplier when it is linked with all others that are seen at its
cascade ports. -/
theorem cascadeViolation?_eq_none_iff_seen :
    plan.cascadeViolation? view cell bel = none ↔
      ∀ port name net, cell.portNet? port = some name → view.layout.net? name = some net →
        (Primitive.isCascadeInput port = true →
          plan.cascadeInputViolation? view cell bel port net = none) ∧
        (Primitive.isCascadeOutput port = true →
          plan.cascadeOutputViolation? view cell bel port net = none) := by
  rw [cascadeViolation?, List.findSome?_eq_none_iff]
  constructor
  · intro quiet port name net joined known
    obtain ⟨info, found, joined⟩ := Option.bind_eq_some_iff.1 joined
    have here := quiet (port, info) (Std.ExtTreeMap.mem_toList_iff_getElem?_eq_some.2 found)
    have there : info.net.bind view.layout.net? = some net := by
      rw [joined]
      exact known
    simp only [there] at here
    constructor
    · intro input
      rwa [if_pos input] at here
    · intro output
      rwa [Primitive.isCascadeInput_of_isCascadeOutput output, if_neg Bool.false_ne_true,
        if_pos output] at here
  · rintro linked ⟨port, info⟩ member
    have found := Std.ExtTreeMap.mem_toList_iff_getElem?_eq_some.1 member
    cases there : info.net.bind view.layout.net? with
    | none => simp only [there]
    | some net =>
        obtain ⟨name, joined, known⟩ := Option.bind_eq_some_iff.1 there
        have joined' : cell.portNet? port = some name := by
          simp only [Cell.portNet?, found, Option.bind_some, joined]
        obtain ⟨inputs, outputs⟩ := linked port name net joined' known
        simp only [there]
        split
        · rename_i input
          exact inputs input
        · split
          · rename_i output
            exact outputs output
          · rfl

/-- Without moves, the others that are seen are the multipliers on other bels. -/
theorem forall_seen_iff {layout : Layout} (agree : layout.BelsAgree)
    (bound : layout.boundCell? bel = some cell) {name : Name} {linked : BelId → Prop} :
    (name ≠ cell.name → isMultiplier layout name = true →
      ∀ place, (View.mk layout []).belOf? name = some place → linked place) ↔
      ∀ other, layout.MultiplierAt name other → other ≠ bel → linked other := by
  constructor
  · intro quiet other there elsewhere
    obtain ⟨multiplier, place⟩ := (Layout.multiplierAt_iff agree).1 there
    exact quiet ((there.name_ne_iff agree bound).2 elsewhere) multiplier other place
  · intro linked different multiplier place seen
    have there := (Layout.multiplierAt_iff agree).2 ⟨multiplier, seen⟩
    exact linked place there ((there.name_ne_iff agree bound).1 different)

theorem cascadeViolation?_eq_none_iff (agree : plan.layout.BelsAgree)
    (bound : plan.layout.boundCell? bel = some cell) :
    plan.cascadeViolation? ⟨plan.layout, []⟩ cell bel = none ↔ plan.CascadeLinked cell bel := by
  simp only [cascadeViolation?_eq_none_iff_seen, cascadeInputViolation?_eq_none_iff,
    cascadeOutputViolation?_eq_none_iff, forall_seen_iff agree bound]
  rfl

end Cascade

/-! ### Clock buffers of the lobe -/

/-- The clock nets of the placed cells of a lobe, in order of first mention. -/
def lobeClocks (plan : Plan) (lobe : Nat) : List Name :=
  plan.lexicon.sort
    (Std.ExtTreeSet.ofList ((plan.allClockUses.filter (·.group = lobe)).map Keyed.member)).toList

/-- If the lobe has buffers, all clock nets of its placed cells get one, in that order. -/
def LobeServed (plan : Plan) (lobe : Nat) : Prop :=
  ∀ buffers, plan.fabric.tables.buffers[lobe]? = some buffers →
    ∃ served, ClockBuffer.assign plan.device plan.fabric.options.bufferChoice buffers
      ((plan.lobeClocks lobe).map plan.clockRequest) = .ok (some served)

section Clocks

variable {plan : Plan} {cell : Cell} {bel : BelId} {lobe : Nat}

theorem mem_lobeUses_iff {net : Name} :
    net ∈ (plan.allClockUses.filter (·.group = lobe)).map Keyed.member ↔
      (⟨lobe, net⟩ : Keyed Nat Name) ∈ plan.allClockUses := by
  rw [List.mem_map]
  constructor
  · rintro ⟨⟨group, member⟩, filtered, rfl⟩
    obtain ⟨used, here⟩ := List.mem_filter.1 filtered
    cases of_decide_eq_true here
    exact used
  · intro used
    exact ⟨⟨lobe, net⟩, List.mem_filter.2 ⟨used, by simp⟩, rfl⟩

/-- The clock nets of a lobe are those at its clock pins. -/
theorem mem_lobeClocks_iff {net : Name} :
    net ∈ plan.lobeClocks lobe ↔ ∃ pin, plan.ClockedAt lobe net pin := by
  rw [lobeClocks, Lexicon.mem_sort_iff, Std.ExtTreeSet.mem_toList, Std.ExtTreeSet.mem_ofList,
    List.contains_iff_mem, mem_lobeUses_iff, mem_allClockUses_iff_clockedAt]

/-- Where the counts are right, a placed cell adds nothing to the nets that are counted. -/
theorem lobeNets_eq (counted : plan.Counted) (bound : plan.layout.boundCell? bel = some cell)
    (here : plan.fabric.tables.tiles.lobe? bel.tile = some lobe) :
    plan.lobeNets [] cell lobe = plan.lobeClocks lobe := by
  refine congrArg (fun nets : Std.ExtTreeSet Name => plan.lexicon.sort nets.toList) ?_
  apply Std.ExtTreeSet.ext_mem
  intro net
  rw [Std.ExtTreeSet.mem_ofList, Std.ExtTreeSet.mem_ofList, List.contains_iff_mem,
    List.contains_iff_mem, mem_lobeUses_iff]
  have own : net ∈ plan.bufferedNets cell →
      (⟨lobe, net⟩ : Keyed Nat Name) ∈ plan.allClockUses := fun used =>
    Layout.mem_uses_iff.2 ⟨bel, cell, bound, mem_clockUses_iff.2 ⟨here, used⟩⟩
  simp only [movedNets, List.flatMap_nil, List.append_nil, List.mem_append,
    counted.clocks.mem_members_iff]
  constructor
  · rintro (used | used)
    · exact own used
    · exact used
  · exact Or.inr

theorem mem_lobeNets_iff {moves : Placement} {net : Name} :
    net ∈ plan.lobeNets moves cell lobe ↔
      net ∈ plan.bufferedNets cell ∨ net ∈ plan.fabric.occupancy.clocks.members lobe ∨
        net ∈ plan.movedNets moves lobe := by
  rw [lobeNets, Lexicon.mem_sort_iff, Std.ExtTreeSet.mem_toList, Std.ExtTreeSet.mem_ofList,
    List.contains_iff_mem, List.mem_append, List.mem_append, or_assoc]

/-- Nets that are left come in the order that they had. -/
theorem lobeNets_sublist_of_subset {after : Plan} {moves moves' : Placement} {cell' : Cell}
    {lobe' : Nat} (lexicon : after.lexicon = plan.lexicon)
    (within : after.lobeNets moves' cell' lobe' ⊆ plan.lobeNets moves cell lobe) :
    (after.lobeNets moves' cell' lobe').Sublist (plan.lobeNets moves cell lobe) := by
  rw [lobeNets, lobeNets, lexicon] at within ⊢
  exact plan.lexicon.sort_sublist within

section Verdict

variable {nets : Nat → List Name} {request : Name → ClockRequest}

/-- Whether there are enough buffers can always be decided. -/
theorem capacityVerdict_total
    (there : ClockBuffer.OnDevice plan.device plan.fabric.tables.buffers) :
    ∃ answer, plan.capacityVerdict bel nets (fun nets => .ok (nets.map request)) = .ok answer := by
  unfold capacityVerdict
  cases plan.fabric.tables.tiles.lobe? bel.tile with
  | none => exact ⟨none, rfl⟩
  | some lobe =>
      cases found : plan.fabric.tables.buffers[lobe]? with
      | none => exact ⟨none, by simp only [found]⟩
      | some buffers =>
          simp only [found]
          split
          · exact ⟨_, rfl⟩
          have measurable : ClockBuffer.Measurable plan.device plan.fabric.options.bufferChoice
              buffers := fun _ => there lobe buffers found
          obtain ⟨answer, assigned⟩ := ClockBuffer.assignFrom_total measurable
            ((nets lobe).map request) []
          rw [ClockBuffer.assign, assigned]
          cases answer with
          | none => exact ⟨_, rfl⟩
          | some served => exact ⟨_, rfl⟩

/-- Nothing is said against a bel when all nets get a buffer of its lobe. -/
theorem capacityVerdict_eq_ok_none_iff :
    plan.capacityVerdict bel nets (fun nets => .ok (nets.map request)) = .ok none ↔
      ∀ lobe, plan.fabric.tables.tiles.lobe? bel.tile = some lobe →
        ∀ buffers, plan.fabric.tables.buffers[lobe]? = some buffers →
          ∃ served, ClockBuffer.assign plan.device plan.fabric.options.bufferChoice buffers
            ((nets lobe).map request) = .ok (some served) := by
  unfold capacityVerdict
  cases here : plan.fabric.tables.tiles.lobe? bel.tile with
  | none => simp
  | some lobe =>
      simp only [Option.some.injEq, forall_eq']
      cases found : plan.fabric.tables.buffers[lobe]? with
      | none => simp
      | some buffers =>
          simp only [Option.some.injEq, forall_eq']
          constructor
          · intro quiet
            split at quiet
            · cases quiet
            split at quiet
            · cases quiet
            · rename_i served assigned
              exact ⟨served, assigned⟩
            · cases quiet
          · rintro ⟨served, assigned⟩
            have enough := ClockBuffer.length_le_of_assign assigned
            rw [List.length_map] at enough
            rw [if_neg (Nat.not_lt.2 enough), assigned]

end Verdict

theorem clockViolation?_total (there : ClockBuffer.OnDevice plan.device plan.fabric.tables.buffers)
    (moves : Placement) (cell : Cell) (bel : BelId) :
    ∃ answer, plan.clockViolation? moves cell bel = .ok answer := by
  unfold clockViolation?
  split
  · exact ⟨none, rfl⟩
  · exact capacityVerdict_total there

/-- The clock check accepts a cell when all nets of its lobe, with those that move there, get a
buffer. -/
theorem clockViolation?_eq_ok_none_iff_assigned (moves : Placement) :
    plan.clockViolation? moves cell bel = .ok none ↔
      (plan.bufferedNets cell ≠ [] →
        ∀ lobe, plan.fabric.tables.tiles.lobe? bel.tile = some lobe →
          ∀ buffers, plan.fabric.tables.buffers[lobe]? = some buffers →
            ∃ served, ClockBuffer.assign plan.device plan.fabric.options.bufferChoice buffers
              ((plan.lobeNets moves cell lobe).map plan.clockRequest) = .ok (some served)) := by
  rw [clockViolation?, ← capacityVerdict_eq_ok_none_iff]
  split
  · rename_i empty
    exact iff_of_true rfl fun clocked => absurd (List.isEmpty_iff.1 empty) clocked
  · rename_i clocked
    simp only [Ne, mt List.isEmpty_iff.2 clocked, not_false_eq_true, true_implies]

/-- **The clock check of a placed cell is about the lobe.** -/
theorem clockViolation?_eq_ok_none_iff (counted : plan.Counted)
    (bound : plan.layout.boundCell? bel = some cell) :
    plan.clockViolation? [] cell bel = .ok none ↔
      (plan.bufferedNets cell ≠ [] →
        ∀ lobe, plan.fabric.tables.tiles.lobe? bel.tile = some lobe → plan.LobeServed lobe) := by
  rw [clockViolation?_eq_ok_none_iff_assigned]
  refine forall_congr' fun _ => forall_congr' fun lobe => forall_congr' fun here => ?_
  rw [lobeNets_eq counted bound here, LobeServed]

end Clocks

end Plan

end UltraFabric
