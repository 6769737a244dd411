/-
# UltraFabric.Proofs.Trees — what the pass over clock nets leaves is a tree for each net

Where nothing is routed, clock nets get their wires from the pass alone, and lose them again when what
was reserved is released.  `Plan.Grown` is what every taking keeps: a wire of a net is its source, or
the source feeds it over the driving pips of the net (`Layout.Fed`); a source is the wire at the pin
that drives the net; and every wire that a net has is noted.  As all wires are noted, a release leaves
nothing (`Laid.release`), so that passes and releases may follow each other in any order.  Only what is
said of sources depends on where cells are; `Plan.Laid` is the rest.

`Fed` has one case for the source and one for a pip.  Walking back along the driving pips from a wire
that is fed is therefore an induction that ends at the source (`Fed.exists_iterate`).
-/
import Mathlib.Logic.Function.Iterate
import UltraFabric.Proofs.Bindings
import UltraFabric.Proofs.Reserving

namespace UltraFabric

set_option autoImplicit false

namespace Layout

/-- A wire that the source of its net feeds over pips of the net. -/
inductive Fed (layout : Layout) (name : Name) : WireId → Prop where
  | source {wire : WireId} (held : layout.hold? name wire = some none) : Fed layout name wire
  | pip {arc : Arc} (there : layout.device.arc? arc.pip = some arc)
      (held : layout.hold? name arc.target = some (some arc.pip))
      (before : Fed layout name arc.source) : Fed layout name arc.target

/-- Where the driving pip of a wire comes from; a wire without one stays. -/
def upstream (layout : Layout) (name : Name) (wire : WireId) : WireId :=
  (((layout.hold? name wire).join.bind layout.device.arc?).map Arc.source).getD wire

namespace Fed

variable {layout : Layout} {name : Name} {wire : WireId}

theorem hold? (fed : layout.Fed name wire) : ∃ pip, layout.hold? name wire = some pip := by
  cases fed with
  | source held => exact ⟨_, held⟩
  | pip there held before => exact ⟨_, held⟩

/-- What feeds a wire with a driving pip feeds the wire that the pip leaves. -/
theorem source_of_driven (fed : layout.Fed name wire) {pip : PipId} {arc : Arc}
    (there : layout.device.arc? pip = some arc) (held : layout.hold? name wire = some (some pip)) :
    layout.Fed name arc.source := by
  cases fed with
  | source held' =>
      rw [held] at held'
      cases held'
  | pip there' held' before =>
      rw [held] at held'
      cases held'
      cases there.symm.trans there'
      exact before

/-- A net that keeps what it has keeps what feeds its wires. -/
theorem mono {after : Layout} (device : after.device = layout.device)
    (kept : ∀ wire pip, layout.hold? name wire = some pip → after.hold? name wire = some pip)
    (fed : layout.Fed name wire) : after.Fed name wire := by
  induction fed with
  | source held => exact .source (kept _ _ held)
  | pip there held before ih => exact .pip (device ▸ there) (kept _ _ held) ih

/-- **Walking back along the driving pips ends at a source.** -/
theorem exists_iterate (fed : layout.Fed name wire) :
    ∃ steps source, (layout.upstream name)^[steps] wire = source ∧
      layout.hold? name source = some none := by
  induction fed with
  | source held => exact ⟨0, _, rfl, held⟩
  | @pip arc there held before ih =>
      obtain ⟨steps, source, walked, held'⟩ := ih
      have back : layout.upstream name arc.target = arc.source := by
        simp only [upstream, held, Option.join_some, Option.bind_some, there, Option.map_some,
          Option.getD_some]
      refine ⟨steps + 1, source, ?_, held'⟩
      rw [Function.iterate_succ_apply, back]
      exact walked

end Fed

theorem netOnWire_foldl_unbindWire (wires : List WireId) (wire : WireId) :
    ∀ layout : Layout, (wires.foldl unbindWire layout).netOnWire[wire]? =
      if wire ∈ wires then none else layout.netOnWire[wire]? := by
  induction wires with
  | nil =>
      intro layout
      simp
  | cons first rest ih =>
      intro layout
      rw [List.foldl_cons, ih, netOnWire_unbindWire]
      by_cases later : wire ∈ rest
      · simp [later]
      · by_cases here : first = wire
        · simp [here]
        · simp [later, here, Ne.symm here]

end Layout

namespace Plan

/-- Nothing is routed and nothing is reserved. -/
structure Unrouted (plan : Plan) : Prop where
  nets : ∀ name net, plan.net? name = some net → net.wires = ∅
  wires : plan.layout.netOnWire = ∅
  pips : plan.layout.netOnPip = ∅
  unreserved : plan.fabric.reserved = .none

/-- All wires of nets come from the pass over clock nets: the source of the net feeds each of them, and
it is noted. -/
structure Laid (plan : Plan) : Prop where
  agree : plan.layout.WiresAgree
  fed : ∀ name wire pip, plan.layout.hold? name wire = some pip → plan.layout.Fed name wire
  noted : ∀ name wire pip, plan.layout.hold? name wire = some pip →
    wire ∈ plan.fabric.reserved.wires

/-- A wire without a driving pip, too, is where it should be: it is the one at the pin that drives the
net. -/
structure Grown (plan : Plan) : Prop extends plan.Laid where
  sources : ∀ name wire, plan.layout.hold? name wire = some none →
    plan.sourceWire? name = some wire

/-- Where no net has a wire, nothing has to be shown of wires. -/
theorem Grown.of_free {plan : Plan} (agree : plan.layout.WiresAgree)
    (free : ∀ wire : WireId, plan.layout.netOnWire[wire]? = none) : plan.Grown := by
  have nowhere : ∀ name wire pip, plan.layout.hold? name wire ≠ some pip := by
    intro name wire pip held
    rw [agree.hold?_of_free (free wire)] at held
    cases held
  exact ⟨⟨agree, fun name wire pip held => absurd held (nowhere name wire pip),
    fun name wire pip held => absurd held (nowhere name wire pip)⟩,
    fun name wire held => absurd held (nowhere name wire none)⟩

theorem Unrouted.grown {plan : Plan} (unrouted : plan.Unrouted) : plan.Grown := by
  refine .of_free (.of_unrouted unrouted.nets unrouted.wires unrouted.pips) fun wire => ?_
  rw [unrouted.wires]
  simp

/-- Whatever a net has now it had before, or it has just been taken, as the source of the net or by a
pip from a wire of the net. -/
theorem Takes.new_cases {before after : Plan} (takes : before.Takes after) {name : Name}
    {wire : WireId} {pip : Option PipId} (held : after.layout.hold? name wire = some pip) :
    before.layout.hold? name wire = some pip ∨ (wire ∈ after.fabric.reserved.wires ∧
      ((pip = none ∧ before.sourceWire? name = some wire) ∨
        ∃ arc own, pip = some arc.pip ∧ arc.target = wire ∧
          before.device.arc? arc.pip = some arc ∧
          before.layout.hold? name arc.source = some own)) := by
  cases takes with
  | keep name wire clock drives owned layout notes =>
      rw [layout] at held
      exact Or.inl held
  | source name wire net clock drives found free layout notes =>
      rw [layout, Layout.hold?_take found] at held
      split at held
      · rename_i here
        obtain ⟨rfl, rfl⟩ := here
        cases held
        exact Or.inr ⟨by simp [notes.wires], Or.inl ⟨rfl, drives⟩⟩
      · exact Or.inl held
  | pip name arc net there fed found unused free layout notes =>
      rw [layout, Layout.hold?_take found] at held
      split at held
      · rename_i here
        obtain ⟨rfl, rfl⟩ := here
        cases held
        obtain ⟨own, from_⟩ := fed
        exact Or.inr ⟨by simp [notes.wires], Or.inr ⟨arc, own, rfl, rfl, there, from_⟩⟩
      · exact Or.inl held

/-- **One taking keeps what is laid.** -/
theorem Takes.laid {before after : Plan} (takes : before.Takes after) (laid : before.Laid) :
    after.Laid := by
  have same := takes.sameButRouting
  have kept : ∀ name wire, before.layout.Fed name wire → after.layout.Fed name wire :=
    fun name wire fed => fed.mono same.device fun _ _ held => takes.hold? laid.agree held
  refine ⟨takes.agree laid.agree, fun name wire pip held => ?_, fun name wire pip held => ?_⟩
  · rcases takes.new_cases held with old | ⟨_, ⟨rfl, _⟩ | ⟨arc, own, rfl, rfl, there, from_⟩⟩
    · exact kept name wire (laid.fed name wire pip old)
    · exact .source held
    · rw [← same.device] at there
      exact .pip there held (kept _ _ (laid.fed _ _ own from_))
  · rcases takes.new_cases held with old | ⟨member, _⟩
    · exact takes.noted (laid.noted name wire pip old)
    · exact member

/-- **One taking keeps the trees.** -/
theorem Takes.grown {before after : Plan} (takes : before.Takes after) (grown : before.Grown) :
    after.Grown := by
  refine ⟨takes.laid grown.toLaid, fun name wire held => ?_⟩
  rw [takes.sameButRouting.sourceWire?]
  rcases takes.new_cases held with old | ⟨_, ⟨_, source⟩ | ⟨_, _, impossible, _⟩⟩
  · exact grown.sources name wire old
  · exact source
  · cases impossible

theorem Reserves.laid {before after : Plan} (reserves : before.Reserves after)
    (laid : before.Laid) : after.Laid := by
  induction reserves with
  | refl => exact laid
  | tail _ takes ih => exact takes.laid ih

theorem Reserves.grown {before after : Plan} (reserves : before.Reserves after)
    (grown : before.Grown) : after.Grown := by
  induction reserves with
  | refl => exact grown
  | tail _ takes ih => exact takes.grown ih

theorem agree_foldl_unbindWire (wires : List WireId) :
    ∀ {layout : Layout}, layout.WiresAgree → (wires.foldl Layout.unbindWire layout).WiresAgree := by
  induction wires with
  | nil =>
      intro layout agree
      exact agree
  | cons wire rest ih =>
      intro layout agree
      exact ih (agree.unbindWire wire)

/-- **A release takes all wires away**, as all of them are noted. -/
theorem Laid.free_of_release {plan : Plan} (laid : plan.Laid) (wire : WireId) :
    plan.releaseLowSkew.layout.netOnWire[wire]? = none := by
  have gone : plan.releaseLowSkew.layout.netOnWire[wire]? =
      if wire ∈ plan.fabric.reserved.wires then none else plan.layout.netOnWire[wire]? :=
    Layout.netOnWire_foldl_unbindWire _ wire plan.layout
  rw [gone]
  split
  · rfl
  · rename_i unnoted
    refine Option.eq_none_iff_forall_ne_some.2 fun name bound => unnoted ?_
    obtain ⟨pip, held⟩ := (laid.agree.wire_iff wire name).1 bound
    exact laid.noted name wire pip held

theorem Laid.release {plan : Plan} (laid : plan.Laid) : plan.releaseLowSkew.Grown :=
  .of_free (agree_foldl_unbindWire _ laid.agree) laid.free_of_release

/-! ### Passes and releases -/

/-- What is done about clock nets. -/
inductive Pass where
  | reserve
  | release
  | unblock

/-- The plan after a pass, which may have ended early, or after a release, or with all pips open. -/
def pass (plan : Plan) : Pass → Plan
  | .reserve => plan.reserveLowSkew.1.plan
  | .release => plan.releaseLowSkew
  | .unblock => plan.unblock

def passes (plan : Plan) (passes : List Pass) : Plan :=
  passes.foldl pass plan

theorem sameDesign_foldl_unbindWire (wires : List WireId) :
    ∀ layout : Layout, layout.SameDesign (wires.foldl Layout.unbindWire layout) := by
  induction wires with
  | nil => exact Layout.SameDesign.refl
  | cons wire rest ih =>
      intro layout
      exact (layout.sameDesign_unbindWire wire).trans (ih (layout.unbindWire wire))

/-- Whatever is done about clock nets, only routing and reservations change. -/
theorem sameButRouting_pass (plan : Plan) (pass : Pass) : plan.SameButRouting (plan.pass pass) := by
  cases pass with
  | reserve => exact plan.reserves_reserveLowSkew.sameButRouting
  | release => exact ⟨sameDesign_foldl_unbindWire _ plan.layout, rfl⟩
  | unblock => exact ⟨.refl plan.layout, rfl⟩

theorem Grown.pass {plan : Plan} (grown : plan.Grown) (pass : Pass) : (plan.pass pass).Grown := by
  cases pass with
  | reserve => exact plan.reserves_reserveLowSkew.grown grown
  | release => exact grown.toLaid.release
  | unblock => exact ⟨⟨grown.agree, grown.fed, grown.noted⟩, grown.sources⟩

theorem Grown.passes (passes : List Pass) :
    ∀ {plan : Plan}, plan.Grown → (plan.passes passes).Grown := by
  induction passes with
  | nil =>
      intro plan grown
      exact grown
  | cons pass rest ih =>
      intro plan grown
      exact ih (grown.pass pass)

/-! ### Trees -/

/-- The wires of a net are a tree that grows from its driver. -/
structure IsTree (plan : Plan) (name : Name) (net : Net) : Prop where
  /-- The one wire without a driving pip is that of the driver. -/
  source : ∀ wire, net.wires[wire]? = some none ↔
    wire ∈ net.wires ∧ plan.sourceWire? name = some wire
  /-- Any other wire is driven by a pip of the net, which leaves a wire of the net. -/
  driven : ∀ wire pip, net.wires[wire]? = some (some pip) →
    ∃ arc, plan.device.arc? pip = some arc ∧ arc.target = wire ∧ arc.source ∈ net.wires ∧
      plan.layout.pipNet? pip = some name
  /-- Walking back along the driving pips ends at the wire of the driver, which the net has. -/
  rooted : ∀ wire ∈ net.wires, ∃ source, plan.sourceWire? name = some source ∧
    source ∈ net.wires ∧ ∃ steps, (plan.layout.upstream name)^[steps] wire = source

/-- No wire and no pip belongs to two nets. -/
structure Apart (net other : Net) : Prop where
  wires : ∀ wire, wire ∈ net.wires → wire ∉ other.wires
  pips : ∀ (pip : PipId) (wire place : WireId), net.wires[wire]? = some (some pip) →
    other.wires[place]? ≠ some (some pip)

section Grown

variable {plan : Plan} {name other : Name} {net otherNet : Net}

theorem mem_wires_iff_hold? (found : plan.net? name = some net) {wire : WireId} :
    wire ∈ net.wires ↔ ∃ pip, plan.layout.hold? name wire = some pip := by
  rw [Layout.hold?_of_net found, Std.ExtTreeMap.mem_iff_isSome_getElem?, Option.isSome_iff_exists]

theorem Grown.isTree (grown : plan.Grown) (found : plan.net? name = some net) :
    plan.IsTree name net := by
  have rooted : ∀ wire ∈ net.wires, ∃ source, plan.sourceWire? name = some source ∧
      plan.layout.hold? name source = some none ∧
      ∃ steps, (plan.layout.upstream name)^[steps] wire = source := by
    intro wire member
    obtain ⟨pip, held⟩ := (mem_wires_iff_hold? found).1 member
    obtain ⟨steps, source, walked, held'⟩ := (grown.fed name wire pip held).exists_iterate
    exact ⟨source, grown.sources name source held', held', steps, walked⟩
  refine ⟨fun wire => ?_, fun wire pip held => ?_, fun wire member => ?_⟩
  · rw [← Layout.hold?_of_net found]
    constructor
    · intro held
      exact ⟨(mem_wires_iff_hold? found).2 ⟨none, held⟩, grown.sources name wire held⟩
    · rintro ⟨member, drives⟩
      obtain ⟨source, drives', held, _⟩ := rooted wire member
      cases drives.symm.trans drives'
      exact held
  · rw [← Layout.hold?_of_net found] at held
    obtain ⟨arc, there, rfl⟩ := grown.agree.driven name wire pip held
    have before := (grown.fed name arc.target _ held).source_of_driven there held
    exact ⟨arc, there, rfl, (mem_wires_iff_hold? found).2 before.hold?,
      (grown.agree.pip_iff pip name).2 ⟨arc, there, held⟩⟩
  · obtain ⟨source, drives, held, walked⟩ := rooted wire member
    exact ⟨source, drives, (mem_wires_iff_hold? found).2 ⟨none, held⟩, walked⟩

theorem Grown.apart (grown : plan.Grown) (found : plan.net? name = some net)
    (found' : plan.net? other = some otherNet) (different : name ≠ other) : Apart net otherNet := by
  refine ⟨fun wire member member' => ?_, fun pip wire place held held' => ?_⟩
  · obtain ⟨pip, held⟩ := (mem_wires_iff_hold? found).1 member
    obtain ⟨pip', held'⟩ := (mem_wires_iff_hold? found').1 member'
    exact different (grown.agree.name_unique held held')
  · rw [← Layout.hold?_of_net found] at held
    rw [← Layout.hold?_of_net found'] at held'
    obtain ⟨arc, there, rfl⟩ := grown.agree.driven name wire pip held
    obtain ⟨arc', there', rfl⟩ := grown.agree.driven other place pip held'
    cases there.symm.trans there'
    exact different (grown.agree.name_unique held held')

end Grown

/-- **Clock nets are trees.**  Whatever passes and releases follow each other, however each pass ends,
the wires of each net are a tree that grows from its driver, and nets share no wires and no pips. -/
theorem trees_of_passes {plan : Plan} (unrouted : plan.Unrouted) (passes : List Pass) :
    (∀ name net, (plan.passes passes).net? name = some net →
      (plan.passes passes).IsTree name net) ∧
      ∀ name other net otherNet, (plan.passes passes).net? name = some net →
        (plan.passes passes).net? other = some otherNet → name ≠ other → Apart net otherNet := by
  have grown := unrouted.grown.passes passes
  exact ⟨fun name net found => grown.isTree found,
    fun name other net otherNet found found' => grown.apart found found'⟩

end Plan

namespace RingSample

def fabric : Fabric :=
  Fabric.ofOptions ⟨.firstFit, 8, 120, 18, 22, 40, 10, true⟩
    ⟨(∅ : Std.ExtTreeMap PrimitivePort SinkTier).insert ⟨"WFG", "ZI"⟩ .ring, ∅⟩

def plan : Plan :=
  ⟨.fresh, fabric, layout⟩

theorem unrouted : plan.Unrouted := by
  have unrouted := Netlist.unrouted_ofCells made
  have routes : layout.netlist = netlist ∧ layout.netOnWire = ∅ ∧ layout.netOnPip = ∅ := by
    have placed := placed
    simp only [Layout.ofNetlist] at placed
    split at placed
    · cases placed
    · simp only [Except.ok.injEq] at placed
      rw [← placed]
      exact ⟨rfl, rfl, rfl⟩
  obtain ⟨own, wires, pips⟩ := routes
  refine ⟨fun name net found => (unrouted name net ?_).2, wires, pips, rfl⟩
  rw [← own]
  exact found

/-- The sample after two passes, a release and another pass. -/
theorem trees_of_fourPasses :
    plan.Unrouted ∧
      (∀ name net, (plan.passes [.reserve, .reserve, .release, .reserve]).net? name = some net →
        (plan.passes [.reserve, .reserve, .release, .reserve]).IsTree name net) ∧
      ∀ name other net otherNet,
        (plan.passes [.reserve, .reserve, .release, .reserve]).net? name = some net →
        (plan.passes [.reserve, .reserve, .release, .reserve]).net? other = some otherNet →
        name ≠ other → Plan.Apart net otherNet :=
  ⟨unrouted, Plan.trees_of_passes unrouted [.reserve, .reserve, .release, .reserve]⟩

example : (plan.pass .reserve).layout.hold? "clk" ⟨0, 2⟩ = some (some ⟨0, 1⟩) := by decide +kernel

end RingSample

end UltraFabric
