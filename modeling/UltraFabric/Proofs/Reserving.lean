/-
# UltraFabric.Proofs.Reserving — what the pass over clock nets does

The pass takes wires one at a time, and `Plan.Takes` is the list of all that one taking can do: the
wire of a driver that its net has already (`keep`), a free one (`source`), or the wire behind a free
pip that leaves a wire of the net (`pip`).  Each time the wire is noted (`Notes`) and nothing else of
the architecture changes but what is reserved.

`Plan.Reserves` is any number of takings.  The pass is one of these whatever becomes of it
(`reserves_reserveLowSkew`): it may end well, at a net whose driver finds its wire in use, at a sink
that no path leads to, or within a path.  What is proved of one taking therefore holds of the pass.

The search enters through `Trail`: what it finds leads from a wire of the net, pip by pip.  That its
paths are shortest is not needed here.
-/
import Mathlib.Logic.Relation
import UltraFabric.LowSkew.Reserve
import UltraFabric.Proofs.Wires

namespace UltraFabric

set_option autoImplicit false

namespace Plan

/-! ### What stays -/

/-- Two plans differ in the wires of nets, in what is reserved, and in what has been mentioned. -/
structure SameButRouting (before after : Plan) : Prop where
  design : before.layout.SameDesign after.layout
  fabric : after.fabric = { before.fabric with reserved := after.fabric.reserved }

/-- The wire at the pin that drives a net. -/
def sourceWire? (plan : Plan) (name : Name) : Option WireId :=
  ((plan.net? name).bind Net.driver).bind plan.portWire?

/-- A net that the pass serves, or tries to. -/
def IsClockNet (plan : Plan) (name : Name) : Prop :=
  plan.lowSkewTargets? name ≠ none

namespace SameButRouting

variable {before between after : Plan}

theorem refl (plan : Plan) : plan.SameButRouting plan :=
  ⟨Layout.SameDesign.refl plan.layout, rfl⟩

theorem trans (first : before.SameButRouting between) (second : between.SameButRouting after) :
    before.SameButRouting after where
  design := first.design.trans second.design
  fabric := by rw [second.fabric, first.fabric]

theorem device (same : before.SameButRouting after) : after.device = before.device :=
  same.design.device

theorem clocks (same : before.SameButRouting after) : after.fabric.clocks = before.fabric.clocks := by
  rw [same.fabric]

theorem tables (same : before.SameButRouting after) : after.fabric.tables = before.fabric.tables := by
  rw [same.fabric]

theorem portWire? (same : before.SameButRouting after) (ref : PortRef) :
    after.portWire? ref = before.portWire? ref := by
  rw [Plan.portWire?, Plan.portWire?, same.design.belOf? ref.cell, same.device]

theorem sourceWire? (same : before.SameButRouting after) (name : Name) :
    after.sourceWire? name = before.sourceWire? name := by
  have driver : (after.net? name).bind Net.driver = (before.net? name).bind Net.driver :=
    same.design.driver name
  rw [Plan.sourceWire?, Plan.sourceWire?, driver]
  exact congrArg _ (funext same.portWire?)

theorem sinkTier? (same : before.SameButRouting after) (ref : PortRef) :
    after.sinkTier? ref = before.sinkTier? ref := by
  rw [Plan.sinkTier?, Plan.sinkTier?, Plan.cell?, Plan.cell?, same.design.cell?, same.clocks]

theorem driverTier (same : before.SameButRouting after) (ref : PortRef) :
    after.driverTier ref = before.driverTier ref := by
  have source : after.sourceTier? ref = before.sourceTier? ref := by
    rw [sourceTier?, sourceTier?, Plan.cell?, Plan.cell?, same.design.cell?, same.clocks]
  have ring : after.isRingPad after.layout.belOf? ref = before.isRingPad before.layout.belOf? ref := by
    rw [isRingPad, isRingPad, same.design.belOf?, same.tables]
  rw [Plan.driverTier, Plan.driverTier, tierAt, tierAt, source, ring]

/-- Which ends of a net the pass has to join does not change on the way. -/
theorem lowSkewTargets? (same : before.SameButRouting after) (name : Name) :
    after.lowSkewTargets? name = before.lowSkewTargets? name := by
  have nets := same.design.nets name
  have low : after.isLowSkewSink = before.isLowSkewSink := by
    funext ref
    rw [isLowSkewSink, isLowSkewSink, same.sinkTier?]
  have tier : after.driverTier = before.driverTier := funext same.driverTier
  simp only [Plan.lowSkewTargets?, Plan.net?, low, tier]
  cases found : after.layout.net? name with
  | none =>
      cases found' : before.layout.net? name with
      | none => rfl
      | some net =>
          rw [found, found'] at nets
          cases nets
  | some net =>
      cases found' : before.layout.net? name with
      | none =>
          rw [found, found'] at nets
          cases nets
      | some net' =>
          rw [found, found', Option.map_some, Option.map_some, Option.some.injEq] at nets
          have users : net.unrouted.users = net'.unrouted.users := congrArg Net.users nets
          have driver : net.unrouted.driver = net'.unrouted.driver := congrArg Net.driver nets
          simp only [Net.unrouted] at users driver
          simp only [users, driver]

theorem isClockNet_iff (same : before.SameButRouting after) (name : Name) :
    after.IsClockNet name ↔ before.IsClockNet name := by
  rw [IsClockNet, IsClockNet, same.lowSkewTargets?]

end SameButRouting

/-! ### One taking -/

/-- A wire has been added to those that are reserved, and otherwise only reservations differ. -/
structure Notes (before : Plan) (wire : WireId) (after : Plan) : Prop where
  fabric : after.fabric = { before.fabric with reserved := after.fabric.reserved }
  wires : after.fabric.reserved.wires = before.fabric.reserved.wires ++ [wire]

/-- All that can happen when the pass takes a wire. -/
inductive Takes (before after : Plan) : Prop where
  /-- The net has the wire of its driver already. -/
  | keep (name : Name) (wire : WireId) (clock : before.IsClockNet name)
      (drives : before.sourceWire? name = some wire)
      (owned : before.layout.netOnWire[wire]? = some name)
      (layout : after.layout = before.layout) (notes : before.Notes wire after)
  /-- The wire of a driver is free. -/
  | source (name : Name) (wire : WireId) (net : Net) (clock : before.IsClockNet name)
      (drives : before.sourceWire? name = some wire) (found : before.layout.net? name = some net)
      (free : before.layout.netOnWire[wire]? = none)
      (layout : after.layout = before.layout.take net name wire none)
      (notes : before.Notes wire after)
  /-- A free pip leads from a wire of the net to a free one. -/
  | pip (name : Name) (arc : Arc) (net : Net) (there : before.device.arc? arc.pip = some arc)
      (fed : ∃ pip, before.layout.hold? name arc.source = some pip)
      (found : before.layout.net? name = some net)
      (unused : before.layout.netOnPip[arc.pip]? = none)
      (free : before.layout.netOnWire[arc.target]? = none)
      (layout : after.layout = before.layout.take net name arc.target (some arc.pip))
      (notes : before.Notes arc.target after)

/-- Any number of takings. -/
abbrev Reserves : Plan → Plan → Prop :=
  Relation.ReflTransGen Takes

theorem Takes.sameButRouting {before after : Plan} (takes : before.Takes after) :
    before.SameButRouting after := by
  cases takes with
  | keep name wire clock drives owned layout notes =>
      exact ⟨layout ▸ Layout.SameDesign.refl _, notes.fabric⟩
  | source name wire net clock drives found free layout notes =>
      exact ⟨layout ▸ Layout.sameDesign_take found, notes.fabric⟩
  | pip name arc net there fed found unused free layout notes =>
      exact ⟨layout ▸ Layout.sameDesign_take found, notes.fabric⟩

/-- What has been noted stays noted. -/
theorem Takes.noted {before after : Plan} (takes : before.Takes after) {wire : WireId}
    (noted : wire ∈ before.fabric.reserved.wires) : wire ∈ after.fabric.reserved.wires := by
  cases takes with
  | keep _ _ _ _ _ _ notes => exact notes.wires ▸ List.mem_append_left _ noted
  | source _ _ _ _ _ _ _ _ notes => exact notes.wires ▸ List.mem_append_left _ noted
  | pip _ _ _ _ _ _ _ _ _ notes => exact notes.wires ▸ List.mem_append_left _ noted

/-- **One taking keeps wires, pips and nets in agreement.** -/
theorem Takes.agree {before after : Plan} (takes : before.Takes after)
    (agree : before.layout.WiresAgree) : after.layout.WiresAgree := by
  cases takes with
  | keep name wire clock drives owned layout notes => exact layout ▸ agree
  | source name wire net clock drives found free layout notes =>
      rw [layout]
      obtain ⟨driver, _, drives⟩ := Option.bind_eq_some_iff.1 drives
      obtain ⟨bel, _, touches⟩ := Option.bind_eq_some_iff.1 drives
      exact agree.take found free (Device.canonical_pinWire? touches) fun own impossible => by
        cases impossible
  | pip name arc net there fed found unused free layout notes =>
      rw [layout]
      refine agree.take found free (Device.canonical_target there) fun own same => ?_
      cases same
      exact ⟨unused, arc, there, rfl⟩

/-- What a net has, it keeps. -/
theorem Takes.hold? {before after : Plan} (takes : before.Takes after)
    (agree : before.layout.WiresAgree) {name : Name} {wire : WireId} {pip : Option PipId}
    (held : before.layout.hold? name wire = some pip) :
    after.layout.hold? name wire = some pip := by
  have elsewhere : ∀ {place : WireId}, before.layout.netOnWire[place]? = none → place ≠ wire := by
    rintro place free rfl
    rw [agree.hold?_of_free free] at held
    cases held
  cases takes with
  | keep own place clock drives owned layout notes => rw [layout, held]
  | source own place net clock drives found free layout notes =>
      rw [layout, Layout.hold?_take found, if_neg fun here => elsewhere free here.2, held]
  | pip own arc net there fed found unused free layout notes =>
      rw [layout, Layout.hold?_take found, if_neg fun here => elsewhere free here.2, held]

theorem Reserves.sameButRouting {before after : Plan} (reserves : before.Reserves after) :
    before.SameButRouting after := by
  induction reserves with
  | refl => exact SameButRouting.refl before
  | tail _ takes ih => exact ih.trans takes.sameButRouting

theorem Reserves.agree {before after : Plan} (reserves : before.Reserves after)
    (agree : before.layout.WiresAgree) : after.layout.WiresAgree := by
  induction reserves with
  | refl => exact agree
  | tail _ takes ih => exact takes.agree ih

theorem Reserves.noted {before after : Plan} (reserves : before.Reserves after) {wire : WireId}
    (noted : wire ∈ before.fabric.reserved.wires) : wire ∈ after.fabric.reserved.wires := by
  induction reserves with
  | refl => exact noted
  | tail _ takes ih => exact takes.noted ih

/-! ### The two functions that take -/

theorem notes_nameCrossed {before after : Plan} {wire : WireId} (notes : before.Notes wire after)
    (net : Name) (arc : Arc) :
    before.Notes wire (after.nameCrossed net arc) ∧
      (after.nameCrossed net arc).layout = after.layout := by
  obtain ⟨fabric, wires⟩ := notes
  have named : ∀ (lexicon : Lexicon) (reserved : Reservations),
      reserved.wires = after.fabric.reserved.wires →
      before.Notes wire ⟨lexicon, { after.fabric with reserved }, after.layout⟩ := by
    intro lexicon reserved same
    refine ⟨?_, same.trans wires⟩
    rw [fabric]
  unfold nameCrossed
  split
  · exact ⟨⟨fabric, wires⟩, rfl⟩
  · simp only
    split
    · split
      · exact ⟨⟨fabric, wires⟩, rfl⟩
      · exact ⟨named _ { after.fabric.reserved with generators := _ } rfl, rfl⟩
    · split
      · exact ⟨⟨fabric, wires⟩, rfl⟩
      · exact ⟨named _ { after.fabric.reserved with loops := _ } rfl, rfl⟩
    · exact ⟨⟨fabric, wires⟩, rfl⟩

theorem notes_reserveArc? {before after : Plan} {name : Name} {arc : Arc}
    (reserved : before.reserveArc? name arc = some after) :
    before.layout.bindArc? arc name = some after.layout ∧ before.Notes arc.target after := by
  obtain ⟨layout, bound, rfl⟩ := Option.map_eq_some_iff.1 reserved
  have taken : before.Notes arc.target ({ before with layout }.withReserved
      { before.fabric.reserved with
        wires := before.fabric.reserved.wires ++ [arc.target]
        blocked := (before.fabric.reserved.blocked.insert arc.pip).insertMany
          ((before.device.entering arc.target).map Arc.pip) }) :=
    ⟨rfl, rfl⟩
  obtain ⟨notes, same⟩ := notes_nameCrossed taken name arc
  exact ⟨bound.trans (congrArg some same.symm), notes⟩

theorem takes_reserveArc? {before after : Plan} {name : Name} {arc : Arc}
    (there : arc ∈ before.device.arcs) (fed : ∃ pip, before.layout.hold? name arc.source = some pip)
    (reserved : before.reserveArc? name arc = some after) : before.Takes after := by
  obtain ⟨bound, notes⟩ := notes_reserveArc? reserved
  obtain ⟨unused, free, net, found, layout⟩ := Layout.bindArc?_eq_some_iff.1 bound
  exact .pip name arc net (Device.mem_arcs_iff.1 there) fed found unused free layout notes

theorem driver_of_targets {plan : Plan} {name : Name} {driver : Option PortRef}
    {sinks : List PortRef} (targets : plan.lowSkewTargets? name = some (driver, sinks)) :
    (plan.net? name).bind Net.driver = driver := by
  unfold lowSkewTargets? at targets
  cases found : plan.net? name with
  | none =>
      rw [found] at targets
      cases targets
  | some net =>
      simp only [found] at targets
      rw [Option.bind_some]
      generalize net.users.filter _ = users at targets
      cases empty : users.isEmpty with
      | false =>
          simp only [empty, Bool.false_eq_true, if_false, Option.some.injEq, Prod.mk.injEq] at targets
          exact targets.1
      | true =>
          simp only [empty, if_true] at targets
          cases targets

theorem takes_reserveSource? {before after : Plan} {name : Name} {wire : WireId}
    (clock : before.IsClockNet name) (drives : before.sourceWire? name = some wire)
    (reserved : before.reserveSource? name wire = some after) : before.Takes after := by
  obtain ⟨layout, bound, rfl⟩ := Option.map_eq_some_iff.1 reserved
  rcases Layout.bindWire?_cases bound with ⟨owned, rfl⟩ | ⟨free, net, found, rfl⟩
  · exact .keep name wire clock drives owned rfl ⟨rfl, rfl⟩
  · exact .source name wire net clock drives found free rfl ⟨rfl, rfl⟩

/-! ### What the search finds -/

/-- Pips that lead on from a wire of the tree to another wire, the last one first. -/
inductive Trail (device : Device) (tree : List WireId) : WireId → List Arc → Prop where
  | start {wire : WireId} (member : wire ∈ tree) : Trail device tree wire []
  | step {arc : Arc} {path : List Arc} (there : arc ∈ device.arcs)
      (before : Trail device tree arc.source path) : Trail device tree arc.target (arc :: path)

section Search

variable {plan : Plan} {net : Name} {target : WireId} {tree : List WireId}

/-- Everything that has been reached is reached along a trail. -/
def Trailed (plan : Plan) (tree : List WireId) (reached : List Reached) : Prop :=
  ∀ one ∈ reached, Trail plan.device tree one.wire one.path

theorem trailed_explore {wire : WireId} {path : List Arc}
    (leads : Trail plan.device tree wire path) (arcs : List Arc) :
    ∀ round : Round, (∀ arc ∈ arcs, arc ∈ plan.device.leaving wire) →
      plan.Trailed tree round.found →
      plan.Trailed tree (plan.explore net target path arcs round).found := by
  induction arcs with
  | nil =>
      intro round _ found
      exact found
  | cons arc rest ih =>
      intro round leaving found
      rw [explore_cons]
      refine ih _ (fun other member => leaving other (List.mem_cons_of_mem _ member)) ?_
      split
      · intro one member
        rcases List.mem_append.1 member with old | new
        · exact found one old
        · cases List.mem_singleton.1 new
          obtain ⟨there, from_⟩ := Device.mem_leaving_iff.1 (leaving arc List.mem_cons_self)
          exact .step there (from_ ▸ leads)
      · exact found

theorem trailed_exploreAll (reached : List Reached) :
    ∀ round : Round, plan.Trailed tree reached → plan.Trailed tree round.found →
      plan.Trailed tree (plan.exploreAll net target reached round).found := by
  induction reached with
  | nil =>
      intro round _ found
      exact found
  | cons first rest ih =>
      intro round leads found
      rw [exploreAll_cons]
      refine ih _ (fun one member => leads one (List.mem_cons_of_mem _ member)) ?_
      exact trailed_explore (leads first List.mem_cons_self) _ round (fun _ member => member) found

theorem trail_searchFrom (reached : List Reached) (seen : Std.ExtTreeSet WireId)
    {path : List Arc} (leads : plan.Trailed tree reached)
    (found : plan.searchFrom net target reached seen = some path) :
    Trail plan.device tree target path.reverse := by
  induction reached, seen using searchFrom.induct plan net target with
  | case1 reached seen goal reaches =>
      rw [searchFrom, reaches] at found
      cases found
      have there := List.find?_some reaches
      simp only [decide_eq_true_eq] at there
      rw [List.reverse_reverse, ← there]
      exact leads goal (List.mem_of_find?_eq_some reaches)
  | case2 reached seen nowhere stuck =>
      rw [searchFrom, nowhere] at found
      simp only [stuck, dif_pos] at found
      cases found
  | case3 reached seen nowhere stuck ih =>
      rw [searchFrom, nowhere] at found
      simp only [stuck, dif_neg, not_false_eq_true] at found
      exact ih (trailed_exploreAll reached ⟨[], seen⟩ leads fun _ impossible => by
        cases impossible) found

/-- **A path that is found leads from a wire of the net, pip by pip, to the wire it was asked for.** -/
theorem trail_searchPath? {path : List Arc} (found : plan.searchPath? net target = some path) :
    Trail plan.device (plan.treeOf net) target path.reverse := by
  refine trail_searchFrom _ _ (fun one member => ?_) found
  obtain ⟨wire, inTree, rfl⟩ := List.mem_map.1 member
  exact .start inTree

theorem mem_treeOf {wire : WireId} (member : wire ∈ plan.treeOf net) :
    ∃ pip, plan.layout.hold? net wire = some pip := by
  unfold treeOf at member
  split at member
  · rename_i own found
    rw [Std.ExtTreeMap.mem_keys] at member
    obtain ⟨pip, held⟩ :=
      Option.isSome_iff_exists.1 (Std.ExtTreeMap.mem_iff_isSome_getElem?.1 member)
    exact ⟨pip, Layout.hold?_eq_some_iff.2 ⟨own, found, held⟩⟩
  · cases member

end Search

/-! ### The pass -/

section Pass

variable {plan : Plan} {net : Name}

theorem reservePath_append (path : List Arc) (arc : Arc) :
    ∀ plan : Plan, plan.reservePath net (path ++ [arc]) =
      match plan.reservePath net path with
      | (false, after) => (false, after)
      | (true, after) =>
        match after.reserveArc? net arc with
        | none => (false, after)
        | some next => (true, next) := by
  induction path with
  | nil =>
      intro plan
      cases reserved : plan.reserveArc? net arc with
      | none => simp [reservePath_cons, reservePath_nil, reserved]
      | some next => simp [reservePath_cons, reservePath_nil, reserved]
  | cons first rest ih =>
      intro plan
      simp only [List.cons_append, reservePath_cons]
      cases plan.reserveArc? net first with
      | none => rfl
      | some next => exact ih next

theorem hold?_reserveArc? {after : Plan} {arc : Arc}
    (reserved : plan.reserveArc? net arc = some after) :
    after.layout.hold? net arc.target = some (some arc.pip) := by
  obtain ⟨bound, _⟩ := notes_reserveArc? reserved
  obtain ⟨_, _, own, found, layout⟩ := Layout.bindArc?_eq_some_iff.1 bound
  rw [layout, Layout.hold?_take found, if_pos ⟨rfl, rfl⟩]

/-- A trail is taken from its beginning, so each pip leaves a wire that the net has by then. -/
theorem reserves_reservePath {tree : List WireId} {wire : WireId} {path : List Arc}
    (rooted : ∀ wire ∈ tree, ∃ pip, plan.layout.hold? net wire = some pip)
    (leads : Trail plan.device tree wire path) :
    plan.Reserves (plan.reservePath net path.reverse).2 ∧
      ((plan.reservePath net path.reverse).1 = true →
        ∃ pip, (plan.reservePath net path.reverse).2.layout.hold? net wire = some pip) := by
  induction leads with
  | start member => exact ⟨.refl, fun _ => rooted _ member⟩
  | @step arc path there before ih =>
      obtain ⟨reserves, arrives⟩ := ih
      rw [List.reverse_cons, reservePath_append]
      generalize plan.reservePath net path.reverse = answer at reserves arrives ⊢
      obtain ⟨done, between⟩ := answer
      cases done with
      | false => exact ⟨reserves, fun impossible => by cases impossible⟩
      | true =>
          cases reserved : between.reserveArc? net arc with
          | none =>
              simp only [reserved]
              exact ⟨reserves, fun impossible => by cases impossible⟩
          | some after =>
              rw [← reserves.sameButRouting.device] at there
              have takes := takes_reserveArc? there (arrives rfl) reserved
              simp only [reserved]
              exact ⟨reserves.tail takes, fun _ => ⟨_, hold?_reserveArc? reserved⟩⟩

end Pass

end Plan

namespace LowSkewPass

open Plan

theorem reserves_serveSinks (net : Name) (sinks : List PortRef) :
    ∀ (routed : Bool) (pass : LowSkewPass),
      pass.plan.Reserves (serveSinks net sinks routed pass).1.plan := by
  induction sinks with
  | nil =>
      intro routed pass
      exact .refl
  | cons sink rest ih =>
      intro routed pass
      simp only [serveSinks_cons]
      split
      · exact ih routed ((pass.note _).skip 1)
      · split
        · exact ih routed pass
        · split
          · exact .refl
          · rename_i path found
            have taken := (reserves_reservePath (fun _ => mem_treeOf)
              (trail_searchPath? found)).1
            rw [List.reverse_reverse] at taken
            split
            · rename_i plan answer
              rw [answer] at taken
              exact taken
            · rename_i plan answer
              rw [answer] at taken
              exact taken.trans (ih true { pass with plan, report := _ })

theorem reserves_serveNet (pass : LowSkewPass) (net : Name) :
    pass.plan.Reserves (pass.serveNet net).1.plan := by
  rw [serveNet_eq]
  split
  · exact .refl
  · exact .refl
  · rename_i driver sinks targets
    split
    · exact .refl
    · rename_i source drives
      split
      · exact .refl
      · rename_i plan reserved
        have clock : pass.plan.IsClockNet net := by
          rw [IsClockNet, targets]
          simp
        have own : pass.plan.sourceWire? net = some source := by
          rw [sourceWire?, driver_of_targets targets]
          exact drives
        have taken : pass.plan.Reserves plan := .single (takes_reserveSource? clock own reserved)
        have rest := reserves_serveSinks net sinks false { pass with plan }
        split
        all_goals
          rename_i answer
          rw [answer] at rest
          exact taken.trans rest

theorem reserves_serveNets (names : List Name) :
    ∀ pass : LowSkewPass, pass.plan.Reserves (serveNets names pass).1.plan := by
  induction names with
  | nil =>
      intro pass
      exact .refl
  | cons net rest ih =>
      intro pass
      have first := reserves_serveNet pass net
      simp only [serveNets_cons]
      split
      · rename_i served answer
        rw [answer] at first
        exact first
      · rename_i served answer
        rw [answer] at first
        exact first.trans (ih served)

end LowSkewPass

namespace Plan

/-- **The pass is a series of takings**, whether it ends well or not. -/
theorem reserves_reserveLowSkew (plan : Plan) : plan.Reserves plan.reserveLowSkew.1.plan := by
  have served := LowSkewPass.reserves_serveNets (plan.layout.netlist.netList.map Net.name)
    ⟨plan, ⟨[], 0, 0⟩, []⟩
  rw [reserveLowSkew_eq]
  split
  · rename_i pass answer
    rw [answer] at served
    exact served
  · rename_i pass answer
    rw [answer] at served
    exact served

end Plan

end UltraFabric
