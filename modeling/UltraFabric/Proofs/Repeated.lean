/-
# UltraFabric.Proofs.Repeated — a second pass over clock nets finds everything done

A pass that has ended well leaves nothing to be reserved: each net whose driver has a wire has that wire
and the wires of its targets, as far as these have one (`Plan.Satisfied`).  What a net has it keeps for
the rest of the pass, so all nets are satisfied in the end (`NetsServed.satisfied`).

A net that is satisfied is served by asking for what it has.  Every early exit is taken: the wire of the
driver is granted to its own net and noted once more, and a target is joined already or left out again
(`serveNet_of_satisfied`).  The second pass is therefore known as a whole (`reserveLowSkew_again`); only
the list of wires to be released has become longer.
-/
import UltraFabric.Proofs.Report

namespace UltraFabric

set_option autoImplicit false

/-- A wire that is granted belongs to the net. -/
theorem Layout.wireNet?_of_bindWire? {before after : Layout} {wire : WireId} {name : Name}
    (bound : before.bindWire? wire name = some after) : after.wireNet? wire = some name := by
  rcases bindWire?_cases bound with ⟨own, rfl⟩ | ⟨_, net, _, rfl⟩
  · exact own
  · rw [wireNet?, netOnWire_take, if_pos rfl]

/-- Nets are gone through in the same order, whatever wires they have. -/
theorem Layout.SameDesign.netNames {before after : Layout} (same : before.SameDesign after) :
    after.netlist.netList.map Net.name = before.netlist.netList.map Net.name := by
  have read : ∀ layout : Layout, layout.netlist.netList.map Net.name =
      (layout.netlist.nets.map fun _ net => net.unrouted).toList.map fun entry => entry.2.name := by
    intro layout
    rw [Netlist.netList, Entries.values_eq_map_toList, Std.ExtTreeMap.toList_map, List.map_map,
      List.map_map]
    rfl
  have nets : (after.netlist.nets.map fun _ net => net.unrouted) =
      before.netlist.nets.map fun _ net => net.unrouted := by
    apply Std.ExtTreeMap.ext_getElem?
    intro name
    rw [Std.ExtTreeMap.getElem?_map, Std.ExtTreeMap.getElem?_map]
    exact same.nets name
  rw [read, read, nets]

namespace Plan

/-- Nothing is left to be reserved for a net.  A net without targets, or whose driver has no wire, gets
nothing. -/
def Satisfied (plan : Plan) (name : Name) : Prop :=
  plan.targets name ≠ [] → ∀ source, plan.sourceWire? name = some source →
    plan.layout.wireNet? source = some name ∧
      ∀ user ∈ plan.targets name, ∀ wire, plan.portWire? user = some wire →
        plan.layout.wireNet? wire = some name

/-- What a net has it keeps, so it stays satisfied. -/
theorem Gains.satisfied {before after : Plan} {takings : List Taking}
    (gains : before.Gains takings after) (owned : before.layout.WiresOwned) {name : Name}
    (satisfied : before.Satisfied name) : after.Satisfied name := by
  intro targeted source drives
  rw [gains.same.targets] at targeted ⊢
  rw [gains.same.sourceWire?] at drives
  obtain ⟨own, joined⟩ := satisfied targeted source drives
  refine ⟨gains.wireNet? owned own, fun user member wire place => ?_⟩
  rw [gains.same.portWire?] at place
  exact gains.wireNet? owned (joined user member wire place)

end Plan

namespace LowSkewPass

open Plan

/-! ### What a pass leaves -/

theorem NetServed.satisfied {net : Name} {pass : LowSkewPass} {takings : List Taking}
    {answer : LowSkewPass × Except NoPath Unit} (served : NetServed net pass takings answer)
    (owned : pass.plan.layout.WiresOwned) (well : answer.2 = .ok ()) :
    answer.1.plan.Satisfied net := by
  have gains := served.gains owned
  intro _ source drives
  rw [gains.same.sourceWire?] at drives
  have joined : ∀ user ∈ pass.plan.targets net, ∀ wire, pass.plan.portWire? user = some wire →
      answer.1.plan.layout.wireNet? wire = some net :=
    fun user member wire place => served.joins well (by simp [drives]) member place
  refine ⟨?_, fun user member wire place => ?_⟩
  · cases served with
    | idle untargeted => contradiction
    | sourceless notice targeted undriven => cases drives.symm.trans undriven
    | held targeted drives' place bound foreign => cases well
    | @sourced wire plan start takings answer targeted drives' reserved first only sinks =>
        cases drives.symm.trans drives'
        rw [plan_closeNet]
        obtain ⟨layout, bound, rfl⟩ := Option.map_eq_some_iff.1 reserved
        exact (sinks.gains first.owned).wireNet? first.owned (Layout.wireNet?_of_bindWire? bound)
  · rw [gains.same.targets] at member
    rw [gains.same.portWire?] at place
    exact joined user member wire place

/-- **All nets are satisfied when a pass has ended well.** -/
theorem NetsServed.satisfied {nets : List Name} {pass : LowSkewPass} {takings : List Taking}
    {answer : LowSkewPass × Except NoPath Unit} (served : NetsServed nets pass takings answer)
    (owned : pass.plan.layout.WiresOwned) (well : answer.2 = .ok ()) :
    ∀ net ∈ nets, answer.1.plan.Satisfied net := by
  induction served with
  | done => simp
  | stopped served => cases well
  | next served rest ih =>
      have between := (served.gains owned).owned
      rw [List.forall_mem_cons]
      exact ⟨(rest.gains between).satisfied between (served.satisfied owned rfl), ih between well⟩

end LowSkewPass

/-! ### Asking for what is there -/

namespace Plan

/-- Wires are noted once more, and nothing else is done. -/
def noteAgain (plan : Plan) (wires : List WireId) : Plan :=
  plan.withReserved { plan.fabric.reserved with wires := plan.fabric.reserved.wires ++ wires }

/-- The wire that is asked for on behalf of the driver of a net, if the net has targets. -/
def askedFor (plan : Plan) (name : Name) : List WireId :=
  if plan.targets name = [] then [] else (plan.sourceWire? name).toList

theorem noteAgain_nil (plan : Plan) : plan.noteAgain [] = plan := by
  rw [noteAgain, List.append_nil]
  rfl

theorem noteAgain_noteAgain (plan : Plan) (wires more : List WireId) :
    (plan.noteAgain wires).noteAgain more = plan.noteAgain (wires ++ more) := by
  simp only [noteAgain, withReserved, List.append_assoc]

theorem sameButRouting_noteAgain (plan : Plan) (wires : List WireId) :
    plan.SameButRouting (plan.noteAgain wires) :=
  ⟨.refl plan.layout, rfl⟩

theorem SameButRouting.askedFor {before after : Plan} (same : before.SameButRouting after) :
    after.askedFor = before.askedFor := by
  funext name
  rw [Plan.askedFor, Plan.askedFor, same.targets, same.sourceWire?]

theorem Satisfied.noteAgain {plan : Plan} {name : Name} (satisfied : plan.Satisfied name)
    (wires : List WireId) : (plan.noteAgain wires).Satisfied name := by
  have same := plan.sameButRouting_noteAgain wires
  rw [Satisfied, same.targets, same.sourceWire?]
  simp only [same.portWire?]
  exact satisfied

theorem reserveSource?_of_own {plan : Plan} {name : Name} {wire : WireId}
    (own : plan.layout.wireNet? wire = some name) :
    plan.reserveSource? name wire = some (plan.noteAgain [wire]) := by
  simp only [reserveSource?, Layout.bindWire?, own, if_true, Option.map_some, noteAgain]

end Plan

namespace LowSkewPass

open Plan

/-- A pass has noted some wires once more and left out some targets, and has done nothing else. -/
structure Idles (before : LowSkewPass) (wires : List WireId) (leftOut : Nat) (after : LowSkewPass) :
    Prop where
  plan : after.plan = before.plan.noteAgain wires
  report : after.report = { before.report with skipped := before.report.skipped + leftOut }

theorem Idles.refl (pass : LowSkewPass) : pass.Idles [] 0 pass :=
  ⟨pass.plan.noteAgain_nil.symm, rfl⟩

theorem Idles.trans {before between after : LowSkewPass} {wires more : List WireId}
    {leftOut others : Nat} (first : before.Idles wires leftOut between)
    (second : between.Idles more others after) :
    before.Idles (wires ++ more) (leftOut + others) after where
  plan := by rw [second.plan, first.plan, noteAgain_noteAgain]
  report := by rw [second.report, first.report, Nat.add_assoc]

/-- A target without a wire is left out. -/
theorem idles_skip (pass : LowSkewPass) (notice : Notice) (sinks : Nat) :
    pass.Idles [] sinks ((pass.note notice).skip sinks) :=
  ⟨pass.plan.noteAgain_nil.symm, rfl⟩

/-- Sinks that are joined or have no wire are passed by. -/
theorem serveSinks_of_joined {net : Name} (sinks : List PortRef) :
    ∀ {routed : Bool} {pass : LowSkewPass},
      (∀ sink ∈ sinks, ∀ wire, pass.plan.portWire? sink = some wire →
        pass.plan.layout.wireNet? wire = some net) →
      ∃ after, serveSinks net sinks routed pass = (after, .ok routed) ∧
        pass.Idles [] (sinks.filter fun sink => (pass.plan.portWire? sink).isNone).length after := by
  induction sinks with
  | nil => exact fun _ => ⟨_, rfl, .refl _⟩
  | cons sink rest ih =>
      intro routed pass joined
      obtain ⟨first, later⟩ := List.forall_mem_cons.1 joined
      cases place : pass.plan.portWire? sink with
      | none =>
          obtain ⟨after, served, idles⟩ :=
            @ih routed ((pass.note (.sinkNotPlaced sink net)).skip 1) later
          refine ⟨after, by simp only [serveSinks_cons, place, served], ?_⟩
          rw [List.filter_cons_of_pos (by simp [place]), List.length_cons, Nat.add_comm]
          exact (pass.idles_skip _ 1).trans idles
      | some wire =>
          obtain ⟨after, served, idles⟩ := @ih routed pass later
          refine ⟨after, by simp only [serveSinks_cons, place, first wire place, if_true, served], ?_⟩
          rw [List.filter_cons_of_neg (by simp [place])]
          exact idles

/-- **A net that is satisfied is served by doing nothing.** -/
theorem serveNet_of_satisfied {pass : LowSkewPass} {net : Name}
    (satisfied : pass.plan.Satisfied net) :
    ∃ after, pass.serveNet net = (after, .ok ()) ∧
      pass.Idles (pass.plan.askedFor net) (pass.plan.leftOut net).length after := by
  rw [serveNet_eq]
  rw [lowSkewTargets?_eq]
  rcases eq_or_ne (pass.plan.targets net) [] with untargeted | targeted
  · have nothing : pass.plan.leftOut net = [] := by
      unfold leftOut
      split <;> simp [untargeted]
    simp only [untargeted, if_true, askedFor, nothing]
    exact ⟨pass, rfl, .refl pass⟩
  · cases drives : pass.plan.sourceWire? net with
    | none =>
        have left : pass.plan.leftOut net = pass.plan.targets net := by simp only [leftOut, drives]
        simp only [targeted, if_false, askedFor, drives, left]
        cases driver : (pass.plan.net? net).bind Net.driver with
        | none => exact ⟨_, rfl, pass.idles_skip _ _⟩
        | some driver' =>
            have place : pass.plan.portWire? driver' = none := by
              rw [sourceWire?, driver] at drives
              exact drives
            simp only [place]
            exact ⟨_, rfl, pass.idles_skip _ _⟩
    | some source =>
        obtain ⟨own, joined⟩ := satisfied targeted source drives
        obtain ⟨driver, found, place⟩ := Option.bind_eq_some_iff.1 drives
        have left : pass.plan.leftOut net = (pass.plan.targets net).filter fun user =>
            (pass.plan.portWire? user).isNone := by simp only [leftOut, drives]
        obtain ⟨after, served, idles⟩ := @serveSinks_of_joined net (pass.plan.targets net) false
          { pass with plan := pass.plan.noteAgain [source] } joined
        have asked : pass.Idles [source] 0 { pass with plan := pass.plan.noteAgain [source] } :=
          ⟨rfl, rfl⟩
        simp only [targeted, if_false, found, place, reserveSource?_of_own own, served, askedFor,
          drives, left]
        refine ⟨after, rfl, ?_⟩
        have both := asked.trans idles
        rw [Nat.zero_add] at both
        exact both

/-- **And so are satisfied nets, one after the other.** -/
theorem serveNets_of_satisfied (nets : List Name) :
    ∀ {pass : LowSkewPass}, (∀ net ∈ nets, pass.plan.Satisfied net) →
      ∃ after, serveNets nets pass = (after, .ok ()) ∧
        pass.Idles (nets.flatMap pass.plan.askedFor) (nets.flatMap pass.plan.leftOut).length
          after := by
  induction nets with
  | nil => exact fun _ => ⟨_, rfl, .refl _⟩
  | cons net rest ih =>
      intro pass satisfied
      obtain ⟨first, later⟩ := List.forall_mem_cons.1 satisfied
      obtain ⟨between, served, idles⟩ := serveNet_of_satisfied first
      have same := pass.plan.sameButRouting_noteAgain (pass.plan.askedFor net)
      obtain ⟨after, served', idles'⟩ := @ih between fun other member => by
        rw [idles.plan]
        exact (later other member).noteAgain _
      refine ⟨after, by simp only [serveNets_cons, served, served'], ?_⟩
      rw [idles.plan, same.askedFor, funext same.leftOut] at idles'
      rw [List.flatMap_cons, List.flatMap_cons, List.length_append]
      exact idles.trans idles'

end LowSkewPass

namespace Plan

/-- The wires that a pass asks for on behalf of drivers. -/
def allAskedFor (plan : Plan) : List WireId :=
  (plan.layout.netlist.netList.map Net.name).flatMap plan.askedFor

/-- A pass over nets that are all satisfied. -/
theorem reserveLowSkew_of_satisfied {plan : Plan}
    (satisfied : ∀ net ∈ plan.layout.netlist.netList.map Net.name, plan.Satisfied net) :
    plan.reserveLowSkew.2 = .ok () ∧ plan.reserveLowSkew.1.plan = plan.noteAgain plan.allAskedFor ∧
      plan.reserveLowSkew.1.report =
        ⟨[], 0, ((plan.layout.netlist.netList.map Net.name).flatMap plan.leftOut).length⟩ := by
  have start : ∀ net ∈ plan.layout.netlist.netList.map Net.name,
      (⟨plan, ⟨[], 0, 0⟩, []⟩ : LowSkewPass).plan.Satisfied net := satisfied
  obtain ⟨after, served, idles⟩ := LowSkewPass.serveNets_of_satisfied _ start
  have report := idles.report
  simp only [Nat.zero_add] at report
  simp only [reserveLowSkew_eq, served]
  exact ⟨trivial, idles.plan, report⟩

/-- **A second pass does nothing.**  If a pass over clock nets ends well, another one right after it ends
well too.  It reports no net and no pip, and it leaves out as many targets as the first one.  All cells,
wires and pips keep what they have, the same pips are blocked, and the same generators and loops are
reserved.  The one thing that is different is the list of wires to be released, on which those of the
drivers are noted once more. -/
theorem reserveLowSkew_again {plan : Plan} (consistent : plan.layout.Consistent)
    (well : plan.reserveLowSkew.2 = .ok ()) :
    plan.reserveLowSkew.1.plan.reserveLowSkew.2 = .ok () ∧
    plan.reserveLowSkew.1.plan.reserveLowSkew.1.report =
      ⟨[], 0, plan.reserveLowSkew.1.report.skipped⟩ ∧
    plan.reserveLowSkew.1.plan.reserveLowSkew.1.plan.layout = plan.reserveLowSkew.1.plan.layout ∧
    plan.reserveLowSkew.1.plan.reserveLowSkew.1.plan.fabric.reserved =
      { plan.reserveLowSkew.1.plan.fabric.reserved with
        wires := plan.reserveLowSkew.1.plan.fabric.reserved.wires ++ plan.allAskedFor } ∧
    plan.reserveLowSkew.1.plan.reserveLowSkew.1.plan =
      plan.reserveLowSkew.1.plan.noteAgain plan.allAskedFor := by
  have owned := consistent.wiresOwned
  obtain ⟨takings, last, served, same, report⟩ := passServed owned
  have skipped := served.skipped owned well
  have satisfied := served.satisfied owned well
  have design := (served.gains owned).same
  rw [← report] at skipped
  simp only [← same] at satisfied design
  have names := design.design.netNames
  have asked : plan.reserveLowSkew.1.plan.allAskedFor = plan.allAskedFor := by
    rw [allAskedFor, allAskedFor, names, design.askedFor]
  rw [← names] at satisfied
  obtain ⟨well', done, report'⟩ := reserveLowSkew_of_satisfied satisfied
  rw [names, funext design.leftOut] at report'
  rw [asked] at done
  refine ⟨well', ?_, ?_, ?_, done⟩
  · rw [report', skipped]
    simp
  · rw [done]
    rfl
  · rw [done]
    rfl

end Plan

namespace ForkSample

/-- The second generator has no bel. -/
def partlyPlaced : Plan :=
  ⟨.fresh, fabric, layout.changeAll [.unbindBel ⟨0, 2⟩]⟩

theorem partlyPlaced_consistent : partlyPlaced.layout.Consistent := by
  obtain ⟨bels, -, -⟩ := Layout.BelsAgree.ofNetlist (Netlist.named_ofCells made) placed
  obtain ⟨bels, wires, -⟩ := Layout.keeps_of_changes [.unbindBel ⟨0, 2⟩] bels
    (.ofNetlist (Netlist.unrouted_ofCells made) placed)
    (List.forall_mem_singleton.2 trivial)
  exact Layout.consistent_of_agree bels wires

theorem partlyPlaced_well : partlyPlaced.reserveLowSkew.2 = .ok () := by decide +kernel

/-- The generator without a bel is left out twice. -/
theorem again_partlyPlaced :
    (partlyPlaced.layout.Consistent ∧ partlyPlaced.reserveLowSkew.2 = .ok ()) ∧
      partlyPlaced.reserveLowSkew.1.plan.reserveLowSkew.2 = .ok () ∧
      partlyPlaced.reserveLowSkew.1.plan.reserveLowSkew.1.report =
        ⟨[], 0, partlyPlaced.reserveLowSkew.1.report.skipped⟩ :=
  have again := Plan.reserveLowSkew_again partlyPlaced_consistent partlyPlaced_well
  ⟨⟨partlyPlaced_consistent, partlyPlaced_well⟩, again.1, again.2.1⟩

example : partlyPlaced.reserveLowSkew.1.report = ⟨["clk"], 2, 1⟩ := by decide +kernel

end ForkSample

end UltraFabric
