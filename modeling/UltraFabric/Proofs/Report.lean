/-
# UltraFabric.Proofs.Report — what a pass over clock nets guarantees, and what it reports

The report of a pass has three entries, and each says what has become of the plan:

* pips that are counted are those that nets have gained, whatever becomes of the pass (`ncard_gained`);
* the nets are those that have gained a pip, by name (`NetsServed.reports`);
* targets that are skipped are those that have no wire, and those of a driver without one
  (`Plan.leftOut`).

If the pass ends well, every other target is joined to its net.  If not, either another net has the
wire of a driver, or no route leads to a target; this is still so where the pass ends (`Plan.Stops`).
-/
import Mathlib.Data.String.Basic
import UltraFabric.Proofs.Census
import UltraFabric.Proofs.Release
import UltraFabric.Proofs.Sinks

namespace UltraFabric

set_option autoImplicit false

/-- Nets are served by name. -/
theorem Layout.NetsNamed.pairwise_names {layout : Layout} (named : layout.NetsNamed) :
    (layout.netlist.netList.map Net.name).Pairwise (· < ·) := by
  rw [Netlist.netList, Entries.values_eq_map_toList, List.map_map, List.pairwise_map]
  refine layout.netlist.nets.ordered_keys_toList.imp_of_mem ?_
  rintro ⟨key, net⟩ ⟨key', net'⟩ member member' less
  have own := named key net (Std.ExtTreeMap.mem_toList_iff_getElem?_eq_some.1 member)
  have own' := named key' net' (Std.ExtTreeMap.mem_toList_iff_getElem?_eq_some.1 member')
  simp only [Function.comp_apply]
  rw [own, own']
  exact compare_lt_iff_lt.1 less

namespace Plan

/-- Targets of a net that the pass leaves out: all of them where its driver has no wire, and otherwise
those that have none. -/
def leftOut (plan : Plan) (name : Name) : List PortRef :=
  match plan.sourceWire? name with
  | none => plan.targets name
  | some _ => (plan.targets name).filter fun user => (plan.portWire? user).isNone

theorem SameButRouting.leftOut {before after : Plan} (same : before.SameButRouting after)
    (name : Name) : after.leftOut name = before.leftOut name := by
  simp only [Plan.leftOut, same.sourceWire?, same.targets, same.portWire?]

/-- Why a pass ends before all nets are served. -/
inductive Stops (plan : Plan) (noPath : NoPath) : Prop where
  /-- Another net has the wire of the driver. -/
  | held {wire : WireId} {other : Name}
      (drives : (plan.net? noPath.net).bind Net.driver = some noPath.sink)
      (place : plan.portWire? noPath.sink = some wire)
      (bound : plan.layout.wireNet? wire = some other) (foreign : other ≠ noPath.net)
  /-- No route of the net leads to the wire of a target. -/
  | unreached {wire : WireId} (target : noPath.sink ∈ plan.targets noPath.net)
      (place : plan.portWire? noPath.sink = some wire)
      (foreign : plan.layout.wireNet? wire ≠ some noPath.net)
      (nowhere : ¬ ∃ route, plan.Route noPath.net wire route)

/-- A net has got a pip that nobody had. -/
def Gained (before after : Plan) (name : Name) (pip : PipId) : Prop :=
  before.layout.pipNet? pip = none ∧ after.layout.pipNet? pip = some name

theorem Gains.gained_iff {before after : Plan} {takings : List Taking}
    (gains : before.Gains takings after) {name : Name} {pip : PipId} :
    before.Gained after name pip ↔ ∃ wire, ⟨name, wire, some pip⟩ ∈ takings := by
  rw [Gained, gains.pips]
  constructor
  · rintro ⟨unused, used | taken⟩
    · rw [unused] at used
      cases used
    · exact taken
  · rintro ⟨wire, member⟩
    exact ⟨gains.unused _ member pip rfl, Or.inr ⟨wire, member⟩⟩

theorem Gains.exists_gained_iff {before after : Plan} {takings : List Taking}
    (gains : before.Gains takings after) {name : Name} :
    (∃ pip, before.Gained after name pip) ↔
      ∃ taking ∈ takings, taking.net = name ∧ taking.pip ≠ none := by
  simp only [gains.gained_iff]
  constructor
  · rintro ⟨pip, wire, member⟩
    exact ⟨_, member, rfl, by simp⟩
  · rintro ⟨⟨_, wire, own⟩, member, rfl, driven⟩
    obtain ⟨pip, rfl⟩ := Option.ne_none_iff_exists'.1 driven
    exact ⟨pip, wire, member⟩

/-- **Pips that are taken are gained, once each.** -/
theorem Gains.ncard_gained {before after : Plan} {takings : List Taking}
    (gains : before.Gains takings after) :
    {pip | ∃ name, before.Gained after name pip}.ncard = (takings.filterMap Taking.pip).length := by
  refine ncard_eq_length _ gains.once fun pip => ?_
  simp only [List.mem_filterMap, Set.mem_ofPred_eq, gains.gained_iff]
  constructor
  · rintro ⟨⟨name, wire, _⟩, member, rfl⟩
    exact ⟨name, wire, member⟩
  · rintro ⟨name, wire, member⟩
    exact ⟨_, member, rfl⟩

end Plan

namespace LowSkewPass

open Plan

/-- Those of some nets that have gained a pip are added to the report, in their order. -/
def Reports (before : LowSkewPass) (nets : List Name) (takings : List Taking)
    (after : LowSkewPass) : Prop :=
  ∃ gained, after.report.nets = before.report.nets ++ gained ∧ gained.Sublist nets ∧
    ∀ name, name ∈ gained ↔ ∃ taking ∈ takings, taking.net = name ∧ taking.pip ≠ none

theorem Reports.append {before between after : LowSkewPass} {nets others : List Name}
    {takings more : List Taking} (first : before.Reports nets takings between)
    (second : between.Reports others more after) :
    before.Reports (nets ++ others) (takings ++ more) after := by
  obtain ⟨gained, named, sublist, member_iff⟩ := first
  obtain ⟨later, named', sublist', member_iff'⟩ := second
  refine ⟨gained ++ later, ?_, sublist.append sublist', fun name => ?_⟩
  · rw [named', named, List.append_assoc]
  · simp only [List.mem_append, member_iff, member_iff', or_and_right, exists_or]

/-! ### The sinks of a net -/

namespace SinksServed

variable {net : Name} {sinks : List PortRef} {routed : Bool} {pass : LowSkewPass}
  {takings : List Taking} {answer : LowSkewPass × Except NoPath Bool}

theorem nets (served : SinksServed net sinks routed pass takings answer) :
    answer.1.report.nets = pass.report.nets := by
  induction served with
  | done => rfl
  | unplaced place rest ih => exact ih
  | joined place own rest ih => exact ih
  | reached place foreign found all gains rest ih => exact ih
  | unreached place foreign nowhere => rfl

/-- A net counts as routed when it takes a wire for a sink. -/
theorem routed_iff (served : SinksServed net sinks routed pass takings answer)
    (owned : pass.plan.layout.WiresOwned) {now : Bool} (well : answer.2 = .ok now) :
    now = true ↔ routed = true ∨ takings ≠ [] := by
  induction served with
  | done =>
      cases well
      simp
  | unplaced place rest ih => exact ih owned well
  | joined place own rest ih => exact ih owned well
  | @reached sink sinks routed pass takings answer wire path plan place foreign found all gains rest
      ih =>
      have away : path ≠ [] := fun here =>
        foreign ((wireNet?_eq_some_iff owned).2 ((found_nil_iff found).1 here))
      simp [ih gains.owned well, away]
  | unreached place foreign nowhere => cases well

/-- Behind the source of the net, a wire is taken by way of a pip, or none at all. -/
theorem exists_driven_iff (served : SinksServed net sinks routed pass takings answer)
    {start : List Taking} {wire : WireId} (only : ∀ taking ∈ start, taking = ⟨net, wire, none⟩)
    {name : Name} : (∃ taking ∈ start ++ takings, taking.net = name ∧ taking.pip ≠ none) ↔
      name = net ∧ takings ≠ [] := by
  constructor
  · rintro ⟨taking, member, rfl, driven⟩
    rcases List.mem_append.1 member with first | later
    · cases only taking first
      exact absurd rfl driven
    · exact ⟨(served.driven later).1, List.ne_nil_of_mem later⟩
  · rintro ⟨rfl, taken⟩
    obtain ⟨taking, member⟩ := List.exists_mem_of_ne_nil takings taken
    obtain ⟨own, driven, _⟩ := served.driven member
    exact ⟨taking, List.mem_append_right _ member, own, driven⟩

theorem skipped (served : SinksServed net sinks routed pass takings answer) {now : Bool}
    (well : answer.2 = .ok now) : answer.1.report.skipped = pass.report.skipped +
      (sinks.filter fun sink => (pass.plan.portWire? sink).isNone).length := by
  induction served with
  | done => rfl
  | @unplaced sink sinks routed pass takings answer place rest ih =>
      rw [ih well, List.filter_cons_of_pos (by simp [place]), List.length_cons]
      exact Nat.add_right_comm _ _ _
  | joined place own rest ih => rw [ih well, List.filter_cons_of_neg (by simp [place])]
  | reached place foreign found all gains rest ih =>
      rw [ih well, List.filter_cons_of_neg (by simp [place])]
      simp only [gains.same.portWire?]
  | unreached place foreign nowhere => cases well

/-- If all sinks are served, each of those that have a wire is joined to the net. -/
theorem joins (served : SinksServed net sinks routed pass takings answer)
    (owned : pass.plan.layout.WiresOwned) {now : Bool} (well : answer.2 = .ok now) {sink : PortRef}
    (member : sink ∈ sinks) {wire : WireId} (place : pass.plan.portWire? sink = some wire) :
    answer.1.plan.layout.wireNet? wire = some net := by
  induction served with
  | done => cases member
  | unplaced absent rest ih =>
      rcases List.mem_cons.1 member with rfl | later
      · rw [absent] at place
        cases place
      · exact ih owned well later place
  | joined place' own rest ih =>
      rcases List.mem_cons.1 member with rfl | later
      · cases place.symm.trans place'
        exact (rest.gains owned).wireNet? owned own
      · exact ih owned well later place
  | reached place' foreign found all gains rest ih =>
      rcases List.mem_cons.1 member with rfl | later
      · cases place.symm.trans place'
        have own := (wireNet?_eq_some_iff gains.owned).2 (owns_of_found found gains)
        exact (rest.gains gains.owned).wireNet? gains.owned own
      · exact ih gains.owned well later ((gains.same.portWire? sink).trans place)
  | unreached place' foreign nowhere => cases well

/-- If a sink is missed, no route leads to it from what the net has by then. -/
theorem missed (served : SinksServed net sinks routed pass takings answer) {noPath : NoPath}
    (ill : answer.2 = .error noPath) : noPath.net = net ∧ noPath.sink ∈ sinks ∧
      ∃ wire, answer.1.plan.portWire? noPath.sink = some wire ∧
        answer.1.plan.layout.wireNet? wire ≠ some net ∧
        ¬ ∃ route, answer.1.plan.Route net wire route := by
  induction served with
  | done => cases ill
  | unplaced place rest ih =>
      obtain ⟨own, member, missed⟩ := ih ill
      exact ⟨own, List.mem_cons_of_mem _ member, missed⟩
  | joined place own rest ih =>
      obtain ⟨own, member, missed⟩ := ih ill
      exact ⟨own, List.mem_cons_of_mem _ member, missed⟩
  | reached place foreign found all gains rest ih =>
      obtain ⟨own, member, missed⟩ := ih ill
      exact ⟨own, List.mem_cons_of_mem _ member, missed⟩
  | unreached place foreign nowhere =>
      cases ill
      exact ⟨rfl, List.mem_cons_self, _, place, foreign, searchPath?_eq_none_iff.1 nowhere⟩

end SinksServed

/-! ### A net -/

namespace NetServed

variable {net : Name} {pass : LowSkewPass} {takings : List Taking}
  {answer : LowSkewPass × Except NoPath Unit}

/-- A net is reported when it has gained a pip. -/
theorem reports (served : NetServed net pass takings answer) (well : answer.2 = .ok ()) :
    pass.Reports [net] takings answer.1 := by
  cases served with
  | idle untargeted => exact ⟨[], by simp⟩
  | sourceless notice targeted undriven => exact ⟨[], by simp [skip, note]⟩
  | held targeted drives place bound foreign => cases well
  | @sourced wire plan start takings answer targeted drives reserved gains only sinks =>
      obtain ⟨last, noPath | routed⟩ := answer
      · cases well
      · have needed := sinks.routed_iff gains.owned rfl
        have kept : last.report.nets = pass.report.nets := sinks.nets
        refine ⟨if routed then [net] else [], congrArg (· ++ _) kept, ?_, fun name => ?_⟩
        · cases routed <;> simp
        · rw [sinks.exists_driven_iff only]
          cases routed <;> simp_all

theorem skipped (served : NetServed net pass takings answer) (well : answer.2 = .ok ()) :
    answer.1.report.skipped = pass.report.skipped + (pass.plan.leftOut net).length := by
  cases served with
  | idle untargeted =>
      have none_left : pass.plan.leftOut net = [] := by
        unfold leftOut
        split <;> simp [untargeted]
      rw [none_left]
      rfl
  | sourceless notice targeted undriven => simp [leftOut, undriven, skip, note]
  | held targeted drives place bound foreign => cases well
  | @sourced wire plan start takings answer targeted drives reserved gains only sinks =>
      obtain ⟨last, noPath | routed⟩ := answer
      · cases well
      · have skipped := sinks.skipped rfl
        simp only [gains.same.portWire?] at skipped
        simp only [leftOut, drives]
        exact skipped

/-- **A net that is served and has a source has the wires of its targets**, of those that have one. -/
theorem joins (served : NetServed net pass takings answer) (well : answer.2 = .ok ())
    (sourced : pass.plan.sourceWire? net ≠ none) {user : PortRef}
    (member : user ∈ pass.plan.targets net) {wire : WireId}
    (place : pass.plan.portWire? user = some wire) :
    answer.1.plan.layout.wireNet? wire = some net := by
  cases served with
  | idle untargeted =>
      rw [untargeted] at member
      cases member
  | sourceless notice targeted undriven => exact absurd undriven sourced
  | held targeted drives place bound foreign => cases well
  | @sourced wire plan start takings answer targeted drives reserved gains only sinks =>
      obtain ⟨last, noPath | routed⟩ := answer
      · cases well
      · exact sinks.joins gains.owned rfl member ((gains.same.portWire? user).trans place)

theorem stops (served : NetServed net pass takings answer) {noPath : NoPath}
    (ill : answer.2 = .error noPath) : answer.1.plan.Stops noPath := by
  cases served with
  | idle untargeted => cases ill
  | sourceless notice targeted undriven => cases ill
  | held targeted drives place bound foreign =>
      cases ill
      exact .held drives place bound foreign
  | @sourced wire plan start takings answer targeted drives reserved gains only sinks =>
      obtain ⟨last, noPath | routed⟩ := answer
      · cases ill
        have same := gains.same.trans (sinks.gains gains.owned).same
        obtain ⟨own, member, wire, place, foreign, nowhere⟩ := sinks.missed rfl
        subst own
        rw [← same.targets] at member
        exact .unreached member place foreign nowhere
      · cases ill

end NetServed

/-! ### All nets -/

namespace NetsServed

variable {nets : List Name} {pass : LowSkewPass} {takings : List Taking}
  {answer : LowSkewPass × Except NoPath Unit}

/-- **The nets that are reported are those that have gained a pip**, in the order of the pass. -/
theorem reports (served : NetsServed nets pass takings answer) (well : answer.2 = .ok ()) :
    pass.Reports nets takings answer.1 := by
  induction served with
  | done => exact ⟨[], by simp⟩
  | stopped served => cases well
  | next served rest ih => exact (served.reports rfl).append (ih well)

theorem skipped (served : NetsServed nets pass takings answer)
    (owned : pass.plan.layout.WiresOwned) (well : answer.2 = .ok ()) :
    answer.1.report.skipped = pass.report.skipped + (nets.flatMap pass.plan.leftOut).length := by
  induction served with
  | done => rfl
  | stopped served => cases well
  | next served rest ih =>
      have gains := served.gains owned
      rw [ih gains.owned well, served.skipped rfl, List.flatMap_cons, List.length_append,
        Nat.add_assoc, funext gains.same.leftOut]

theorem joins (served : NetsServed nets pass takings answer)
    (owned : pass.plan.layout.WiresOwned) (well : answer.2 = .ok ()) {net : Name} (listed : net ∈ nets)
    (sourced : pass.plan.sourceWire? net ≠ none) {user : PortRef}
    (member : user ∈ pass.plan.targets net) {wire : WireId}
    (place : pass.plan.portWire? user = some wire) :
    answer.1.plan.layout.wireNet? wire = some net := by
  induction served with
  | done => cases listed
  | stopped served => cases well
  | next served rest ih =>
      have gains := served.gains owned
      rcases List.mem_cons.1 listed with rfl | later
      · have own := served.joins rfl sourced member place
        exact (rest.gains gains.owned).wireNet? gains.owned own
      · refine ih gains.owned well later ?_ ?_ ?_
        · rwa [gains.same.sourceWire?]
        · rwa [gains.same.targets]
        · rwa [gains.same.portWire?]

theorem stops (served : NetsServed nets pass takings answer) {noPath : NoPath}
    (ill : answer.2 = .error noPath) : answer.1.plan.Stops noPath := by
  induction served with
  | done => cases ill
  | stopped served => exact served.stops ill
  | next served rest ih => exact ih ill

end NetsServed

end LowSkewPass

namespace Plan

/-! ### The pass -/

/-- What is true when a pass has ended well. -/
structure Completed (before : Plan) (pass : LowSkewPass) : Prop where
  /-- Where the driver of a net has a wire, the net has the wire of each target that has one. -/
  joined : ∀ name source, before.sourceWire? name = some source →
    ∀ user ∈ before.targets name, ∀ wire, before.portWire? user = some wire →
      pass.plan.layout.wireNet? wire = some name
  skipped : pass.report.skipped =
    ((before.layout.netlist.netList.map Net.name).flatMap before.leftOut).length
  nets : ∀ name, name ∈ pass.report.nets ↔ ∃ pip, before.Gained pass.plan name pip
  ordered : pass.report.nets.Pairwise (· < ·)

/-- **What a pass over clock nets guarantees.**  In any plan whose wires, pips and nets agree with each
other:

* if the pass ends well, all targets that can be served are, and the report names the nets that have
  gained pips and counts the targets that are left out;
* however it ends, the report counts the pips that nets have gained;
* if it ends early, the wire of a driver has another net, or no route leads to a target;
* and no path that it finds is refused: it takes wires in the ways that are listed in `NetsServed`. -/
theorem reserveLowSkew_completed {plan : Plan} (consistent : plan.layout.Consistent)
    (named : plan.layout.NetsNamed) :
    (plan.reserveLowSkew.2 = .ok () → plan.Completed plan.reserveLowSkew.1) ∧
    plan.reserveLowSkew.1.report.pips =
      {pip | ∃ name, plan.Gained plan.reserveLowSkew.1.plan name pip}.ncard ∧
    (∀ noPath, plan.reserveLowSkew.2 = .error noPath →
      plan.reserveLowSkew.1.plan.Stops noPath) ∧
    ∃ takings, plan.PassServed takings plan.reserveLowSkew := by
  have owned := consistent.wiresOwned
  obtain ⟨takings, passServed⟩ := passServed owned
  obtain ⟨last, served, same, report⟩ := passServed
  have gains : plan.Gains takings last.plan := served.gains owned
  rw [same, report]
  refine ⟨fun well => ?_, ?_, fun noPath ill => served.stops ill, takings, last, served, same, report⟩
  · obtain ⟨gained, nets, sublist, member_iff⟩ := served.reports well
    have nets : last.report.nets = gained := nets
    refine ⟨fun name source drives user member wire place => ?_, ?_, fun name => ?_, ?_⟩
    · rw [same]
      refine served.joins owned well (listed_of_sourced named drives) ?_ member place
      rw [drives]
      simp
    · rw [report, served.skipped owned well]
      exact Nat.zero_add _
    · rw [report, same, nets, member_iff, gains.exists_gained_iff]
    · rw [report, nets]
      exact named.pairwise_names.sublist sublist
  · rw [served.pips, gains.ncard_gained]
    exact Nat.zero_add _

end Plan

namespace ForkSample

theorem named : plan.layout.NetsNamed :=
  (Layout.NetsNamed.ofNetlist (Netlist.unrouted_ofCells made) placed).changeAll _

theorem well : plan.reserveLowSkew.2 = .ok () := by decide +kernel

/-- Both generators are served by one pass. -/
theorem completed :
    (plan.layout.Consistent ∧ plan.layout.NetsNamed ∧ plan.reserveLowSkew.2 = .ok ()) ∧
      plan.Completed plan.reserveLowSkew.1 ∧
      plan.reserveLowSkew.1.report.pips =
        {pip | ∃ name, plan.Gained plan.reserveLowSkew.1.plan name pip}.ncard :=
  ⟨⟨consistent, named, well⟩, (Plan.reserveLowSkew_completed consistent named).1 well,
    (Plan.reserveLowSkew_completed consistent named).2.1⟩

example : plan.reserveLowSkew.1.report = ⟨["clk"], 3, 0⟩ := by decide +kernel

end ForkSample

end UltraFabric
