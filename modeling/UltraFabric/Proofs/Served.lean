/-
# UltraFabric.Proofs.Served — all that can happen in a pass over clock nets

A pass ends early in two cases only: the wire of a driver has another net, or no route leads to a sink.
The third case that is provided for, a path that is found and cannot be taken, does not occur where
wires have the nets that have them (`Layout.WiresOwned`).

`LowSkewPass.SinksServed`, `NetServed` and `NetsServed` are the list of what does occur, for the sinks of
a net, for a net and for all nets, each with the wires that are taken on the way; `sinksServed`,
`netServed` and `netsServed` say that the list is complete.  What holds of a pass is therefore proved
case by case, with `Plan.Gains` for the plan and the following for the wires:

* each pip that is counted has been taken (`pips`);
* a wire that is taken is a dedicated one, or one at the end of its net (`Plan.Dedicated`).
-/
import UltraFabric.Proofs.Gains

namespace UltraFabric

set_option autoImplicit false

namespace Plan

/-! ### The ends of a net -/

/-- The users that a net must reach over the clock network: all of them when its driver feeds that
network, otherwise those that are reached in no other way. -/
def targets (plan : Plan) (name : Name) : List PortRef :=
  match plan.net? name with
  | none => []
  | some net =>
    net.users.filter fun user =>
      net.driver.any (plan.driverTier · ≠ .fabric) || plan.isLowSkewSink user

theorem lowSkewTargets?_eq (plan : Plan) (name : Name) :
    plan.lowSkewTargets? name =
      if plan.targets name = [] then none
      else some ((plan.net? name).bind Net.driver, plan.targets name) := by
  unfold lowSkewTargets? targets
  cases plan.net? name with
  | none => rfl
  | some net => cases driver : net.driver <;> simp [driver]

theorem SameButRouting.targets {before after : Plan} (same : before.SameButRouting after)
    (name : Name) : after.targets name = before.targets name := by
  have read : ∀ plan : Plan,
      plan.targets name = ((plan.lowSkewTargets? name).map Prod.snd).getD [] := by
    intro plan
    rw [lowSkewTargets?_eq]
    split
    · assumption
    · rfl
  rw [read, read, same.lowSkewTargets?]

/-- The wires that the pass may give to a net: those of the dedicated network, and those at the driver
and at the targets of the net. -/
def Dedicated (plan : Plan) (name : Name) (wire : WireId) : Prop :=
  plan.isLowSkewWire wire = true ∨ plan.sourceWire? name = some wire ∨
    ∃ user ∈ plan.targets name, plan.portWire? user = some wire

theorem SameButRouting.isLowSkewWire {before after : Plan} (same : before.SameButRouting after)
    (wire : WireId) : after.isLowSkewWire wire = before.isLowSkewWire wire := by
  rw [Plan.isLowSkewWire, Plan.isLowSkewWire, same.device]

theorem SameButRouting.dedicated_iff {before after : Plan} (same : before.SameButRouting after)
    {name : Name} {wire : WireId} : after.Dedicated name wire ↔ before.Dedicated name wire := by
  simp only [Dedicated, same.isLowSkewWire, same.sourceWire?, same.targets, same.portWire?]

end Plan

namespace LowSkewPass

open Plan

/-! ### The sinks of a net -/

/-- All that can happen while the sinks of a net are served. -/
inductive SinksServed (net : Name) : List PortRef → Bool → LowSkewPass → List Taking →
    LowSkewPass × Except NoPath Bool → Prop where
  | done {routed : Bool} {pass : LowSkewPass} :
      SinksServed net [] routed pass [] (pass, .ok routed)
  /-- A sink without a wire is left out. -/
  | unplaced {sink : PortRef} {sinks : List PortRef} {routed : Bool} {pass : LowSkewPass}
      {takings : List Taking} {answer : LowSkewPass × Except NoPath Bool}
      (place : pass.plan.portWire? sink = none)
      (rest : SinksServed net sinks routed ((pass.note (.sinkNotPlaced sink net)).skip 1) takings
        answer) :
      SinksServed net (sink :: sinks) routed pass takings answer
  /-- The net has the wire of the sink. -/
  | joined {sink : PortRef} {sinks : List PortRef} {routed : Bool} {pass : LowSkewPass}
      {takings : List Taking} {answer : LowSkewPass × Except NoPath Bool} {wire : WireId}
      (place : pass.plan.portWire? sink = some wire)
      (own : pass.plan.layout.wireNet? wire = some net)
      (rest : SinksServed net sinks routed pass takings answer) :
      SinksServed net (sink :: sinks) routed pass takings answer
  /-- A path to the sink is found, and all of it is taken. -/
  | reached {sink : PortRef} {sinks : List PortRef} {routed : Bool} {pass : LowSkewPass}
      {takings : List Taking} {answer : LowSkewPass × Except NoPath Bool} {wire : WireId}
      {path : List Arc} {plan : Plan}
      (place : pass.plan.portWire? sink = some wire)
      (foreign : pass.plan.layout.wireNet? wire ≠ some net)
      (found : pass.plan.searchPath? net wire = some path)
      (all : pass.plan.reservePath net path = (true, plan))
      (gains : pass.plan.Gains (path.map (Arc.takenFor net)) plan)
      (rest : SinksServed net sinks true
        { pass with
          plan
          report := { pass.report with pips := pass.report.pips + path.length } } takings answer) :
      SinksServed net (sink :: sinks) routed pass (path.map (Arc.takenFor net) ++ takings) answer
  /-- No path leads to the sink. -/
  | unreached {sink : PortRef} {sinks : List PortRef} {routed : Bool} {pass : LowSkewPass}
      {wire : WireId}
      (place : pass.plan.portWire? sink = some wire)
      (foreign : pass.plan.layout.wireNet? wire ≠ some net)
      (nowhere : pass.plan.searchPath? net wire = none) :
      SinksServed net (sink :: sinks) routed pass [] (pass, .error ⟨net, sink⟩)

theorem sinksServed (net : Name) (sinks : List PortRef) :
    ∀ (routed : Bool) (pass : LowSkewPass), pass.plan.layout.WiresOwned →
      ∃ takings, SinksServed net sinks routed pass takings (serveSinks net sinks routed pass) := by
  induction sinks with
  | nil => exact fun _ _ _ => ⟨[], .done⟩
  | cons sink rest ih =>
      intro routed pass owned
      cases place : pass.plan.portWire? sink with
      | none =>
          obtain ⟨takings, served⟩ := ih routed ((pass.note (.sinkNotPlaced sink net)).skip 1) owned
          simp only [serveSinks_cons, place]
          exact ⟨takings, .unplaced place served⟩
      | some wire =>
          by_cases own : pass.plan.layout.wireNet? wire = some net
          · obtain ⟨takings, served⟩ := ih routed pass owned
            simp only [serveSinks_cons, place, own, if_true]
            exact ⟨takings, .joined place own served⟩
          · cases found : pass.plan.searchPath? net wire with
            | none =>
                simp only [serveSinks_cons, place, own, if_false, found]
                exact ⟨[], .unreached place own found⟩
            | some path =>
                obtain ⟨all, gains⟩ := gains_of_found owned found
                cases answer : pass.plan.reservePath net path with
                | mk done plan =>
                    rw [answer] at all gains
                    cases all
                    obtain ⟨takings, served⟩ := ih true { pass with plan, report := _ } gains.owned
                    simp only [serveSinks_cons, place, own, if_false, found, answer]
                    exact ⟨_, .reached place own found answer gains served⟩

namespace SinksServed

variable {net : Name} {sinks : List PortRef} {routed : Bool} {pass : LowSkewPass}
  {takings : List Taking} {answer : LowSkewPass × Except NoPath Bool}

theorem gains (served : SinksServed net sinks routed pass takings answer)
    (owned : pass.plan.layout.WiresOwned) : pass.plan.Gains takings answer.1.plan := by
  induction served with
  | done => exact .refl owned
  | unplaced place rest ih => exact ih owned
  | joined place own rest ih => exact ih owned
  | reached place foreign found all gains rest ih => exact gains.trans (ih gains.owned)
  | unreached place foreign nowhere => exact .refl owned

theorem pips (served : SinksServed net sinks routed pass takings answer) :
    answer.1.report.pips = pass.report.pips + (takings.filterMap Taking.pip).length := by
  induction served with
  | done => rfl
  | unplaced place rest ih => exact ih
  | joined place own rest ih => exact ih
  | @reached sink sinks routed pass takings answer wire path plan place foreign found all gains rest
      ih =>
      have each : (path.map (Arc.takenFor net)).filterMap Taking.pip = path.map Arc.pip := by
        rw [List.filterMap_map]
        exact congrFun List.filterMap_eq_map path
      rw [ih, List.filterMap_append, each, List.length_append, List.length_map, Nat.add_assoc]
  | unreached place foreign nowhere => rfl

/-- A wire is taken with the pip that leads there, and it is a dedicated one or that of a sink. -/
theorem driven (served : SinksServed net sinks routed pass takings answer) {taking : Taking}
    (member : taking ∈ takings) : taking.net = net ∧ taking.pip ≠ none ∧
      (pass.plan.isLowSkewWire taking.wire = true ∨
        ∃ sink ∈ sinks, pass.plan.portWire? sink = some taking.wire) := by
  induction served with
  | done => cases member
  | unplaced place rest ih =>
      obtain ⟨own, driven, wire⟩ := ih member
      exact ⟨own, driven, wire.imp_right List.exists_mem_cons_of_exists⟩
  | joined place own rest ih =>
      obtain ⟨own, driven, wire⟩ := ih member
      exact ⟨own, driven, wire.imp_right List.exists_mem_cons_of_exists⟩
  | @reached sink sinks routed pass takings answer wire path plan place foreign found all gains rest
      ih =>
      rcases List.mem_append.1 member with first | later
      · obtain ⟨arc, onPath, rfl⟩ := List.mem_map.1 first
        refine ⟨rfl, by simp [Arc.takenFor], ?_⟩
        rcases ((route_of_found found).admitted arc onPath).2.dedicated with end_ | wire
        · exact Or.inr ⟨sink, List.mem_cons_self, place.trans (congrArg some end_.symm)⟩
        · exact Or.inl wire
      · obtain ⟨own, driven, wire⟩ := ih later
        simp only [gains.same.isLowSkewWire, gains.same.portWire?] at wire
        exact ⟨own, driven, wire.imp_right List.exists_mem_cons_of_exists⟩
  | unreached place foreign nowhere => cases member

end SinksServed

/-! ### A net -/

/-- What the sinks of a net come to: the net is reported if a path was reserved, and all sinks are
served. -/
def closeNet (net : Name) : LowSkewPass × Except NoPath Bool → LowSkewPass × Except NoPath Unit
  | (pass, .error noPath) => (pass, .error noPath)
  | (pass, .ok routed) =>
    ({ pass with
        report := { pass.report with
          nets := pass.report.nets ++ if routed then [net] else [] } }, .ok ())

/-- All that can happen while one net is served. -/
inductive NetServed (net : Name) (pass : LowSkewPass) :
    List Taking → LowSkewPass × Except NoPath Unit → Prop where
  | idle (untargeted : pass.plan.targets net = []) : NetServed net pass [] (pass, .ok ())
  /-- Where the driver has no wire, no target is served. -/
  | sourceless (notice : Notice) (targeted : pass.plan.targets net ≠ [])
      (undriven : pass.plan.sourceWire? net = none) :
      NetServed net pass [] ((pass.note notice).skip (pass.plan.targets net).length, .ok ())
  /-- Another net has the wire of the driver. -/
  | held {driver : PortRef} {wire : WireId} {other : Name}
      (targeted : pass.plan.targets net ≠ [])
      (drives : (pass.plan.net? net).bind Net.driver = some driver)
      (place : pass.plan.portWire? driver = some wire)
      (bound : pass.plan.layout.wireNet? wire = some other) (foreign : other ≠ net) :
      NetServed net pass [] (pass, .error ⟨net, driver⟩)
  /-- The net has the wire of its driver, and its targets are served. -/
  | sourced {wire : WireId} {plan : Plan} {start takings : List Taking}
      {answer : LowSkewPass × Except NoPath Bool} (targeted : pass.plan.targets net ≠ [])
      (drives : pass.plan.sourceWire? net = some wire)
      (reserved : pass.plan.reserveSource? net wire = some plan)
      (gains : pass.plan.Gains start plan) (only : ∀ taking ∈ start, taking = ⟨net, wire, none⟩)
      (sinks : SinksServed net (pass.plan.targets net) false { pass with plan } takings answer) :
      NetServed net pass (start ++ takings) (closeNet net answer)

theorem reserveSource?_eq_none {plan : Plan} {net : Name} {wire : WireId}
    (known : plan.net? net ≠ none) (refused : plan.reserveSource? net wire = none) :
    ∃ other, plan.layout.wireNet? wire = some other ∧ other ≠ net := by
  have refused : plan.layout.bindWire? wire net = none := Option.map_eq_none_iff.1 refused
  unfold Layout.bindWire? at refused
  split at refused
  · rename_i other bound
    refine ⟨other, bound, fun same => ?_⟩
    rw [if_pos same] at refused
    cases refused
  · exact absurd (Option.map_eq_none_iff.1 refused) known

theorem netServed {pass : LowSkewPass} (owned : pass.plan.layout.WiresOwned) (net : Name) :
    ∃ takings, NetServed net pass takings (pass.serveNet net) := by
  rw [serveNet_eq]
  rw [lowSkewTargets?_eq]
  rcases eq_or_ne (pass.plan.targets net) [] with untargeted | targeted
  · simp only [untargeted, if_true]
    exact ⟨[], .idle untargeted⟩
  · have known : pass.plan.net? net ≠ none := fun absent => targeted (by rw [targets, absent])
    cases drives : (pass.plan.net? net).bind Net.driver with
    | none =>
        simp only [targeted, if_false]
        exact ⟨[], .sourceless _ targeted (by rw [sourceWire?, drives]; rfl)⟩
    | some driver =>
        have source : pass.plan.sourceWire? net = pass.plan.portWire? driver := by
          rw [sourceWire?, drives, Option.bind_some]
        cases place : pass.plan.portWire? driver with
        | none =>
            simp only [targeted, if_false, place]
            exact ⟨[], .sourceless _ targeted (source.trans place)⟩
        | some wire =>
            cases reserved : pass.plan.reserveSource? net wire with
            | none =>
                obtain ⟨other, bound, foreign⟩ := reserveSource?_eq_none known reserved
                simp only [targeted, if_false, place, reserved]
                exact ⟨[], .held targeted drives place bound foreign⟩
            | some plan =>
                obtain ⟨start, gains, only⟩ := gains_reserveSource? owned reserved
                obtain ⟨takings, sinks⟩ :=
                  sinksServed net (pass.plan.targets net) false { pass with plan } gains.owned
                have closed :=
                  NetServed.sourced targeted (source.trans place) reserved gains only sinks
                simp only [targeted, if_false, place, reserved]
                refine ⟨start ++ takings, ?_⟩
                generalize serveSinks net (pass.plan.targets net) false { pass with plan } =
                  answer at closed ⊢
                obtain ⟨last, noPath | (_ | _)⟩ := answer
                · exact closed
                · simpa [closeNet] using closed
                · exact closed

theorem plan_closeNet (net : Name) (answer : LowSkewPass × Except NoPath Bool) :
    (closeNet net answer).1.plan = answer.1.plan := by
  obtain ⟨last, noPath | routed⟩ := answer <;> rfl

theorem pips_closeNet (net : Name) (answer : LowSkewPass × Except NoPath Bool) :
    (closeNet net answer).1.report.pips = answer.1.report.pips := by
  obtain ⟨last, noPath | routed⟩ := answer <;> rfl

/-- A source comes without a pip. -/
theorem filterMap_start {net : Name} {wire : WireId} {start : List Taking}
    (only : ∀ taking ∈ start, taking = ⟨net, wire, none⟩) : start.filterMap Taking.pip = [] := by
  refine List.filterMap_eq_nil_iff.2 fun taking member => ?_
  rw [only taking member]

namespace NetServed

variable {net : Name} {pass : LowSkewPass} {takings : List Taking}
  {answer : LowSkewPass × Except NoPath Unit}

theorem gains (served : NetServed net pass takings answer) (owned : pass.plan.layout.WiresOwned) :
    pass.plan.Gains takings answer.1.plan := by
  cases served with
  | idle untargeted => exact .refl owned
  | sourceless notice targeted undriven => exact .refl owned
  | held targeted drives place bound foreign => exact .refl owned
  | sourced targeted drives reserved gains only sinks =>
      rw [plan_closeNet]
      exact gains.trans (sinks.gains gains.owned)

theorem pips (served : NetServed net pass takings answer) :
    answer.1.report.pips = pass.report.pips + (takings.filterMap Taking.pip).length := by
  cases served with
  | idle untargeted => rfl
  | sourceless notice targeted undriven => rfl
  | held targeted drives place bound foreign => rfl
  | @sourced wire plan start takings answer targeted drives reserved gains only sinks =>
      rw [pips_closeNet, sinks.pips, List.filterMap_append, filterMap_start only, List.nil_append]

theorem dedicated (served : NetServed net pass takings answer) {taking : Taking}
    (member : taking ∈ takings) : taking.net = net ∧ pass.plan.Dedicated net taking.wire := by
  cases served with
  | idle untargeted => cases member
  | sourceless notice targeted undriven => cases member
  | held targeted drives place bound foreign => cases member
  | sourced targeted drives reserved gains only sinks =>
      rcases List.mem_append.1 member with first | later
      · cases only taking first
        exact ⟨rfl, Or.inr (Or.inl drives)⟩
      · obtain ⟨own, _, wire⟩ := sinks.driven later
        simp only [gains.same.isLowSkewWire, gains.same.portWire?] at wire
        exact ⟨own, wire.imp_right Or.inr⟩

end NetServed

/-! ### All nets -/

/-- All that can happen while nets are served in order. -/
inductive NetsServed : List Name → LowSkewPass → List Taking → LowSkewPass × Except NoPath Unit →
    Prop where
  | done {pass : LowSkewPass} : NetsServed [] pass [] (pass, .ok ())
  | stopped {net : Name} {nets : List Name} {pass last : LowSkewPass} {takings : List Taking}
      {noPath : NoPath} (served : NetServed net pass takings (last, .error noPath)) :
      NetsServed (net :: nets) pass takings (last, .error noPath)
  | next {net : Name} {nets : List Name} {pass between : LowSkewPass} {first takings : List Taking}
      {answer : LowSkewPass × Except NoPath Unit}
      (served : NetServed net pass first (between, .ok ()))
      (rest : NetsServed nets between takings answer) :
      NetsServed (net :: nets) pass (first ++ takings) answer

theorem netsServed (nets : List Name) : ∀ pass : LowSkewPass, pass.plan.layout.WiresOwned →
    ∃ takings, NetsServed nets pass takings (serveNets nets pass) := by
  induction nets with
  | nil => exact fun _ _ => ⟨[], .done⟩
  | cons net rest ih =>
      intro pass owned
      obtain ⟨first, served⟩ := netServed owned net
      simp only [serveNets_cons]
      generalize pass.serveNet net = answer at served ⊢
      obtain ⟨between, noPath | _⟩ := answer
      · exact ⟨first, .stopped served⟩
      · obtain ⟨takings, later⟩ := ih between (served.gains owned).owned
        exact ⟨first ++ takings, .next served later⟩

namespace NetsServed

variable {nets : List Name} {pass : LowSkewPass} {takings : List Taking}
  {answer : LowSkewPass × Except NoPath Unit}

theorem gains (served : NetsServed nets pass takings answer)
    (owned : pass.plan.layout.WiresOwned) : pass.plan.Gains takings answer.1.plan := by
  induction served with
  | done => exact .refl owned
  | stopped served => exact served.gains owned
  | next served rest ih =>
      have first := served.gains owned
      exact first.trans (ih first.owned)

theorem pips (served : NetsServed nets pass takings answer) :
    answer.1.report.pips = pass.report.pips + (takings.filterMap Taking.pip).length := by
  induction served with
  | done => rfl
  | stopped served => exact served.pips
  | next served rest ih =>
      rw [ih, served.pips, List.filterMap_append, List.length_append, Nat.add_assoc]

theorem dedicated (served : NetsServed nets pass takings answer)
    (owned : pass.plan.layout.WiresOwned) {taking : Taking} (member : taking ∈ takings) :
    pass.plan.Dedicated taking.net taking.wire := by
  induction served with
  | done => cases member
  | stopped served =>
      obtain ⟨rfl, dedicated⟩ := served.dedicated member
      exact dedicated
  | next served rest ih =>
      have gains := served.gains owned
      rcases List.mem_append.1 member with first | later
      · obtain ⟨rfl, dedicated⟩ := served.dedicated first
        exact dedicated
      · exact gains.same.dedicated_iff.1 (ih gains.owned later)

end NetsServed

end LowSkewPass

namespace Plan

/-! ### The pass -/

/-- The pass takes some wires, in the ways that are listed here, and this is its answer. -/
def PassServed (plan : Plan) (takings : List Taking)
    (answer : LowSkewPass × Except NoPath Unit) : Prop :=
  ∃ last : LowSkewPass,
    LowSkewPass.NetsServed (plan.layout.netlist.netList.map Net.name) ⟨plan, ⟨[], 0, 0⟩, []⟩ takings
      (last, answer.2) ∧
    answer.1.plan = last.plan ∧ answer.1.report = last.report

/-- **Every pass is one of those that are listed**: no path that is found is refused. -/
theorem passServed {plan : Plan} (owned : plan.layout.WiresOwned) :
    ∃ takings, plan.PassServed takings plan.reserveLowSkew := by
  obtain ⟨takings, served⟩ :=
    LowSkewPass.netsServed (plan.layout.netlist.netList.map Net.name) ⟨plan, ⟨[], 0, 0⟩, []⟩ owned
  refine ⟨takings, ?_⟩
  rw [reserveLowSkew_eq]
  generalize LowSkewPass.serveNets _ _ = answer at served ⊢
  obtain ⟨last, noPath | _⟩ := answer
  · exact ⟨last, served, rfl, rfl⟩
  · exact ⟨last, served, rfl, rfl⟩

end Plan

end UltraFabric
