/-
# UltraFabric.Proofs.StrictPaths — a pass over clock nets that insists on what it looks up

The pass asks placed cells for the wires at their ports, pips for their ends and for the bels they lead
through, and wires for their flags.  The steps here do what those of the pass do and end in a fault where
one of these is not there; the pass itself is the same for them (`Steps`).  Only the rounds of a search
are counted again (`Strict.searchFrom`), since that they end is known from what they find.

The pass has the same result with these steps (`reserveLowSkew_eq`).  It never leaves the pips of the
device: what a search has found it has reached over them (`Trail`), and a path is taken pip by pip.  As
it moves no cell either, placed cells are on bels of the device all the way.
-/
import UltraFabric.Proofs.StrictChecks
import UltraFabric.Proofs.Tasks

namespace UltraFabric

set_option autoImplicit false

/-- What is routed moves no cell. -/
theorem Plan.Housed.of_sameDesign {before after : Plan} (housed : before.Housed)
    (same : before.layout.SameDesign after.layout) : after.Housed := by
  intro name bel placed
  rw [same.belOf?] at placed
  rw [Plan.device, same.device]
  exact housed name bel placed

namespace Strict

/-! ### Searching -/

/-- `Plan.portWire?`. -/
def portWire (plan : Plan) (ref : PortRef) : Answer (Option WireId) :=
  match plan.layout.belOf? ref.cell with
  | none => .ok none
  | some bel =>
    pinWire plan.device bel ref.port

/-- `Plan.admits`: the pip is asked for its ends and for what it leads through, and the wire that it
leads to for its flags. -/
def admits (plan : Plan) (net : Name) (target : WireId) (arc : Arc) : Answer Bool := do
  let arc ← plan.device.fetchArc arc.pip
  let info ← plan.device.fetchWire arc.target
  return plan.admitsAs net target arc info.isLowSkew

/-- `Plan.exploreAll`. -/
def exploreAll (plan : Plan) (net : Name) (target : WireId) (reached : List Reached)
    (round : Plan.Round) : Answer Plan.Round :=
  Plan.exploreAllBy plan.device (admits plan net target) reached round

theorem portWire_eq {plan : Plan} (housed : plan.Housed) (ref : PortRef) :
    portWire plan ref = .ok (plan.portWire? ref) := by
  unfold portWire Plan.portWire?
  cases placed : plan.layout.belOf? ref.cell with
  | none => rfl
  | some bel =>
      simp only [pinWire_eq (housed _ bel placed), Option.bind_some]

section Search

variable {plan : Plan} {net : Name} {target : WireId}

theorem admits_eq {arc : Arc} (there : arc ∈ plan.device.arcs) :
    admits plan net target arc = .ok (plan.admits net target arc) := by
  have ends := Device.inRange_of_arc? (Device.mem_arcs_iff.1 there)
  obtain ⟨_, info, found⟩ := ends.2
  have fetched : plan.device.fetchWire arc.target = .ok info := by
    rw [Device.fetchWire, found]
    rfl
  simp only [admits, Device.fetchArc_of_mem there, fetched, Plan.admits, Plan.isLowSkewWire, found,
    bind, Except.bind]
  rfl

theorem exploreBy_eq (path arcs : List Arc) (there : ∀ arc ∈ arcs, arc ∈ plan.device.arcs)
    (round : Plan.Round) :
    Plan.exploreBy (admits plan net target) path arcs round =
      .ok (plan.explore net target path arcs round) := by
  induction arcs generalizing round with
  | nil => rfl
  | cons arc rest ih =>
      obtain ⟨first, others⟩ := List.forall_mem_cons.1 there
      rw [Plan.exploreBy, admits_eq first]
      exact ih others _

theorem exploreAll_eq (reached : List Reached) (round : Plan.Round) :
    exploreAll plan net target reached round = .ok (plan.exploreAll net target reached round) := by
  unfold exploreAll
  induction reached generalizing round with
  | nil => rfl
  | cons first rest ih =>
      have leaving : ∀ arc ∈ plan.device.leaving first.wire, arc ∈ plan.device.arcs :=
        fun _ member => (Device.mem_leaving_iff.1 member).1
      rw [Plan.exploreAllBy, exploreBy_eq _ _ leaving]
      exact ih _

end Search

/-- `Plan.searchFrom`: when the goal is reached, the way back is walked over the pips of the path. -/
def searchFrom (plan : Plan) (net : Name) (target : WireId) (reached : List Reached)
    (seen : Std.ExtTreeSet WireId) : Answer (Option (List Arc)) :=
  match reached.find? (·.wire = target) with
  | some goal => (goal.path.reverse.mapM fun arc => plan.device.fetchArc arc.pip).map some
  | none =>
    match _explored : exploreAll plan net target reached ⟨[], seen⟩ with
    | .error fault => .error fault
    | .ok next =>
      if _stuck : next.found = [] then .ok none
      else searchFrom plan net target next.found next.seen
  termination_by plan.device.unseen seen
  decreasing_by
    rw [exploreAll_eq] at _explored
    cases _explored
    rcases Plan.progress_exploreAll plan net target reached ⟨[], seen⟩ with same | less
    · rw [same] at _stuck
      exact absurd rfl _stuck
    · exact less

/-- `Plan.searchPath?`. -/
def searchPath (plan : Plan) (net : Name) (target : WireId) : Answer (Option (List Arc)) :=
  let tree := plan.treeOf net
  searchFrom plan net target (tree.map fun wire => ⟨wire, []⟩) (Std.ExtTreeSet.ofList tree)

section Search

variable {plan : Plan} {net : Name} {target : WireId}

/-- What is done when the goal is not among what has been reached. -/
theorem searchFrom_of_explored {reached : List Reached} {seen : Std.ExtTreeSet WireId}
    (nowhere : reached.find? (·.wire = target) = none) :
    searchFrom plan net target reached seen =
      if (plan.exploreAll net target reached ⟨[], seen⟩).found = [] then .ok none
      else searchFrom plan net target (plan.exploreAll net target reached ⟨[], seen⟩).found
        (plan.exploreAll net target reached ⟨[], seen⟩).seen := by
  rw [searchFrom, nowhere]
  simp only
  split
  · rename_i fault explored
    rw [exploreAll_eq] at explored
    cases explored
  · rename_i next explored
    rw [exploreAll_eq] at explored
    cases explored
    rfl

theorem searchFrom_eq {tree : List WireId} (reached : List Reached) (seen : Std.ExtTreeSet WireId)
    (leads : plan.Trailed tree reached) :
    searchFrom plan net target reached seen = .ok (plan.searchFrom net target reached seen) := by
  induction reached, seen using Plan.searchFrom.induct plan net target with
  | case1 reached seen goal reaches =>
      rw [searchFrom, Plan.searchFrom, reaches]
      have there : ∀ arc ∈ goal.path.reverse, arc ∈ plan.device.arcs := fun arc member =>
        (leads goal (List.mem_of_find?_eq_some reaches)).mem_arcs (List.mem_reverse.1 member)
      simp only [Device.fetchArcs_of_mem _ there]
      rfl
  | case2 reached seen nowhere stuck =>
      rw [searchFrom_of_explored nowhere, Plan.searchFrom, nowhere]
      simp only [stuck, if_true, dif_pos]
  | case3 reached seen nowhere stuck ih =>
      rw [searchFrom_of_explored nowhere, Plan.searchFrom, nowhere]
      simp only [stuck, if_false, dif_neg, not_false_eq_true]
      exact ih (Plan.trailed_exploreAll reached ⟨[], seen⟩ leads fun _ impossible => by
        cases impossible)

theorem searchPath_eq : searchPath plan net target = .ok (plan.searchPath? net target) := by
  have rooted : plan.Trailed (plan.treeOf net)
      ((plan.treeOf net).map fun wire => (⟨wire, []⟩ : Reached)) := fun one member => by
    obtain ⟨wire, inTree, rfl⟩ := List.mem_map.1 member
    exact .start inTree
  exact searchFrom_eq _ _ rooted

end Search

/-! ### Taking what was found -/

/-- `Plan.reserveArc?`: a bel that the pip leads through is asked for its type. -/
def reserveArc (plan : Plan) (net : Name) (arc : Arc) : Answer (Option Plan) := do
  let arc ← plan.device.fetchArc arc.pip
  let after := plan.reserveArc? net arc
  match arc.crossedBel? with
  | none => return after
  | some bel =>
    let _ ← plan.device.fetchBel bel
    return after

/-- `Steps.plain`. -/
def steps : Steps Answer where
  portWire? := portWire
  searchPath? := searchPath
  reserveArc? := reserveArc

/-- `Plan.reserveLowSkew`. -/
def reserveLowSkew (plan : Plan) : Answer (LowSkewPass × Except NoPath Unit) :=
  steps.reserveLowSkew plan

theorem reserveArc_eq {plan : Plan} {net : Name} {arc : Arc} (there : arc ∈ plan.device.arcs) :
    reserveArc plan net arc = .ok (plan.reserveArc? net arc) := by
  simp only [reserveArc, Device.fetchArc_of_mem there, bind, Except.bind]
  cases crosses : arc.crossedBel? with
  | none => rfl
  | some bel =>
      obtain ⟨info, _, fetched⟩ :=
        Device.fetchBel_of_isBel (Device.isBel_of_crossedBel? there crosses)
      simp only [fetched]
      rfl

theorem reservePath_eq {net : Name} (path : List Arc) :
    ∀ {plan : Plan}, (∀ arc ∈ path, arc ∈ plan.device.arcs) →
      steps.reservePath net path plan = .ok (plan.reservePath net path) := by
  induction path with
  | nil => exact fun _ => rfl
  | cons arc rest ih =>
      intro plan there
      obtain ⟨first, others⟩ := List.forall_mem_cons.1 there
      have taken : steps.reserveArc? plan net arc = .ok (plan.reserveArc? net arc) :=
        reserveArc_eq first
      simp only [Steps.reservePath, Plan.reservePath_cons, taken, bind, Except.bind]
      cases reserved : plan.reserveArc? net arc with
      | none => rfl
      | some after => exact ih (Plan.device_reserveArc? reserved ▸ others)

/-! ### The pass -/

theorem housed_reserveSource? {before after : Plan} {net : Name} {wire : WireId}
    (reserved : before.reserveSource? net wire = some after) (housed : before.Housed) :
    after.Housed := by
  obtain ⟨layout, bound, rfl⟩ := Option.map_eq_some_iff.1 reserved
  exact housed.of_sameDesign (Layout.sameDesign_bindWire? bound)

theorem housed_of_reserves {before after : Plan} (reserves : before.Reserves after)
    (housed : before.Housed) : after.Housed :=
  housed.of_sameDesign reserves.sameButRouting.design

theorem portWire?_steps {plan : Plan} (housed : plan.Housed) (ref : PortRef) :
    steps.portWire? plan ref = .ok (plan.portWire? ref) :=
  portWire_eq housed ref

theorem serveSinks_eq (net : Name) (sinks : List PortRef) :
    ∀ (routed : Bool) (pass : LowSkewPass), pass.plan.Housed →
      steps.serveSinks net sinks routed pass =
        .ok (LowSkewPass.serveSinks net sinks routed pass) := by
  induction sinks with
  | nil => exact fun _ _ _ => rfl
  | cons sink rest ih =>
      intro routed pass housed
      have searched : ∀ wire, steps.searchPath? pass.plan net wire =
          .ok (pass.plan.searchPath? net wire) := fun _ => searchPath_eq
      simp only [Steps.serveSinks, LowSkewPass.serveSinks_cons, portWire?_steps housed, searched, bind,
        Except.bind]
      cases pass.plan.portWire? sink with
      | none => exact ih routed ((pass.note _).skip 1) housed
      | some wire =>
          simp only
          split
          · exact ih routed pass housed
          · cases found : pass.plan.searchPath? net wire with
            | none => rfl
            | some path =>
                have leads := Plan.trail_searchPath? found
                have there : ∀ arc ∈ path, arc ∈ pass.plan.device.arcs := fun arc member =>
                  leads.mem_arcs (List.mem_reverse.2 member)
                have taken := (Plan.reserves_reservePath (fun _ => Plan.mem_treeOf) leads).1
                rw [List.reverse_reverse] at taken
                simp only [reservePath_eq path there]
                generalize pass.plan.reservePath net path = answer at taken ⊢
                obtain ⟨done, plan⟩ := answer
                cases done with
                | false => rfl
                | true =>
                    exact ih true { pass with plan, report := _ } (housed_of_reserves taken housed)

theorem serveNet_eq {pass : LowSkewPass} (housed : pass.plan.Housed) (net : Name) :
    steps.serveNet pass net = .ok (pass.serveNet net) := by
  rw [Steps.serveNet, LowSkewPass.serveNet_eq]
  cases targets : pass.plan.lowSkewTargets? net with
  | none => rfl
  | some ends =>
      obtain ⟨driver, sinks⟩ := ends
      cases driver with
      | none => rfl
      | some driver =>
          simp only [portWire?_steps housed, bind, Except.bind]
          cases drives : pass.plan.portWire? driver with
          | none => rfl
          | some source =>
              simp only
              cases reserved : pass.plan.reserveSource? net source with
              | none => rfl
              | some plan =>
                  simp only [serveSinks_eq net sinks false { pass with plan }
                    (housed_reserveSource? reserved housed)]
                  generalize LowSkewPass.serveSinks net sinks false { pass with plan } = answer
                  obtain ⟨pass, outcome⟩ := answer
                  cases outcome with
                  | error noPath => rfl
                  | ok routed => cases routed <;> rfl

theorem serveNets_eq (names : List Name) :
    ∀ {pass : LowSkewPass}, pass.plan.Housed →
      steps.serveNets names pass = .ok (LowSkewPass.serveNets names pass) := by
  induction names with
  | nil => exact fun _ => rfl
  | cons net rest ih =>
      intro pass housed
      have reserves := LowSkewPass.reserves_serveNet pass net
      simp only [Steps.serveNets, LowSkewPass.serveNets_cons, serveNet_eq housed, bind, Except.bind]
      generalize pass.serveNet net = answer at reserves ⊢
      obtain ⟨pass, outcome⟩ := answer
      cases outcome with
      | error noPath => rfl
      | ok done => exact ih (housed_of_reserves reserves housed)

/-- **The pass looks up only what is there.** -/
theorem reserveLowSkew_eq {plan : Plan} (housed : plan.Housed) :
    reserveLowSkew plan = .ok plan.reserveLowSkew := by
  have served : ∀ names, steps.serveNets names ⟨plan, ⟨[], 0, 0⟩, []⟩ =
      .ok (LowSkewPass.serveNets names ⟨plan, ⟨[], 0, 0⟩, []⟩) := fun names =>
    serveNets_eq names housed
  simp only [reserveLowSkew, Steps.reserveLowSkew, Plan.reserveLowSkew_eq, served, bind, Except.bind]
  generalize LowSkewPass.serveNets _ _ = answer
  obtain ⟨pass, outcome⟩ := answer
  cases outcome with
  | error noPath => rfl
  | ok done => rfl

end Strict

end UltraFabric
