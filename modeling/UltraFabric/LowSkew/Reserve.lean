/-
# UltraFabric.LowSkew.Reserve — reserving clock paths

Before general routing every clock net that starts or ends in the dedicated clock network gets its
paths there. A path takes its pips and wires for the net, blocks every other pip into those wires,
and names the generators and loops that it leads through. The first sink without a path ends the
pass; what was reserved until then stays, and `releaseLowSkew` undoes it.

What a pass does is written once for any `Steps`: a way to find the wire at a port, to search a path
and to take a pip. `reserveLowSkew` is the pass with the steps of this module (`Steps.plain`).
-/
import UltraFabric.LowSkew.Search
import UltraFabric.Notice

namespace UltraFabric

set_option autoImplicit false

/-- A sink, or a source, that a clock net cannot have. -/
structure NoPath where
  net : Name
  sink : PortRef
  deriving DecidableEq, Repr

def NoPath.message (noPath : NoPath) : String :=
  s!"no low-skew path for net {noPath.net} to {noPath.sink.text}"

/-- What a pass has done. -/
structure LowSkewReport where
  /-- The nets that got paths, in the order of the pass. -/
  nets : List Name
  pips : Nat
  /-- Sinks that are left to general routing. -/
  skipped : Nat
  deriving DecidableEq, Repr

/-- A pass under way. -/
structure LowSkewPass where
  plan : Plan
  report : LowSkewReport
  notices : List Notice

namespace Plan

def withReserved (plan : Plan) (reserved : Reservations) : Plan :=
  { plan with fabric := { plan.fabric with reserved } }

/-- The driver of a net and the users that it must reach over the clock network, if there are any:
all users when the driver feeds that network. -/
def lowSkewTargets? (plan : Plan) (name : Name) : Option (Option PortRef × List PortRef) :=
  match plan.net? name with
  | none => none
  | some net =>
    let fromClock :=
      match net.driver with
      | some driver => plan.driverTier driver ≠ .fabric
      | none => false
    let sinks := net.users.filter fun user => fromClock || plan.isLowSkewSink user
    if sinks.isEmpty then none else some (net.driver, sinks)

/-- The wire at a port of a placed cell. -/
def portWire? (plan : Plan) (ref : PortRef) : Option WireId :=
  (plan.layout.belOf? ref.cell).bind fun bel => plan.device.pinWire? bel ref.port

/-- Gives a name to the generator or loop that a pip leads through, unless it has one. -/
def nameCrossed (plan : Plan) (net : Name) (arc : Arc) : Plan :=
  match arc.crossedBel? with
  | none => plan
  | some bel =>
    let reserved := plan.fabric.reserved
    match (plan.device.bel? bel).map BelInfo.type with
    | some "WFG" =>
      if reserved.generators.contains bel then plan
      else
        let name := net ++ "$wfg_bypass"
        (plan.withReserved { reserved with generators := reserved.generators.insert bel name }).mention
          name
    | some "PLL" =>
      if reserved.loops.contains bel then plan
      else
        let name := net ++ "$pll_bypass"
        (plan.withReserved { reserved with loops := reserved.loops.insert bel name }).mention name
    | _ => plan

/-- Takes a pip for a net and blocks all pips into its wire; refused if pip or wire is in use. -/
def reserveArc? (plan : Plan) (net : Name) (arc : Arc) : Option Plan :=
  (plan.layout.bindArc? arc net).map fun layout =>
    let reserved := plan.fabric.reserved
    let rivals := (plan.device.entering arc.target).map Arc.pip
    let reserved := { reserved with
      wires := reserved.wires ++ [arc.target]
      blocked := (reserved.blocked.insert arc.pip).insertMany rivals }
    ({ plan with layout }.withReserved reserved).nameCrossed net arc

/-- Takes the wire of a driver for its net. -/
def reserveSource? (plan : Plan) (net : Name) (wire : WireId) : Option Plan :=
  (plan.layout.bindWire? wire net).map fun layout =>
    let reserved := plan.fabric.reserved
    { plan with layout }.withReserved { reserved with wires := reserved.wires ++ [wire] }

end Plan

namespace LowSkewPass

def note (pass : LowSkewPass) (notice : Notice) : LowSkewPass :=
  { pass with notices := pass.notices ++ [notice] }

def skip (pass : LowSkewPass) (sinks : Nat) : LowSkewPass :=
  { pass with report := { pass.report with skipped := pass.report.skipped + sinks } }

end LowSkewPass

/-- How a pass finds the wire at a port, searches a path and takes a pip, each of which may have an
outcome of its own (`m`). -/
structure Steps (m : Type → Type) where
  portWire? : Plan → PortRef → m (Option WireId)
  searchPath? : Plan → Name → WireId → m (Option (List Arc))
  reserveArc? : Plan → Name → Arc → m (Option Plan)

namespace Steps

variable {m : Type → Type} [Monad m] (steps : Steps m)

/-- Takes the pips of a path one by one, and whether all of them could be taken. -/
def reservePath (net : Name) : List Arc → Plan → m (Bool × Plan)
  | [], plan => return (true, plan)
  | arc :: rest, plan => do
    match ← steps.reserveArc? plan net arc with
    | none => return (false, plan)
    | some plan => reservePath net rest plan

/-- Serves the sinks of a net in order; `routed` says whether a path was reserved before. The answer
says whether one was reserved by the end, or which sink has none. -/
def serveSinks (net : Name) : List PortRef → Bool → LowSkewPass →
    m (LowSkewPass × Except NoPath Bool)
  | [], routed, pass => return (pass, .ok routed)
  | sink :: rest, routed, pass => do
    match ← steps.portWire? pass.plan sink with
    | none => serveSinks net rest routed ((pass.note (.sinkNotPlaced sink net)).skip 1)
    | some wire =>
      if pass.plan.layout.wireNet? wire = some net then serveSinks net rest routed pass
      else
        match ← steps.searchPath? pass.plan net wire with
        | none => return (pass, .error ⟨net, sink⟩)
        | some path =>
          let report := { pass.report with pips := pass.report.pips + path.length }
          match ← steps.reservePath net path pass.plan with
          | (false, plan) => return ({ pass with plan, report }, .error ⟨net, sink⟩)
          | (true, plan) => serveSinks net rest true { pass with plan, report }

/-- Serves one net. -/
def serveNet (pass : LowSkewPass) (net : Name) : m (LowSkewPass × Except NoPath Unit) :=
  match pass.plan.lowSkewTargets? net with
  | none => return (pass, .ok ())
  | some (none, sinks) =>
    return ((pass.note (.netWithoutDriver net)).skip sinks.length, .ok ())
  | some (some driver, sinks) => do
    match ← steps.portWire? pass.plan driver with
    | none => return ((pass.note (.driverNotPlaced driver net)).skip sinks.length, .ok ())
    | some source =>
      match pass.plan.reserveSource? net source with
      | none => return (pass, .error ⟨net, driver⟩)
      | some plan =>
        match ← steps.serveSinks net sinks false { pass with plan } with
        | (pass, .error noPath) => return (pass, .error noPath)
        | (pass, .ok false) => return (pass, .ok ())
        | (pass, .ok true) =>
          return ({ pass with report := { pass.report with nets := pass.report.nets ++ [net] } },
            .ok ())

/-- Serves nets in order, up to the first one that cannot be served. -/
def serveNets : List Name → LowSkewPass → m (LowSkewPass × Except NoPath Unit)
  | [], pass => return (pass, .ok ())
  | net :: rest, pass => do
    match ← steps.serveNet pass net with
    | (pass, .error noPath) => return (pass, .error noPath)
    | (pass, .ok ()) => serveNets rest pass

/-- Reserves the paths of all clock nets, by name. -/
def reserveLowSkew (plan : Plan) : m (LowSkewPass × Except NoPath Unit) := do
  let names := plan.layout.netlist.netList.map Net.name
  match ← steps.serveNets names ⟨plan, ⟨[], 0, 0⟩, []⟩ with
  | (pass, .error noPath) => return (pass, .error noPath)
  | (pass, .ok ()) =>
    return (pass.note (.pathsReserved pass.report.pips pass.report.nets.length), .ok ())

/-- The steps of the pass itself, which always have their answer. -/
def plain : Steps m where
  portWire? plan ref := return plan.portWire? ref
  searchPath? plan net target := return plan.searchPath? net target
  reserveArc? plan net arc := return plan.reserveArc? net arc

end Steps

namespace Plan

/-- `Steps.reservePath` with the steps of the pass itself, as for all that follows. -/
def reservePath (plan : Plan) (net : Name) (path : List Arc) : Bool × Plan :=
  Id.run (Steps.plain.reservePath net path plan)

theorem reservePath_nil (plan : Plan) (net : Name) : plan.reservePath net [] = (true, plan) := rfl

theorem reservePath_cons (plan : Plan) (net : Name) (arc : Arc) (rest : List Arc) :
    plan.reservePath net (arc :: rest) =
      match plan.reserveArc? net arc with
      | none => (false, plan)
      | some plan => plan.reservePath net rest := rfl

end Plan

namespace LowSkewPass

def serveSinks (net : Name) (sinks : List PortRef) (routed : Bool) (pass : LowSkewPass) :
    LowSkewPass × Except NoPath Bool :=
  Id.run (Steps.plain.serveSinks net sinks routed pass)

theorem serveSinks_cons (net : Name) (sink : PortRef) (rest : List PortRef) (routed : Bool)
    (pass : LowSkewPass) :
    serveSinks net (sink :: rest) routed pass =
      match pass.plan.portWire? sink with
      | none => serveSinks net rest routed ((pass.note (.sinkNotPlaced sink net)).skip 1)
      | some wire =>
        if pass.plan.layout.wireNet? wire = some net then serveSinks net rest routed pass
        else
          match pass.plan.searchPath? net wire with
          | none => (pass, .error ⟨net, sink⟩)
          | some path =>
            let report := { pass.report with pips := pass.report.pips + path.length }
            match pass.plan.reservePath net path with
            | (false, plan) => ({ pass with plan, report }, .error ⟨net, sink⟩)
            | (true, plan) => serveSinks net rest true { pass with plan, report } := rfl

def serveNet (pass : LowSkewPass) (net : Name) : LowSkewPass × Except NoPath Unit :=
  Id.run (Steps.plain.serveNet pass net)

theorem serveNet_eq (pass : LowSkewPass) (net : Name) :
    pass.serveNet net =
      match pass.plan.lowSkewTargets? net with
      | none => (pass, .ok ())
      | some (none, sinks) =>
        ((pass.note (.netWithoutDriver net)).skip sinks.length, .ok ())
      | some (some driver, sinks) =>
        match pass.plan.portWire? driver with
        | none => ((pass.note (.driverNotPlaced driver net)).skip sinks.length, .ok ())
        | some source =>
          match pass.plan.reserveSource? net source with
          | none => (pass, .error ⟨net, driver⟩)
          | some plan =>
            match serveSinks net sinks false { pass with plan } with
            | (pass, .error noPath) => (pass, .error noPath)
            | (pass, .ok false) => (pass, .ok ())
            | (pass, .ok true) =>
              ({ pass with report := { pass.report with nets := pass.report.nets ++ [net] } },
                .ok ()) := rfl

def serveNets (names : List Name) (pass : LowSkewPass) : LowSkewPass × Except NoPath Unit :=
  Id.run (Steps.plain.serveNets names pass)

theorem serveNets_cons (net : Name) (rest : List Name) (pass : LowSkewPass) :
    serveNets (net :: rest) pass =
      match pass.serveNet net with
      | (pass, .error noPath) => (pass, .error noPath)
      | (pass, .ok ()) => serveNets rest pass := rfl

end LowSkewPass

namespace Plan

def reserveLowSkew (plan : Plan) : LowSkewPass × Except NoPath Unit :=
  Id.run (Steps.plain.reserveLowSkew plan)

theorem reserveLowSkew_eq (plan : Plan) :
    plan.reserveLowSkew =
      match LowSkewPass.serveNets (plan.layout.netlist.netList.map Net.name)
        ⟨plan, ⟨[], 0, 0⟩, []⟩ with
      | (pass, .error noPath) => (pass, .error noPath)
      | (pass, .ok ()) =>
        (pass.note (.pathsReserved pass.report.pips pass.report.nets.length), .ok ()) := rfl

/-- Opens all pips again, without giving back what the clock nets have. -/
def unblock (plan : Plan) : Plan :=
  plan.withReserved { plan.fabric.reserved with blocked := ∅ }

/-- Gives back everything that was reserved. -/
def releaseLowSkew (plan : Plan) : Plan :=
  { plan with layout := plan.fabric.reserved.wires.foldl Layout.unbindWire plan.layout }.withReserved
    Reservations.none

/-- What happens before general routing: clock paths are reserved, unless that is turned off. -/
def beforeRouting (plan : Plan) : LowSkewPass × Except NoPath Unit :=
  if plan.fabric.options.lowSkew then plan.reserveLowSkew
  else (⟨plan, ⟨[], 0, 0⟩, []⟩, .ok ())

end Plan

end UltraFabric
