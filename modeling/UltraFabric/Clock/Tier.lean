/-
# UltraFabric.Clock.Tier — which ports are part of the clock network

A port of a primitive may take a clock at one tier and give one at another. `ClockTables` holds the
tier of each such port; a port that is listed under two tiers is refused, so the order in which the
lists are gone through does not matter.
-/
import UltraFabric.Primitive

namespace UltraFabric

set_option autoImplicit false

/-- Where a port takes its clock from. -/
inductive SinkTier where
  | fabric
  | ring
  | ringOverTile
  | tube
  deriving DecidableEq, Repr

/-- Where a port feeds its clock into. -/
inductive SourceTier where
  | ring
  | tube
  deriving DecidableEq, Repr

/-- Where the clock of a net comes from. -/
inductive DriverTier where
  | ring
  | tube
  | fabric
  deriving DecidableEq, Repr

/-- A port of a primitive. -/
structure PrimitivePort where
  type : Name
  port : Name
  deriving DecidableEq, Repr

namespace PrimitivePort

instance : Ord PrimitivePort where
  compare := compareLex (compareOn PrimitivePort.type) (compareOn PrimitivePort.port)

instance : Std.TransOrd PrimitivePort :=
  inferInstanceAs (Std.TransCmp
    (compareLex (compareOn PrimitivePort.type) (compareOn PrimitivePort.port)))

instance : Std.LawfulEqOrd PrimitivePort where
  eq_of_compare := by
    rintro ⟨type, port⟩ ⟨type', port'⟩ h
    have h : (compare type type').then (compare port port') = .eq := h
    rw [Ordering.then_eq_eq] at h
    simp only [Std.LawfulEqCmp.compare_eq_iff_eq] at h
    simp [h.1, h.2]

end PrimitivePort

/-- A port that is listed under two tiers. -/
structure TierConflict where
  port : PrimitivePort
  deriving DecidableEq, Repr

def TierConflict.message (conflict : TierConflict) : String :=
  s!"clock port {conflict.port.type}.{conflict.port.port} registered in more than one tier"

/-- Ports of one primitive that share a tier. -/
structure TierEntry (Tier : Type) where
  tier : Tier
  type : Name
  ports : List Name

/-- Adds a port to a table of tiers, if it is not there under another tier. -/
def addTier {Tier : Type} [DecidableEq Tier] (tiers : Std.ExtTreeMap PrimitivePort Tier)
    (tier : Tier) (port : PrimitivePort) :
    Except TierConflict (Std.ExtTreeMap PrimitivePort Tier) :=
  match tiers[port]? with
  | some known => if known = tier then .ok tiers else .error ⟨port⟩
  | none => .ok (tiers.insert port tier)

/-- Each port of a list of entries with its tier. -/
def TierEntry.flatten {Tier : Type} (entries : List (TierEntry Tier)) :
    List (Tier × PrimitivePort) :=
  entries.flatMap fun entry => entry.ports.map fun port => (entry.tier, ⟨entry.type, port⟩)

/-- Adds ports one by one. -/
def addTiers {Tier : Type} [DecidableEq Tier] :
    Std.ExtTreeMap PrimitivePort Tier → List (Tier × PrimitivePort) →
    Except TierConflict (Std.ExtTreeMap PrimitivePort Tier)
  | tiers, [] => .ok tiers
  | tiers, (tier, port) :: rest =>
    match addTier tiers tier port with
    | .error conflict => .error conflict
    | .ok tiers => addTiers tiers rest

/-- The tiers of all clock ports. -/
structure ClockTables where
  sinks : Std.ExtTreeMap PrimitivePort SinkTier
  sources : Std.ExtTreeMap PrimitivePort SourceTier

namespace ClockTables

def empty : ClockTables := ⟨∅, ∅⟩

def ofEntries (sinks : List (TierEntry SinkTier)) (sources : List (TierEntry SourceTier)) :
    Except TierConflict ClockTables :=
  match addTiers ∅ (TierEntry.flatten sinks) with
  | .error conflict => .error conflict
  | .ok sinks =>
    match addTiers ∅ (TierEntry.flatten sources) with
    | .error conflict => .error conflict
    | .ok sources => .ok ⟨sinks, sources⟩

def addSink (tables : ClockTables) (tier : SinkTier) (port : PrimitivePort) :
    Except TierConflict ClockTables :=
  match addTier tables.sinks tier port with
  | .error conflict => .error conflict
  | .ok sinks => .ok { tables with sinks }

def addSource (tables : ClockTables) (tier : SourceTier) (port : PrimitivePort) :
    Except TierConflict ClockTables :=
  match addTier tables.sources tier port with
  | .error conflict => .error conflict
  | .ok sources => .ok { tables with sources }

def sinkTier? (tables : ClockTables) (type port : Name) : Option SinkTier :=
  tables.sinks[(⟨type, port⟩ : PrimitivePort)]?

def sourceTier? (tables : ClockTables) (type port : Name) : Option SourceTier :=
  tables.sources[(⟨type, port⟩ : PrimitivePort)]?

end ClockTables

/-- The clock inputs of the primitives. -/
def Primitive.sinkEntries : List (TierEntry SinkTier) :=
  [⟨.fabric, "BEYOND_FE", ["CK"]⟩, ⟨.fabric, "DFR", ["CK"]⟩, ⟨.fabric, "DDFR", ["CK", "CKF"]⟩,
    ⟨.fabric, "RF", ["WCK"]⟩, ⟨.fabric, "RFSP", ["WCK"]⟩, ⟨.fabric, "XHRF", ["WCK"]⟩,
    ⟨.fabric, "XWRF", ["WCK"]⟩, ⟨.fabric, "XPRF", ["WCK"]⟩, ⟨.fabric, "RAM", ["ACK", "BCK"]⟩,
    ⟨.fabric, "DSP", ["CK"]⟩, ⟨.fabric, "FIFO", ["RCK", "WCK"]⟩, ⟨.fabric, "XHFIFO", ["RCK", "WCK"]⟩,
    ⟨.fabric, "XWFIFO", ["RCK", "WCK"]⟩, ⟨.fabric, "DDE", ["CK1", "CK2"]⟩,
    ⟨.fabric, "TDE", ["CK1", "CK2"]⟩, ⟨.fabric, "CDC", ["CK1", "CK2"]⟩,
    ⟨.fabric, "XCDC", ["CK1", "CK2"]⟩, ⟨.ring, "GCK", ["SI1", "SI2"]⟩, ⟨.ring, "WFB", ["ZI"]⟩,
    ⟨.ring, "WFG", ["ZI"]⟩, ⟨.ring, "PLL", ["REF", "FBK"]⟩, ⟨.ringOverTile, "IOM", ["FCK1", "FCK2"]⟩,
    ⟨.tube, "GCK", ["CMD"]⟩]

/-- The clock outputs of the primitives. -/
def Primitive.sourceEntries : List (TierEntry SourceTier) :=
  [⟨.ring, "IOM", ["CKO1", "CKO2"]⟩, ⟨.ring, "WFB", ["ZO"]⟩, ⟨.ring, "WFG", ["ZO"]⟩,
    ⟨.ring, "PLL", ["CLK_O", "CLK_DIV1", "CLK_DIV2", "CLK_DIV3", "CLK_DIV4", "CLK_DIVD1",
      "CLK_DIVD2", "CLK_DIVD3", "CLK_DIVD4", "CLK_DIVD5", "CLK_CAL", "CLK_CAL_DIV", "OSC"]⟩,
    ⟨.tube, "GCK", ["SO"]⟩]

/-- The clock network of the primitives. -/
def ClockTables.ofPrimitives : Except TierConflict ClockTables :=
  ClockTables.ofEntries Primitive.sinkEntries Primitive.sourceEntries

end UltraFabric
