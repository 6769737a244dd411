/-
# UltraFabric.Proofs.Layers — the tiers of a clock port, kept apart or together

`ClockTables` keeps one table of tiers for sinks and one for sources.  The same can be kept as one table of
ports for each tier (`LayeredTables`), six in all, and the tier of a port found by asking one table after
the other.  That is a different thing as long as a port may be in two of them, and a port that is in two
tables has the tier of the one that is asked first.

A port never is in two of them, whatever is added and whatever is refused (`LayeredTables.Holds.add`).  So
the order of asking does not matter (`Layers.Holds.tier?_eq`), and both ways of keeping the tiers refuse
the same additions and answer alike.

* `ClockTables.lookUp_foldl_after`: after any additions, some of which may have been refused, a port has
  the tier under which it was first added;
* `ClockTables.listed_exactly`: what becomes of lists of entries, and of single additions.
-/
import Std.Data.ExtTreeSet
import UltraFabric.Proofs.Tiers

namespace UltraFabric

set_option autoImplicit false

/-! ### Additions -/

/-- A port that is to be added to the tables of the clock network. -/
inductive PortAddition where
  | sink (tier : SinkTier) (port : PrimitivePort)
  | source (tier : SourceTier) (port : PrimitivePort)
  deriving DecidableEq

namespace PortAddition

/-- The tier under which an addition makes a port a sink. -/
def sinkTier? (port : PrimitivePort) : PortAddition → Option SinkTier
  | sink tier own => if own = port then some tier else none
  | source _ _ => none

/-- The tier under which an addition makes a port a source. -/
def sourceTier? (port : PrimitivePort) : PortAddition → Option SourceTier
  | sink _ _ => none
  | source tier own => if own = port then some tier else none

/-- All ports of some entries, sinks first. -/
def ofEntries (sinks : List (TierEntry SinkTier)) (sources : List (TierEntry SourceTier)) :
    List PortAddition :=
  (TierEntry.flatten sinks).map (fun (tier, port) => sink tier port) ++
    (TierEntry.flatten sources).map fun (tier, port) => source tier port

end PortAddition

section Refusing

variable {Tier : Type} [DecidableEq Tier] {port : PrimitivePort}

/-- A table as the addition of a port leaves it, refused or not. -/
def leaveTier (tiers : Std.ExtTreeMap PrimitivePort Tier) (tier : Tier) (port : PrimitivePort) :
    Std.ExtTreeMap PrimitivePort Tier :=
  (addTier tiers tier port).toOption.getD tiers

/-- **One addition leaves a port where it is**, and puts it under the new tier if it is nowhere. -/
theorem getElem?_leaveTier (tiers : Std.ExtTreeMap PrimitivePort Tier) (tier : Tier)
    (own port : PrimitivePort) : (leaveTier tiers tier own)[port]? =
      (tiers[port]?).or (if own = port then some tier else none) := by
  unfold leaveTier
  rcases addTier_cases tiers tier own with ⟨fits, added⟩ | ⟨known, found, _, refused⟩
  · rw [added, Except.toOption, Option.getD_some, getElem?_insert_port]
    by_cases here : own = port
    · subst here
      cases found : tiers[own]? with
      | none => simp
      | some known => simp [fits known found]
    · simp [here]
  · rw [refused, Except.toOption, Option.getD_none]
    by_cases here : own = port
    · subst here
      simp [found]
    · simp [here]

end Refusing

namespace ClockTables

def add (tables : ClockTables) : PortAddition → Except TierConflict ClockTables
  | .sink tier port => tables.addSink tier port
  | .source tier port => tables.addSource tier port

/-- The tables as an addition leaves them, refused or not. -/
def after (tables : ClockTables) (addition : PortAddition) : ClockTables :=
  (tables.add addition).toOption.getD tables

/-- Both tiers of a port. -/
def lookUp (tables : ClockTables) (port : PrimitivePort) : Option SinkTier × Option SourceTier :=
  (tables.sinkTier? port.type port.port, tables.sourceTier? port.type port.port)

variable {tables : ClockTables} {port : PrimitivePort}

theorem after_sink (tables : ClockTables) (tier : SinkTier) (own : PrimitivePort) :
    tables.after (.sink tier own) = { tables with sinks := leaveTier tables.sinks tier own } := by
  show (tables.addSink tier own).toOption.getD tables = _
  unfold addSink leaveTier
  cases addTier tables.sinks tier own <;> rfl

theorem after_source (tables : ClockTables) (tier : SourceTier) (own : PrimitivePort) :
    tables.after (.source tier own) = { tables with sources := leaveTier tables.sources tier own } := by
  show (tables.addSource tier own).toOption.getD tables = _
  unfold addSource leaveTier
  cases addTier tables.sources tier own <;> rfl

theorem lookUp_after (tables : ClockTables) (addition : PortAddition) (port : PrimitivePort) :
    (tables.after addition).lookUp port = ((tables.lookUp port).1.or (addition.sinkTier? port),
      (tables.lookUp port).2.or (addition.sourceTier? port)) := by
  cases addition with
  | sink tier own =>
      rw [after_sink, lookUp, sinkTier?, getElem?_leaveTier]
      simp [lookUp, sinkTier?, sourceTier?, PortAddition.sinkTier?, PortAddition.sourceTier?]
  | source tier own =>
      rw [after_source, lookUp, sourceTier?, getElem?_leaveTier]
      simp [lookUp, sinkTier?, sourceTier?, PortAddition.sinkTier?, PortAddition.sourceTier?]

theorem lookUp_foldl_after (additions : List PortAddition) (port : PrimitivePort) :
    ∀ tables : ClockTables, (additions.foldl after tables).lookUp port =
      ((tables.lookUp port).1.or (additions.findSome? (·.sinkTier? port)),
        (tables.lookUp port).2.or (additions.findSome? (·.sourceTier? port))) := by
  induction additions with
  | nil => simp
  | cons addition rest ih =>
      intro tables
      rw [List.foldl_cons, ih, lookUp_after, List.findSome?_cons, List.findSome?_cons]
      simp only [Option.or_assoc]
      cases addition.sinkTier? port <;> cases addition.sourceTier? port <;> rfl

end ClockTables

/-! ### One table of ports for each tier -/

/-- The ports of one tier: for each type of primitive, their names. -/
abbrev PortTable := Std.ExtTreeMap Name (Std.ExtTreeSet Name)

namespace PortTable

def has (table : PortTable) (port : PrimitivePort) : Bool :=
  match table[port.type]? with
  | some names => names.contains port.port
  | none => false

def add (table : PortTable) (port : PrimitivePort) : PortTable :=
  table.insert port.type ((table.getD port.type ∅).insert port.port)

theorem has_add_iff {table : PortTable} {own port : PrimitivePort} :
    has (add table own) port = true ↔ own = port ∨ has table port = true := by
  obtain ⟨type, name⟩ := own
  obtain ⟨type', name'⟩ := port
  simp only [has, add, Std.ExtTreeMap.getElem?_insert, Std.LawfulEqCmp.compare_eq_iff_eq,
    PrimitivePort.mk.injEq, Std.ExtTreeMap.getD_eq_getD_getElem?]
  by_cases here : type = type'
  · subst here
    cases table[type]? with
    | none => simp [Std.ExtTreeSet.contains_insert]
    | some names => simp [Std.ExtTreeSet.contains_insert]
  · simp [here]

end PortTable

/-- Tables of ports, one for each tier. -/
structure Layers (Tier : Type) where
  table : Tier → PortTable

namespace Layers

variable {Tier : Type} {order : List Tier} {layers : Layers Tier}
  {tiers : Std.ExtTreeMap PrimitivePort Tier}

def empty : Layers Tier := ⟨fun _ => ∅⟩

/-- The first tier, in some order, whose table has a port. -/
def tier? (order : List Tier) (layers : Layers Tier) (port : PrimitivePort) : Option Tier :=
  order.find? fun tier => PortTable.has (layers.table tier) port

/-- Each table has the ports of its tier. -/
def Holds (layers : Layers Tier) (tiers : Std.ExtTreeMap PrimitivePort Tier) : Prop :=
  ∀ tier (port : PrimitivePort),
    PortTable.has (layers.table tier) port = true ↔ tiers[port]? = some tier

theorem holds_empty : (empty : Layers Tier).Holds ∅ := by
  intro tier port
  simp [empty, PortTable.has]

/-- **In whatever order the tables are asked, the tier of a port is found.** -/
theorem Holds.tier?_eq (holds : layers.Holds tiers) (complete : ∀ tier, tier ∈ order)
    (port : PrimitivePort) : layers.tier? order port = tiers[port]? := by
  cases asked : layers.tier? order port with
  | some tier =>
      unfold tier? at asked
      have has := List.find?_some asked
      exact ((holds tier port).1 has).symm
  | none =>
      cases known : tiers[port]? with
      | none => rfl
      | some tier =>
          have silent := List.find?_eq_none.1 asked tier (complete tier)
          exact absurd ((holds tier port).2 known) silent

variable [DecidableEq Tier]

/-- Adds a port to the table of a tier, if no table has it; what is left, and whether it was refused. -/
def add (order : List Tier) (layers : Layers Tier) (tier : Tier) (port : PrimitivePort) :
    Layers Tier × Except TierConflict Unit :=
  match layers.tier? order port with
  | some known => (layers, if known = tier then .ok () else .error ⟨port⟩)
  | none =>
    (⟨fun other =>
        if other = tier then PortTable.add (layers.table tier) port else layers.table other⟩, .ok ())

/-- **An addition is refused by both or by neither, and they stay alike.** -/
theorem Holds.add (holds : layers.Holds tiers) (complete : ∀ tier, tier ∈ order) (tier : Tier)
    (port : PrimitivePort) :
    (layers.add order tier port).2 = (addTier tiers tier port).map (fun _ => ()) ∧
      (layers.add order tier port).1.Holds (leaveTier tiers tier port) := by
  have asked := holds.tier?_eq complete port
  unfold Layers.add leaveTier addTier
  rw [asked]
  cases found : tiers[port]? with
  | some known =>
      by_cases same : known = tier
      · simp only [if_pos same]
        exact ⟨rfl, holds⟩
      · simp only [if_neg same]
        exact ⟨rfl, holds⟩
  | none =>
      refine ⟨rfl, fun other port' => ?_⟩
      show PortTable.has (if other = tier then _ else _) port' = true ↔ (tiers.insert port tier)[port']? = _
      rw [getElem?_insert_port]
      by_cases here : port = port'
      · subst here
        by_cases own : other = tier
        · simp [own, PortTable.has_add_iff]
        · have silent := holds other port
          rw [found] at silent
          simp [own, Ne.symm own, silent]
      · by_cases own : other = tier
        · simp [own, PortTable.has_add_iff, here, holds tier port']
        · simp [own, here, holds other port']

end Layers

/-- The order in which the tables of sinks are asked. -/
def SinkTier.order : List SinkTier := [.fabric, .ring, .ringOverTile, .tube]

theorem SinkTier.mem_order (tier : SinkTier) : tier ∈ order := by
  cases tier <;> decide

/-- The order in which the tables of sources are asked. -/
def SourceTier.order : List SourceTier := [.ring, .tube]

theorem SourceTier.mem_order (tier : SourceTier) : tier ∈ order := by
  cases tier <;> decide

/-- Tables of ports for all tiers of sinks and of sources. -/
structure LayeredTables where
  sinks : Layers SinkTier
  sources : Layers SourceTier

namespace LayeredTables

def empty : LayeredTables := ⟨.empty, .empty⟩

def lookUp (layers : LayeredTables) (port : PrimitivePort) : Option SinkTier × Option SourceTier :=
  (layers.sinks.tier? SinkTier.order port, layers.sources.tier? SourceTier.order port)

/-- What an addition leaves, and whether it is refused. -/
def add (layers : LayeredTables) : PortAddition → LayeredTables × Except TierConflict Unit
  | .sink tier port =>
    let (sinks, answer) := layers.sinks.add SinkTier.order tier port
    ({ layers with sinks }, answer)
  | .source tier port =>
    let (sources, answer) := layers.sources.add SourceTier.order tier port
    ({ layers with sources }, answer)

/-- Adds ports one by one, up to the first that is refused. -/
def addEach : LayeredTables → List PortAddition → Except TierConflict LayeredTables
  | layers, [] => .ok layers
  | layers, addition :: rest =>
    match layers.add addition with
    | (_, .error conflict) => .error conflict
    | (layers, .ok ()) => addEach layers rest

def ofEntries (sinks : List (TierEntry SinkTier)) (sources : List (TierEntry SourceTier)) :
    Except TierConflict LayeredTables :=
  empty.addEach (PortAddition.ofEntries sinks sources)

/-- The tables of the tiers have the ports of those tiers. -/
structure Holds (layers : LayeredTables) (tables : ClockTables) : Prop where
  sinks : layers.sinks.Holds tables.sinks
  sources : layers.sources.Holds tables.sources

variable {layers : LayeredTables} {tables : ClockTables}

theorem holds_empty : empty.Holds .empty :=
  ⟨Layers.holds_empty, Layers.holds_empty⟩

theorem Holds.lookUp_eq (holds : layers.Holds tables) : layers.lookUp = tables.lookUp := by
  funext port
  rw [lookUp, holds.sinks.tier?_eq SinkTier.mem_order, holds.sources.tier?_eq SourceTier.mem_order]
  rfl

theorem Holds.add (holds : layers.Holds tables) (addition : PortAddition) :
    (layers.add addition).2 = (tables.add addition).map (fun _ => ()) ∧
      (layers.add addition).1.Holds (tables.after addition) := by
  cases addition with
  | sink tier port =>
      obtain ⟨answer, left⟩ := holds.sinks.add SinkTier.mem_order tier port
      rw [ClockTables.after_sink]
      refine ⟨answer.trans ?_, left, holds.sources⟩
      show _ = (tables.addSink tier port).map _
      unfold ClockTables.addSink
      cases addTier tables.sinks tier port <;> rfl
  | source tier port =>
      obtain ⟨answer, left⟩ := holds.sources.add SourceTier.mem_order tier port
      rw [ClockTables.after_source]
      refine ⟨answer.trans ?_, holds.sinks, left⟩
      show _ = (tables.addSource tier port).map _
      unfold ClockTables.addSource
      cases addTier tables.sources tier port <;> rfl

/-- Whatever is added to both, they are alike. -/
theorem Holds.foldl (holds : layers.Holds tables) (additions : List PortAddition) :
    (additions.foldl (fun layers addition => (layers.add addition).1) layers).Holds
      (additions.foldl ClockTables.after tables) := by
  induction additions generalizing layers tables with
  | nil => exact holds
  | cons addition rest ih => exact ih (holds.add addition).2

end LayeredTables

/-! ### Entries, port by port -/

namespace ClockTables

/-- Adds ports one by one, up to the first that is refused. -/
def addEach : ClockTables → List PortAddition → Except TierConflict ClockTables
  | tables, [] => .ok tables
  | tables, addition :: rest =>
    match tables.add addition with
    | .error conflict => .error conflict
    | .ok tables => addEach tables rest

theorem addEach_sinks (listed : List (SinkTier × PrimitivePort)) (rest : List PortAddition) :
    ∀ tables : ClockTables,
      tables.addEach (listed.map (fun (tier, port) => .sink tier port) ++ rest) =
        match addTiers tables.sinks listed with
        | .error conflict => .error conflict
        | .ok sinks => { tables with sinks }.addEach rest := by
  induction listed with
  | nil =>
      intro tables
      rfl
  | cons entry more ih =>
      obtain ⟨tier, port⟩ := entry
      intro tables
      simp only [List.map_cons, List.cons_append, addEach, add, addSink, addTiers]
      cases addTier tables.sinks tier port with
      | error conflict => rfl
      | ok sinks => exact ih { tables with sinks }

theorem addEach_sources (listed : List (SourceTier × PrimitivePort)) :
    ∀ tables : ClockTables, tables.addEach (listed.map fun (tier, port) => .source tier port) =
      match addTiers tables.sources listed with
      | .error conflict => .error conflict
      | .ok sources => .ok { tables with sources } := by
  induction listed with
  | nil =>
      intro tables
      rfl
  | cons entry more ih =>
      obtain ⟨tier, port⟩ := entry
      intro tables
      simp only [List.map_cons, addEach, add, addSource, addTiers]
      cases addTier tables.sources tier port with
      | error conflict => rfl
      | ok sources => exact ih { tables with sources }

/-- Entries are added port by port, sinks first. -/
theorem ofEntries_eq (sinks : List (TierEntry SinkTier)) (sources : List (TierEntry SourceTier)) :
    ofEntries sinks sources = empty.addEach (PortAddition.ofEntries sinks sources) := by
  rw [PortAddition.ofEntries, addEach_sinks, ofEntries, show empty.sinks = ∅ from rfl]
  cases addTiers ∅ (TierEntry.flatten sinks) with
  | error conflict => rfl
  | ok table => exact (addEach_sources (TierEntry.flatten sources) ⟨table, ∅⟩).symm

end ClockTables

namespace LayeredTables

variable {layers left : LayeredTables} {tables : ClockTables}

/-- What is refused changes none of the tables. -/
theorem add_of_refused {addition : PortAddition} {conflict : TierConflict}
    (refused : layers.add addition = (left, .error conflict)) : left = layers := by
  cases addition with
  | sink tier port =>
      simp only [add, Layers.add] at refused
      cases asked : layers.sinks.tier? SinkTier.order port with
      | none => simp [asked] at refused
      | some known =>
          simp only [asked, Prod.mk.injEq] at refused
          exact refused.1.symm
  | source tier port =>
      simp only [add, Layers.add] at refused
      cases asked : layers.sources.tier? SourceTier.order port with
      | none => simp [asked] at refused
      | some known =>
          simp only [asked, Prod.mk.injEq] at refused
          exact refused.1.symm

theorem Holds.addEach (additions : List PortAddition) :
    ∀ {layers : LayeredTables} {tables : ClockTables}, layers.Holds tables →
      (layers.addEach additions).map lookUp = (tables.addEach additions).map ClockTables.lookUp := by
  induction additions with
  | nil =>
      intro layers tables holds
      exact congrArg Except.ok holds.lookUp_eq
  | cons addition rest ih =>
      intro layers tables holds
      obtain ⟨answer, left⟩ := holds.add addition
      unfold ClockTables.after at left
      rw [LayeredTables.addEach, ClockTables.addEach]
      generalize layers.add addition = added at answer left
      obtain ⟨after, answered⟩ := added
      cases added : tables.add addition with
      | error conflict =>
          rw [added] at answer
          cases answer
          rfl
      | ok next =>
          rw [added] at answer left
          cases answer
          exact ih left

/-- Both ways of keeping the tables are refused or answer alike. -/
theorem map_lookUp_ofEntries (sinks : List (TierEntry SinkTier)) (sources : List (TierEntry SourceTier)) :
    (ofEntries sinks sources).map lookUp =
      (ClockTables.ofEntries sinks sources).map ClockTables.lookUp := by
  rw [ofEntries, ClockTables.ofEntries_eq]
  exact Holds.addEach _ holds_empty

end LayeredTables

/-! ### The whole -/

namespace ClockTables

/-- Tables made of entries are what the entries say, and so are tables that keep the tiers apart. -/
structure ListedExactly (sinks : List (TierEntry SinkTier)) (sources : List (TierEntry SourceTier)) :
    Prop where
  refused : (∃ conflict, ofEntries sinks sources = .error conflict) ↔
    ∃ port, TierEntry.Contested sinks port ∨ TierEntry.Contested sources port
  reported : ∀ conflict, ofEntries sinks sources = .error conflict →
    TierEntry.Contested sinks conflict.port ∨ TierEntry.Contested sources conflict.port
  listed : ∀ tables, ofEntries sinks sources = .ok tables → tables.HoldsExactly sinks sources
  reordered : ∀ sinks' sources', sinks.Perm sinks' → sources.Perm sources' →
    (ofEntries sinks' sources').toOption = (ofEntries sinks sources).toOption
  layered : (LayeredTables.ofEntries sinks sources).map LayeredTables.lookUp =
    (ofEntries sinks sources).map lookUp

/-- After some additions, refused or not, each port has the tier under which it was first added, also
where the tiers are kept apart; and what is refused next changes nothing. -/
structure AddedInTurn (additions : List PortAddition) (tables : ClockTables) (layers : LayeredTables) :
    Prop where
  first : ∀ port, tables.lookUp port =
    (additions.findSome? (·.sinkTier? port), additions.findSome? (·.sourceTier? port))
  layered : layers.lookUp = tables.lookUp
  refused : ∀ next, (layers.add next).2 = (tables.add next).map fun _ => ()
  unchanged : ∀ next conflict left, layers.add next = (left, .error conflict) →
    left.lookUp = layers.lookUp ∧ (tables.after next).lookUp = tables.lookUp

/-- **Clock tables are exactly what is listed.**  Entries are refused exactly when they list a port under
two tiers of sinks or under two tiers of sources, and otherwise a port has a tier exactly when it is listed
under it, in whatever order the entries come.  A single addition that is refused leaves all tiers as they
are. -/
theorem listed_exactly (sinks : List (TierEntry SinkTier)) (sources : List (TierEntry SourceTier))
    (additions : List PortAddition) :
    ListedExactly sinks sources ∧ AddedInTurn additions (additions.foldl after empty)
      (additions.foldl (fun layers addition => (layers.add addition).1) .empty) := by
  have holds := LayeredTables.holds_empty.foldl additions
  refine ⟨⟨exists_ofEntries_error_iff, fun conflict refused => ?_,
    fun tables made => ofEntries_eq_ok_iff.1 made, fun _ _ => toOption_ofEntries_perm,
    LayeredTables.map_lookUp_ofEntries sinks sources⟩, fun port => ?_, holds.lookUp_eq,
    fun next => (holds.add next).1, fun next conflict left refused => ?_⟩
  · rcases ofEntries_cases sinks sources with ⟨tables, made, _⟩ | ⟨own, refused', contested⟩
    · rw [made] at refused
      cases refused
    · cases refused.symm.trans refused'
      exact contested
  · have nowhere : empty.lookUp port = (none, none) := by
      simp [empty, lookUp, sinkTier?, sourceTier?]
    rw [lookUp_foldl_after, nowhere, Option.none_or, Option.none_or]
  · have same := LayeredTables.add_of_refused refused
    have after := (holds.add next).2
    rw [refused, same] at after
    exact ⟨congrArg LayeredTables.lookUp same, after.lookUp_eq.symm.trans holds.lookUp_eq⟩

end ClockTables

end UltraFabric
