/-
# UltraFabric.Proofs.PadSites — where records want the pads

A record names pads by a text (`Cell.padCalled?`) and assigns them to a location.  A list of records
assigns a location once at most, and a location is one pad bel (`Tables.padName_of_padsOf`), so two
records never want the same bel.

What cells have to be on follows from that.  No record changes what a pad is called
(`padCalled?_settle`), so each pad is wanted by those records that call its name, and the last of them
stands (`required_settleAll`).  Two cells are wanted on one bel exactly when one record calls both of
them (`shared_iff`).

Nothing keeps two pads from being called the same.  The records are applied all the same, and both pads
have to be on one bel (`TwinSample.twins_share`); `apart_iff` is the exact condition under which no two
have to.
-/
import UltraFabric.Proofs.Requirements

namespace UltraFabric

set_option autoImplicit false

/-- The name by which records know a pad. -/
def Cell.padCalled? (cell : Cell) : Option String :=
  if Primitive.isPad cell.type then cell.params["iobname"]?.map Property.asText else none

namespace PadRecord

/-- A record is about the pads that have its name. -/
theorem concerns_iff {record : PadRecord} {cell : Cell} :
    record.concerns cell = true ↔ cell.padCalled? = some record.pad := by
  unfold concerns Cell.padCalled?
  cases Primitive.isPad cell.type with
  | false => simp
  | true => cases cell.params["iobname"]? <;> simp

/-- No record renames a pad. -/
theorem padCalled?_settle (record : PadRecord) (bel : BelId) (cell : Cell) :
    (record.settle bel cell).padCalled? = cell.padCalled? := by
  unfold settle
  split
  · have name := record.getElem?_settings_of_other "iobname" (by decide) cell.params
    rw [applyTo_eq, Cell.padCalled?, Cell.padCalled?, name]
  · rfl

theorem required_settle (record : PadRecord) (bel : BelId) (cell : Cell) :
    (record.settle bel cell).required =
      if cell.padCalled? = some record.pad then some bel else cell.required := by
  unfold settle
  by_cases called : cell.padCalled? = some record.pad
  · rw [if_pos (concerns_iff.2 called), if_pos called, applyTo_eq]
  · rw [if_neg (mt concerns_iff.1 called), if_neg called]

/-- The last record that calls a name. -/
def last? (records : List PadRecord) (pad : String) : Option PadRecord :=
  (records.filter (·.pad = pad)).getLast?

theorem last?_cons (record : PadRecord) (rest : List PadRecord) (pad : String) :
    last? (record :: rest) pad =
      (last? rest pad).or (if record.pad = pad then some record else none) := by
  unfold last?
  by_cases called : record.pad = pad
  · cases later : (rest.filter (·.pad = pad)).getLast? <;>
      simp [called, List.getLast?_cons, later]
  · simp [called]

theorem mem_of_last? {records : List PadRecord} {pad : String} {record : PadRecord}
    (last : last? records pad = some record) : record ∈ records ∧ record.pad = pad := by
  have member := List.mem_of_getLast? last
  exact ⟨(List.mem_filter.1 member).1, of_decide_eq_true (List.mem_filter.1 member).2⟩

theorem exists_last?_iff {records : List PadRecord} {pad : String} :
    (∃ record, last? records pad = some record) ↔ ∃ record ∈ records, record.pad = pad := by
  constructor
  · rintro ⟨record, last⟩
    exact ⟨record, mem_of_last? last⟩
  · rintro ⟨record, member, called⟩
    have listed : record ∈ records.filter (·.pad = pad) :=
      List.mem_filter.2 ⟨member, decide_eq_true called⟩
    exact Option.isSome_iff_exists.1 (List.getLast?_isSome.2 (List.ne_nil_of_mem listed))

/-! ### A cell after a list of records -/

section Settling

variable {pads : Std.ExtTreeMap String BelId} {records : List PadRecord}

/-- A cell after some records, in their order. -/
def settleAll (pads : Std.ExtTreeMap String BelId) (records : List PadRecord) (cell : Cell) : Cell :=
  records.foldl (fun cell record => pads[record.location]?.elim cell (record.settle · cell)) cell

theorem settleAll_cons {record : PadRecord} {bel : BelId}
    (known : pads[record.location]? = some bel) (cell : Cell) :
    settleAll pads (record :: records) cell = settleAll pads records (record.settle bel cell) := by
  rw [settleAll, List.foldl_cons, known]
  rfl

/-- The bel of the last record that calls a cell. -/
def site? (pads : Std.ExtTreeMap String BelId) (records : List PadRecord) (cell : Cell) :
    Option BelId :=
  (cell.padCalled?.bind (last? records)).bind fun record => pads[record.location]?

/-- **The last record stands.**  Where no record calls a cell, it has to be where it had to be. -/
theorem required_settleAll (known : ∀ record ∈ records, ∃ bel, pads[record.location]? = some bel) :
    ∀ cell : Cell,
      (settleAll pads records cell).required = (site? pads records cell).or cell.required := by
  induction records with
  | nil =>
      intro cell
      cases called : cell.padCalled? <;> simp [settleAll, site?, called, last?]
  | cons record rest ih =>
      intro cell
      obtain ⟨⟨bel, here⟩, later⟩ := List.forall_mem_cons.1 known
      rw [settleAll_cons here, ih later, site?, site?, padCalled?_settle, required_settle]
      cases called : cell.padCalled? with
      | none => simp
      | some pad =>
          simp only [Option.bind_some, last?_cons, Option.some.injEq]
          cases last : last? rest pad with
          | none =>
              by_cases own : record.pad = pad
              · simp [own, here]
              · simp [own, Ne.symm own]
          | some final =>
              -- A later record that calls the cell leads somewhere, and hides this one.
              obtain ⟨bel', there⟩ := later final (mem_of_last? last).1
              simp [there]

end Settling

end PadRecord

/-! ### Locations -/

namespace ConfigRecord

/-- What a record says of pads. -/
def pads : ConfigRecord → List PadRecord
  | .bankVoltage _ _ => []
  | .padLocation record => [record]

/-- What a list of records says of pads. -/
def allPads (records : List ConfigRecord) : List PadRecord :=
  records.flatMap pads

end ConfigRecord

open ConfigRecord (pads allPads)

namespace Plan

/-- No bel has two locations. -/
theorem Prepared.location_unique {plan : Plan} (prepared : plan.Prepared) {location other : String}
    {bel : BelId} (here : plan.fabric.tables.pads[location]? = some bel)
    (there : plan.fabric.tables.pads[other]? = some bel) : location = other := by
  obtain ⟨buffers, _, tables⟩ := prepared
  rw [tables] at here there
  obtain ⟨info, found, named⟩ := Tables.padName_of_padsOf here
  obtain ⟨info', found', named'⟩ := Tables.padName_of_padsOf there
  cases found.symm.trans found'
  exact named.symm.trans named'

/-! ### What an applied list has done -/

/-- All that a list of records does to pads when it is applied to its end, and what that takes: known
locations, each of them assigned once, and none that was claimed before. -/
structure SettledBy (plan : Plan) (claimed : List String) (records : List PadRecord)
    (after : Plan) : Prop where
  tables : after.fabric.tables = plan.fabric.tables
  known : ∀ record ∈ records, ∃ bel, plan.fabric.tables.pads[record.location]? = some bel
  unclaimed : ∀ record ∈ records, record.location ∉ claimed
  distinct : (records.map PadRecord.location).Nodup
  cells : ∀ name, after.cell? name =
    (plan.cell? name).map (PadRecord.settleAll plan.fabric.tables.pads records)

/-- What changes neither cells nor tables settles nothing. -/
theorem settledBy_nil {plan after : Plan} (claimed : List String)
    (tables : after.fabric.tables = plan.fabric.tables) (cells : after.cell? = plan.cell?) :
    plan.SettledBy claimed [] after where
  tables := tables
  known := by simp
  unclaimed := by simp
  distinct := List.nodup_nil
  cells name := by
    rw [cells]
    cases plan.cell? name <;> rfl

theorem SettledBy.append {before between after : Plan} {claimed : List String}
    {first second : List PadRecord} (done : before.SettledBy claimed first between)
    (done' : between.SettledBy (first.map PadRecord.location ++ claimed) second after) :
    before.SettledBy claimed (first ++ second) after where
  tables := done'.tables.trans done.tables
  known := by
    have later := done'.known
    rw [done.tables] at later
    exact List.forall_mem_append.2 ⟨done.known, later⟩
  unclaimed := by
    refine List.forall_mem_append.2 ⟨done.unclaimed, fun record member here => ?_⟩
    exact done'.unclaimed record member (List.mem_append_right _ here)
  distinct := by
    rw [List.map_append, List.nodup_append]
    refine ⟨done.distinct, done'.distinct, ?_⟩
    rintro location here _ there rfl
    obtain ⟨record, member, rfl⟩ := List.mem_map.1 there
    exact done'.unclaimed record member (List.mem_append_left _ here)
  cells name := by
    rw [done'.cells, done.cells, done.tables, Option.map_map]
    congr 1
    funext cell
    exact List.foldl_append.symm

/-- One record that has been applied. -/
theorem settledBy_of_applyRecord {plan after : Plan} {claimed claimed' : List String}
    {notices : List Notice} {record : ConfigRecord}
    (applied : plan.applyRecord claimed record = (after, notices, .ok claimed')) :
    plan.SettledBy claimed record.pads after ∧
      claimed' = record.pads.map PadRecord.location ++ claimed := by
  rcases applyRecord_applied applied with ⟨bank, voltage, rfl, -, -, rfl, rfl⟩ |
    ⟨pads, bel, lexicon, rfl, free, known, rfl, rfl⟩
  · exact ⟨settledBy_nil _ rfl rfl, rfl⟩
  · refine ⟨⟨rfl, ?_, ?_, List.nodup_singleton _, fun name => ?_⟩, rfl⟩
    · exact List.forall_mem_singleton.2 ⟨bel, known⟩
    · exact List.forall_mem_singleton.2 free
    · refine (cell?_setPads plan pads bel name).trans ?_
      congr 1
      funext cell
      exact (@PadRecord.settleAll_cons _ [] _ _ known cell).symm

/-- A list of records that has been applied to its end. -/
theorem settledBy_of_applyRecordsFrom (records : List ConfigRecord) :
    ∀ (plan : Plan) (claimed : List String) (notices : List Notice),
      (plan.applyRecordsFrom claimed notices records).2.2 = .ok () →
        plan.SettledBy claimed (allPads records)
          (plan.applyRecordsFrom claimed notices records).1 := by
  induction records with
  | nil =>
      intro plan claimed notices _
      exact settledBy_nil claimed rfl rfl
  | cons record rest ih =>
      intro plan claimed notices applied
      rw [applyRecordsFrom] at applied ⊢
      split at applied
      · cases applied
      · rename_i between claimed' more here
        obtain ⟨first, rfl⟩ := settledBy_of_applyRecord here
        have joined : allPads (record :: rest) = record.pads ++ allPads rest := List.flatMap_cons
        rw [joined]
        exact first.append (ih between _ _ applied)

/-! ### Who has to be where -/

/-- A cell is a pad of some name. -/
def CalledPad (plan : Plan) (name : Name) (pad : String) : Prop :=
  ∃ cell, plan.cell? name = some cell ∧ cell.padCalled? = some pad

/-- No record calls two cells. -/
def CalledApart (plan : Plan) (records : List PadRecord) : Prop :=
  ∀ record ∈ records, ∀ name other,
    plan.CalledPad name record.pad → plan.CalledPad other record.pad → name = other

/-- Records never call two cells when pads have names of their own. -/
theorem calledApart_of_nodup {plan : Plan} (named : plan.layout.netlist.Named)
    (own : (plan.layout.netlist.cellList.filterMap Cell.padCalled?).Nodup)
    (records : List PadRecord) : plan.CalledApart records := by
  rintro record _ name other ⟨cell, found, called⟩ ⟨cell', found', called'⟩
  have apart := List.pairwise_filterMap.1 own
  have : Std.Symm fun a b : Cell =>
      ∀ pad, a.padCalled? = some pad → ∀ pad', b.padCalled? = some pad' → pad ≠ pad' :=
    ⟨fun a b distinct pad here pad' there => (distinct pad' there pad here).symm⟩
  cases named name cell found
  cases named other cell' found'
  refine Decidable.byContradiction fun different => ?_
  have unlike : cell ≠ cell' := fun same => different (congrArg Cell.name same)
  exact apart.forall (named.mem_cellList_iff.2 found) (named.mem_cellList_iff.2 found') unlike
    record.pad called record.pad called' rfl

/-- What the pads of a plan have to be on, after a list of records that calls them. -/
structure Sited (plan : Plan) (records : List PadRecord) (after : Plan) : Prop where
  /-- A cell has to be on the bel of the last record that calls it. -/
  required_iff : ∀ name bel, after.Required name bel ↔
    ∃ pad record, plan.CalledPad name pad ∧ PadRecord.last? records pad = some record ∧
      plan.fabric.tables.pads[record.location]? = some bel
  /-- Two cells have to be on one bel when a record calls both. -/
  shared_iff : ∀ name other, (∃ bel, after.Required name bel ∧ after.Required other bel) ↔
    ∃ record ∈ records, plan.CalledPad name record.pad ∧ plan.CalledPad other record.pad
  /-- No two cells have to be on one bel as long as no record calls two. -/
  apart_iff : (∀ name other bel, after.Required name bel → after.Required other bel →
    name = other) ↔ plan.CalledApart records

section Sites

variable {plan after : Plan} {records : List PadRecord}

theorem SettledBy.required_iff (settled : plan.SettledBy [] records after)
    (free : ∀ name bel, ¬ plan.Required name bel) (name : Name) (bel : BelId) :
    after.Required name bel ↔
      ∃ pad record, plan.CalledPad name pad ∧ PadRecord.last? records pad = some record ∧
        plan.fabric.tables.pads[record.location]? = some bel := by
  unfold Required
  rw [settled.cells]
  cases found : plan.cell? name with
  | none => simp [CalledPad, found]
  | some cell =>
      have unrequired : cell.required = none := by
        cases required : cell.required with
        | none => rfl
        | some bel => exact absurd ⟨cell, found, required⟩ (free name bel)
      simp only [Option.map_some, Option.some.injEq, exists_eq_left',
        PadRecord.required_settleAll settled.known, unrequired, Option.or_none, CalledPad, found,
        PadRecord.site?, Option.bind_eq_some_iff]
      constructor
      · rintro ⟨record, ⟨pad, called, last⟩, known⟩
        exact ⟨pad, record, called, last, known⟩
      · rintro ⟨pad, record, called, last, known⟩
        exact ⟨record, ⟨pad, called, last⟩, known⟩

theorem SettledBy.shared_iff (settled : plan.SettledBy [] records after)
    (prepared : plan.Prepared) (free : ∀ name bel, ¬ plan.Required name bel) (name other : Name) :
    (∃ bel, after.Required name bel ∧ after.Required other bel) ↔
      ∃ record ∈ records, plan.CalledPad name record.pad ∧ plan.CalledPad other record.pad := by
  simp only [settled.required_iff free]
  constructor
  · rintro ⟨bel, ⟨pad, record, called, last, here⟩, ⟨pad', record', called', last', there⟩⟩
    obtain ⟨member, rfl⟩ := PadRecord.mem_of_last? last
    obtain ⟨member', rfl⟩ := PadRecord.mem_of_last? last'
    -- Both records lead to one bel, so they have one location, and that is assigned once.
    have same : record = record' := List.inj_on_of_nodup_map settled.distinct member member'
      (prepared.location_unique here there)
    cases same
    exact ⟨record, member, called, called'⟩
  · rintro ⟨record, member, called, called'⟩
    obtain ⟨final, last⟩ := PadRecord.exists_last?_iff.2 ⟨record, member, rfl⟩
    obtain ⟨bel, known⟩ := settled.known final (PadRecord.mem_of_last? last).1
    exact ⟨bel, ⟨_, final, called, last, known⟩, ⟨_, final, called', last, known⟩⟩

end Sites

/-- **Two pads have to be on one bel exactly when a record calls both**, whatever the netlist and the
records, if all of them can be applied and no cell had to be anywhere before. -/
theorem sited_of_records {device : Device} {netlist : Netlist} {plan : Plan}
    (reachable : Reachable device netlist plan) (free : ∀ name bel, ¬ plan.Required name bel)
    {records : List ConfigRecord} (applied : (plan.applyRecords records).2.2 = .ok ()) :
    plan.Sited (allPads records) (plan.applyRecords records).1 := by
  have settled := settledBy_of_applyRecordsFrom records plan [] [] applied
  have shared := settled.shared_iff reachable.invariant.2 free
  refine ⟨settled.required_iff free, shared, ?_⟩
  constructor
  · intro apart record member name other called called'
    obtain ⟨bel, here, there⟩ := (shared name other).2 ⟨record, member, called, called'⟩
    exact apart name other bel here there
  · intro apart name other bel here there
    obtain ⟨record, member, called, called'⟩ := (shared name other).1 ⟨bel, here, there⟩
    exact apart record member name other called called'

end Plan

/-! ### A sample: two pads, with names of their own or with one name -/

namespace TwinSample

open Sample (device fabric)
open RequiredSample (netlist named)

def pad (name called : String) : Cell :=
  { Cell.bare name "IOP" with
    params := (∅ : Std.ExtTreeMap Name Property).insert "iobname" (.text called) }

/-- Two pads of different names. -/
def strangers : List Cell :=
  [pad "a" "in", pad "b" "out"]

/-- Two pads of one name. -/
def twins : List Cell :=
  [pad "a" "io", pad "b" "io"]

def layout (cells : List Cell) : Layout :=
  match Layout.ofNetlist device (netlist cells) with
  | .ok layout => layout
  | .error _ => ⟨device, netlist cells, ∅, ∅, ∅⟩

def plan (cells : List Cell) : Plan :=
  (Plan.mk .fresh fabric (layout cells)).setUp.1

theorem started {cells : List Cell}
    (placed : Layout.ofNetlist device (netlist cells) = .ok (layout cells)) :
    Plan.Started device (netlist cells) (plan cells) :=
  .of_built (named cells) placed Sample.built .fresh fabric

theorem started_strangers : Plan.Started device (netlist strangers) (plan strangers) :=
  started (by rfl)

theorem started_twins : Plan.Started device (netlist twins) (plan twins) :=
  started (by rfl)

/-- A record that assigns the pads of a name to a location, and sets nothing else. -/
def assign (pad location : String) : ConfigRecord :=
  .padLocation ⟨pad, location, none, none, none, none, none, none, none, none⟩

/-- The name "in" is assigned, then "out". -/
def both : List ConfigRecord :=
  [assign "in" "IOB0_P1", assign "out" "IOB0_P0"]

theorem applied_both : ((plan strangers).applyRecords both).2.2 = .ok () := by
  with_unfolding_all rfl

theorem applied_io : ((plan twins).applyRecords [assign "io" "IOB0_P0"]).2.2 = .ok () := by
  with_unfolding_all rfl

theorem free_of_requirements {cells : List Cell}
    (started : Plan.Started device (netlist cells) (plan cells))
    (none : (plan cells).requirements = []) (name : Name) (bel : BelId) :
    ¬ (plan cells).Required name bel := by
  intro required
  obtain ⟨_, member⟩ := (Plan.required_iff started.consistent.agree.named).1 required
  rw [none] at member
  cases member

theorem free_strangers : ∀ name bel, ¬ (plan strangers).Required name bel :=
  free_of_requirements started_strangers (by with_unfolding_all rfl)

theorem free_twins : ∀ name bel, ¬ (plan twins).Required name bel :=
  free_of_requirements started_twins (by with_unfolding_all rfl)

theorem calledApart_strangers : (plan strangers).CalledApart (allPads both) :=
  Plan.calledApart_of_nodup started_strangers.consistent.agree.named (by decide +kernel) _

/-- Pads of different names have to be on different bels. -/
theorem strangers_apart :
    Plan.Reachable device (netlist strangers) (plan strangers) ∧
      (∀ name bel, ¬ (plan strangers).Required name bel) ∧
      ((plan strangers).applyRecords both).2.2 = .ok () ∧
      ∀ name other bel, ((plan strangers).applyRecords both).1.Required name bel →
        ((plan strangers).applyRecords both).1.Required other bel → name = other := by
  have sited := Plan.sited_of_records (.started started_strangers) free_strangers applied_both
  exact ⟨.started started_strangers, free_strangers, applied_both,
    sited.apart_iff.2 calledApart_strangers⟩

/-- Pads of one name have to be on one bel, although the location is assigned only once. -/
theorem twins_share :
    Plan.Reachable device (netlist twins) (plan twins) ∧
      (∀ name bel, ¬ (plan twins).Required name bel) ∧
      ((plan twins).applyRecords [assign "io" "IOB0_P0"]).2.2 = .ok () ∧
      ((plan twins).applyRecords [assign "io" "IOB0_P0"]).1.Required "a" ⟨0, 0⟩ ∧
      ((plan twins).applyRecords [assign "io" "IOB0_P0"]).1.Required "b" ⟨0, 0⟩ :=
  ⟨.started started_twins, free_twins, applied_io,
    Option.bind_eq_some_iff.1 (by with_unfolding_all rfl),
    Option.bind_eq_some_iff.1 (by with_unfolding_all rfl)⟩

end TwinSample

end UltraFabric
