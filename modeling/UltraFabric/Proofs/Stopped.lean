/-
# UltraFabric.Proofs.Stopped — a record that cannot be applied leaves nothing behind

A record is looked at in full before anything is written: its location, each of its choices, and whether
somebody else was assigned the location.  So a refused record hands on the plan as it has met it
(`applyRecord_refused`), and there is no half of a record.  When a list ends early, what is left is what
the records before the refused one come to when they are applied alone (`applyRecordsFrom_cases`,
`Plan.StopsAt`).

What records come to is limited as well.  A cell that no record calls is as it was, and one that a record
calls has other values of nine parameters and another bel to be on, each of them taken from a record that
calls it (`Cell.SetBy`).  A bank has another voltage only if a record names the bank, and it is one of
five.  All else of a plan is as it was, up to the names it has heard of (`Plan.ConfiguredBy`).
-/
import UltraFabric.Proofs.PadSites

namespace UltraFabric

set_option autoImplicit false

namespace PadRecord

/-! ### Parameters -/

/-- The parameters that records set. -/
def settingKeys : List Name :=
  ["location", "standard", "drive", "slewRate", "termination", "weakTermination", "inputDelayLine",
    "outputDelayLine", "differential"]

theorem key_of_mem_settings {record : PadRecord} {setting : String × Property}
    (member : setting ∈ record.settings) : setting.1 ∈ settingKeys := by
  rw [settings_eq, List.mem_cons, List.mem_append] at member
  rcases member with rfl | standard | other
  · simp [settingKeys]
  · simp [settingKeys, fst_of_mem_textSetting standard]
  · have listed := fst_of_mem_otherSettings other
    simp only [settingKeys, List.mem_cons] at listed ⊢
    exact Or.inr (Or.inr listed)

/-- A parameter keeps its value or gets one of those that are set. -/
theorem getElem?_setAll_cases (key : Name) (settings : List (String × Property)) :
    ∀ params : Std.ExtTreeMap Name Property, (setAll params settings)[key]? = params[key]? ∨
      ∃ value, (key, value) ∈ settings ∧ (setAll params settings)[key]? = some value := by
  induction settings with
  | nil => exact fun params => Or.inl rfl
  | cons setting rest ih =>
      intro params
      rcases ih (params.insert setting.1 setting.2) with same | ⟨value, member, found⟩
      · have once : (setAll params (setting :: rest))[key]? =
            (params.insert setting.1 setting.2)[key]? := same
        rw [once, Std.ExtTreeMap.getElem?_insert]
        by_cases here : setting.1 = key
        · subst here
          exact Or.inr ⟨setting.2, List.mem_cons_self, by simp⟩
        · exact Or.inl (by simp [here])
      · exact Or.inr ⟨value, List.mem_cons_of_mem _ member, found⟩

end PadRecord

/-! ### Cells -/

/-- All that some records can have made of a cell. -/
structure Cell.SetBy (pads : Std.ExtTreeMap String BelId) (records : List PadRecord)
    (cell after : Cell) : Prop where
  /-- Nothing else of a cell is set. -/
  frame : after = { cell with params := after.params, required := after.required }
  /-- A cell that is no pad, or one of another name, is not touched. -/
  uncalled : (∀ record ∈ records, record.concerns cell = false) → after = cell
  params : ∀ key, after.params[key]? = cell.params[key]? ∨
    ∃ record ∈ records, record.concerns cell = true ∧ key ∈ PadRecord.settingKeys ∧
      ∃ value, (key, value) ∈ record.settings ∧ after.params[key]? = some value
  required : after.required = cell.required ∨
    ∃ record ∈ records, record.concerns cell = true ∧
      ∃ bel, pads[record.location]? = some bel ∧ after.required = some bel

section Cells

variable {pads : Std.ExtTreeMap String BelId}

/-- One record. -/
theorem PadRecord.setBy_settle {record : PadRecord} {bel : BelId}
    (known : pads[record.location]? = some bel) (cell : Cell) :
    cell.SetBy pads [record] (record.settle bel cell) := by
  unfold settle
  split
  · rename_i called
    rw [applyTo_eq]
    refine ⟨rfl, fun uncalled => ?_, fun key => ?_, Or.inr ?_⟩
    · rw [uncalled record List.mem_cons_self] at called
      cases called
    · rcases getElem?_setAll_cases key record.settings cell.params with same | ⟨value, member, set⟩
      · exact Or.inl same
      · exact Or.inr ⟨record, List.mem_cons_self, called, key_of_mem_settings member, value, member,
          set⟩
    · exact ⟨record, List.mem_cons_self, called, bel, known, rfl⟩
  · exact ⟨rfl, fun _ => rfl, fun _ => Or.inl rfl, Or.inl rfl⟩

/-- Whom later records call is not changed by earlier ones. -/
theorem Cell.SetBy.trans {first later : List PadRecord} {cell between after : Cell}
    (done : cell.SetBy pads first between) (called : between.padCalled? = cell.padCalled?)
    (done' : between.SetBy pads later after) : cell.SetBy pads (first ++ later) after := by
  have same : ∀ record : PadRecord, record.concerns between = record.concerns cell := fun record => by
    rw [Bool.eq_iff_iff, PadRecord.concerns_iff, PadRecord.concerns_iff, called]
  refine ⟨?_, fun uncalled => ?_, fun key => ?_, ?_⟩
  · rw [done'.frame, done.frame]
  · obtain ⟨here, there⟩ := List.forall_mem_append.1 uncalled
    have untouched := done.uncalled here
    refine (done'.uncalled fun record member => ?_).trans untouched
    rw [same]
    exact there record member
  · rcases done'.params key with kept | ⟨record, member, calls, set⟩
    · rw [kept]
      rcases done.params key with kept' | ⟨record, member, calls, set⟩
      · exact Or.inl kept'
      · exact Or.inr ⟨record, List.mem_append_left _ member, calls, set⟩
    · rw [same] at calls
      exact Or.inr ⟨record, List.mem_append_right _ member, calls, set⟩
  · rcases done'.required with kept | ⟨record, member, calls, assigned⟩
    · rw [kept]
      rcases done.required with kept' | ⟨record, member, calls, assigned⟩
      · exact Or.inl kept'
      · exact Or.inr ⟨record, List.mem_append_left _ member, calls, assigned⟩
    · rw [same] at calls
      exact Or.inr ⟨record, List.mem_append_right _ member, calls, assigned⟩

/-- **What records make of a cell** is in their settings and locations. -/
theorem PadRecord.setBy_settleAll {records : List PadRecord}
    (known : ∀ record ∈ records, ∃ bel, pads[record.location]? = some bel) :
    ∀ cell : Cell, cell.SetBy pads records (settleAll pads records cell) := by
  induction records with
  | nil => exact fun cell => ⟨rfl, fun _ => rfl, fun _ => Or.inl rfl, Or.inl rfl⟩
  | cons record rest ih =>
      intro cell
      obtain ⟨⟨bel, here⟩, later⟩ := List.forall_mem_cons.1 known
      rw [settleAll_cons here]
      exact (setBy_settle here cell).trans (padCalled?_settle record bel cell) (ih later _)

end Cells

namespace ConfigRecord

/-- The locations that records claim, those of the last record first. -/
def claims : List ConfigRecord → List String
  | [] => []
  | record :: rest => claims rest ++ record.pads.map PadRecord.location

end ConfigRecord

open ConfigRecord (allPads)

namespace Plan

/-! ### Banks -/

/-- A record sets one bank at most, the one that it names. -/
theorem bankVoltage_applyRecord {plan after : Plan} {claimed claimed' : List String}
    {notices : List Notice} {record : ConfigRecord}
    (applied : plan.applyRecord claimed record = (after, notices, .ok claimed')) (bank : String) :
    after.fabric.bankVoltage[bank]? = plan.fabric.bankVoltage[bank]? ∨
      ∃ voltage, record = .bankVoltage bank voltage ∧ bank ∈ plan.fabric.tables.banks ∧
        ConfigRecord.givenVoltage voltage ∈ ConfigRecord.bankVoltages ∧
        after.fabric.bankVoltage[bank]? = some (ConfigRecord.givenVoltage voltage) := by
  rcases applyRecord_applied applied with ⟨named, voltage, rfl, known, allowed, rfl, -⟩ |
    ⟨_, _, _, -, -, -, rfl, -⟩
  · rw [setBank, Std.ExtTreeMap.getElem?_insert]
    by_cases here : named = bank
    · subst here
      exact Or.inr ⟨voltage, rfl, known, allowed, by simp⟩
    · exact Or.inl (by simp [here])
  · exact Or.inl rfl

/-! ### Plans -/

/-- A plan with other names, voltages of banks and cells. -/
def reconfigured (plan : Plan) (lexicon : Lexicon) (bankVoltage : Std.ExtTreeMap String String)
    (cells : Std.ExtTreeMap Name Cell) : Plan where
  lexicon := lexicon
  fabric := { plan.fabric with bankVoltage }
  layout := { plan.layout with netlist := { plan.layout.netlist with cells } }

/-- All that some records can have made of a plan. -/
structure ConfiguredBy (before : Plan) (records : List ConfigRecord) (after : Plan) : Prop where
  frame : ∃ lexicon bankVoltage cells, after = before.reconfigured lexicon bankVoltage cells
  absent : ∀ name, before.cell? name = none → after.cell? name = none
  cells : ∀ name cell, before.cell? name = some cell → ∃ cell', after.cell? name = some cell' ∧
    cell.SetBy before.fabric.tables.pads (allPads records) cell'
  banks : ∀ bank : String, after.fabric.bankVoltage[bank]? = before.fabric.bankVoltage[bank]? ∨
    ∃ voltage, ConfigRecord.bankVoltage bank voltage ∈ records ∧ bank ∈ before.fabric.tables.banks ∧
      ConfigRecord.givenVoltage voltage ∈ ConfigRecord.bankVoltages ∧
      after.fabric.bankVoltage[bank]? = some (ConfigRecord.givenVoltage voltage)

theorem reconfigured_applyRecord {plan between after : Plan} {claimed claimed' : List String}
    {notices : List Notice} {record : ConfigRecord}
    (before : ∃ lexicon bankVoltage cells, between = plan.reconfigured lexicon bankVoltage cells)
    (applied : between.applyRecord claimed record = (after, notices, .ok claimed')) :
    ∃ lexicon bankVoltage cells, after = plan.reconfigured lexicon bankVoltage cells := by
  obtain ⟨_, _, _, rfl⟩ := before
  rcases applyRecord_applied applied with ⟨_, _, -, -, -, rfl, -⟩ | ⟨_, _, _, -, -, -, rfl, -⟩
  · exact ⟨_, _, _, rfl⟩
  · exact ⟨_, _, _, rfl⟩

/-- What a list of records has done that was applied to its end. -/
theorem configuredBy_of_applyRecords {plan : Plan} {records : List ConfigRecord}
    (applied : (plan.applyRecords records).2.2 = .ok ()) :
    plan.ConfiguredBy records (plan.applyRecords records).1 := by
  have settled := settledBy_of_applyRecordsFrom records plan [] [] applied
  refine ⟨?_, fun name missing => ?_, fun name cell found => ?_, fun bank => ?_⟩
  · exact applyRecordsFrom_keeps records
      (fun _ _ _ _ _ _ _ kept applied => reconfigured_applyRecord kept applied)
      plan [] [] ⟨plan.lexicon, plan.fabric.bankVoltage, plan.layout.netlist.cells, rfl⟩
  · exact (settled.cells name).trans (by rw [missing, Option.map_none])
  · exact ⟨_, (settled.cells name).trans (by rw [found, Option.map_some]),
      PadRecord.setBy_settleAll settled.known cell⟩
  · -- The tables stay, so that every record meets the same banks.
    refine (@applyRecordsFrom_keeps (fun after =>
      after.fabric.tables = plan.fabric.tables ∧
        (after.fabric.bankVoltage[bank]? = plan.fabric.bankVoltage[bank]? ∨
          ∃ voltage, ConfigRecord.bankVoltage bank voltage ∈ records ∧
            bank ∈ plan.fabric.tables.banks ∧
            ConfigRecord.givenVoltage voltage ∈ ConfigRecord.bankVoltages ∧
            after.fabric.bankVoltage[bank]? = some (ConfigRecord.givenVoltage voltage)))
      records ?_ plan [] [] ⟨rfl, Or.inl rfl⟩).2
    rintro record member between after claimed claimed' notices ⟨tables, before⟩ applied
    refine ⟨(keepsPlaces_applyRecord applied).tables.trans tables, ?_⟩
    rcases bankVoltage_applyRecord applied bank with same | ⟨voltage, rfl, known, allowed, set⟩
    · rw [same]
      exact before
    · rw [tables] at known
      exact Or.inr ⟨voltage, member, known, allowed, set⟩

/-! ### The record that is refused -/

/-- A list is applied to its end, or up to a record that is refused where it stands and hands on the plan
that it has met. -/
theorem applyRecordsFrom_cases (records : List ConfigRecord) :
    ∀ (plan : Plan) (claimed : List String) (notices : List Notice),
      (plan.applyRecordsFrom claimed notices records).2.2 = .ok () ∨
      ∃ k record error after notices', records[k]? = some record ∧
        plan.applyRecordsFrom claimed notices (records.take k) = (after, notices', .ok ()) ∧
        after.applyRecord (ConfigRecord.claims (records.take k) ++ claimed) record =
          (after, [], .error error) ∧
        plan.applyRecordsFrom claimed notices records = (after, notices', .error error) := by
  induction records with
  | nil => exact fun plan claimed notices => Or.inl rfl
  | cons record rest ih =>
      intro plan claimed notices
      obtain ⟨⟨between, more, answer⟩, here⟩ : ∃ left, plan.applyRecord claimed record = left := ⟨_, rfl⟩
      cases answer with
      | error error =>
          obtain ⟨rfl, rfl⟩ := applyRecord_refused here
          refine Or.inr ⟨0, record, error, between, notices, rfl, rfl, here, ?_⟩
          rw [applyRecordsFrom, here]
          simp only [List.append_nil]
      | ok claimed' =>
          have step : ∀ others, plan.applyRecordsFrom claimed notices (record :: others) =
              between.applyRecordsFrom claimed' (notices ++ more) others := fun others => by
            rw [applyRecordsFrom, here]
          obtain ⟨_, rfl⟩ := settledBy_of_applyRecord here
          rcases ih between _ (notices ++ more) with ended | ⟨k, other, error, after, notices', there,
            applied, refused, stopped⟩
          · exact Or.inl (by rw [step]; exact ended)
          · refine Or.inr ⟨k + 1, other, error, after, notices', there, ?_, ?_, ?_⟩
            · rw [List.take_succ_cons, step]
              exact applied
            · rw [List.take_succ_cons, ConfigRecord.claims, List.append_assoc]
              exact refused
            · rw [step]
              exact stopped

/-- The records before the `k`-th are applied and the `k`-th is refused; what is left is what they come
to alone. -/
structure StopsAt (plan : Plan) (records : List ConfigRecord) (k : Nat) (error : RecordError) :
    Prop where
  applied : (plan.applyRecords (records.take k)).2.2 = .ok ()
  /-- The refused record meets the plan that the records before it have left, and the plan that it hands
  on is the one that is there in the end. -/
  refused : ∃ record, records[k]? = some record ∧
    (plan.applyRecords (records.take k)).1.applyRecord (ConfigRecord.claims (records.take k)) record =
      ((plan.applyRecords records).1, [], .error error)
  left : (plan.applyRecords records).1 = (plan.applyRecords (records.take k)).1
  noted : (plan.applyRecords records).2.1 = (plan.applyRecords (records.take k)).2.1
  /-- Nobody has anything from the refused record or a later one. -/
  configured : plan.ConfiguredBy (records.take k) (plan.applyRecords records).1

/-- **A record that cannot be applied changes nothing.**  Whatever the plan and the records, the list is
applied to its end, or it stops at a record that is refused and leaves exactly the plan, and the notices,
that the records before that one leave when they are applied alone.  In either case only pads that an
applied record calls are changed, and of them only the parameters that such a record sets and the bel that
they have to be on; only banks that an applied record names have another voltage. -/
theorem applyRecords_stops_clean (plan : Plan) (records : List ConfigRecord) :
    ((plan.applyRecords records).2.2 = .ok () →
      plan.ConfiguredBy records (plan.applyRecords records).1) ∧
    ∀ error, (plan.applyRecords records).2.2 = .error error →
      ∃ k, plan.StopsAt records k error := by
  refine ⟨configuredBy_of_applyRecords, fun error failed => ?_⟩
  rcases applyRecordsFrom_cases records plan [] [] with ended | ⟨k, record, error', after, notices, there,
    applied, refused, stopped⟩
  · rw [applyRecords, ended] at failed
    cases failed
  · have whole : plan.applyRecords records = (after, notices, .error error') := stopped
    have first : plan.applyRecords (records.take k) = (after, notices, .ok ()) := applied
    rw [whole] at failed
    cases failed
    rw [List.append_nil] at refused
    have ended : (plan.applyRecords (records.take k)).2.2 = .ok () := by rw [first]
    have left : (plan.applyRecords records).1 = (plan.applyRecords (records.take k)).1 := by
      rw [whole, first]
    refine ⟨k, ended, ⟨record, there, ?_⟩, left, ?_, ?_⟩
    · rw [whole, first]
      exact refused
    · rw [whole, first]
    · rw [left]
      exact configuredBy_of_applyRecords ended

end Plan

/-! ### A sample: the second record asks for a drive that there is not -/

namespace RefusedSample

open TwinSample (strangers plan assign)

/-- A voltage and a pad that can be set, and a pad whose drive is none of those allowed. -/
def records : List ConfigRecord :=
  [.bankVoltage "IOB0" "3.3", assign "in" "IOB0_P1",
    .padLocation ⟨"out", "IOB0_P0", some "LVCMOS_3.3V", some "3mA", none, none, none, none, none, none⟩]

theorem refused_drive : ((plan strangers).applyRecords records).2.2 =
    .error (.invalidChoice "drive" "3mA" ConfigRecord.drives) := by
  with_unfolding_all rfl

/-- The first two records stand, and nothing of the third: the pad called "out" has no standard and need
not be anywhere. -/
theorem stops_at_drive :
    (∃ k, (plan strangers).StopsAt records k (.invalidChoice "drive" "3mA" ConfigRecord.drives)) ∧
    ((plan strangers).applyRecords records).1.fabric.bankVoltage["IOB0"]? = some "3.3V" ∧
    (((plan strangers).applyRecords records).1.cell? "a").map Cell.required = some (some ⟨0, 1⟩) ∧
    (((plan strangers).applyRecords records).1.cell? "b").map (fun cell =>
      (cell.required, cell.params["standard"]?)) = some (none, none) :=
  ⟨(Plan.applyRecords_stops_clean (plan strangers) records).2 _ refused_drive,
    by with_unfolding_all rfl, by with_unfolding_all rfl, by with_unfolding_all rfl⟩

end RefusedSample

end UltraFabric
