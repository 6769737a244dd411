/-
# UltraFabric.Proofs.Records — what records change

A record sets the voltage of a bank, or parameters and the required bel of pads; one that is refused
hands on the plan as it has met it, because everything is checked before anything is written
(`applyRecord_cases`).  It moves no cell and does not touch the counts (`keepsPlaces_applyRecords`),
whether or not the list it is part of is applied to its end.

What a record can change is the voltage that a placed pad imposes.  `imposedVoltage?_applyTo` says
how: the voltage follows the standard of the record, unless the record has none or the pad names its
voltage itself.
-/
import UltraFabric.ConfigRecord
import UltraFabric.Proofs.Occupancy

namespace UltraFabric

set_option autoImplicit false

namespace PadRecord

/-- Parameters set one after the other; the last value of a name stands. -/
def setAll (params : Std.ExtTreeMap Name Property) (settings : List (String × Property)) :
    Std.ExtTreeMap Name Property :=
  settings.foldl (fun params setting => params.insert setting.1 setting.2) params

theorem foldl_setParam (settings : List (String × Property)) :
    ∀ cell : Cell, settings.foldl (fun cell (key, value) => cell.setParam key value) cell =
      { cell with params := setAll cell.params settings } := by
  induction settings with
  | nil =>
      intro cell
      rfl
  | cons setting rest ih =>
      intro cell
      exact ih (cell.setParam setting.1 setting.2)

theorem applyTo_eq (record : PadRecord) (bel : BelId) (cell : Cell) :
    record.applyTo bel cell = { cell with
      params := setAll cell.params record.settings
      required := some bel } := by
  rw [applyTo, foldl_setParam]

/-- A cell after a record that may be about it. -/
def settle (record : PadRecord) (bel : BelId) (cell : Cell) : Cell :=
  if record.concerns cell then record.applyTo bel cell else cell

theorem unset_settle (record : PadRecord) (bel : BelId) (cell : Cell) :
    Plan.unset (record.settle bel cell) = Plan.unset cell := by
  unfold settle
  split
  · rw [applyTo_eq]
    rfl
  · rfl

/-! ### Voltages -/

theorem getElem?_setAll_of_absent {key : Name} (settings : List (String × Property))
    (absent : ∀ setting ∈ settings, setting.1 ≠ key) :
    ∀ params : Std.ExtTreeMap Name Property, (setAll params settings)[key]? = params[key]? := by
  induction settings with
  | nil =>
      intro params
      rfl
  | cons setting rest ih =>
      intro params
      have here : ¬ setting.1 = key := absent setting List.mem_cons_self
      have later := ih (fun other member => absent other (List.mem_cons_of_mem _ member))
        (params.insert setting.1 setting.2)
      refine Eq.trans later ?_
      simp [Std.ExtTreeMap.getElem?_insert, here]

theorem fst_of_mem_textSetting {key : String} {value : Option String}
    {setting : String × Property} (member : setting ∈ textSetting key value) : setting.1 = key := by
  cases value with
  | none => cases member
  | some text =>
      cases List.mem_singleton.1 member
      rfl

/-- The settings behind the standard. -/
def otherSettings (record : PadRecord) : List (String × Property) :=
  textSetting "drive" record.drive ++ textSetting "slewRate" record.slewRate ++
    textSetting "termination" record.termination ++
    textSetting "weakTermination" record.weakTermination ++
    textSetting "inputDelayLine" record.inputDelayLine ++
    textSetting "outputDelayLine" record.outputDelayLine ++
    (record.differential.map fun value => ("differential", Property.bool value)).toList

theorem settings_eq (record : PadRecord) :
    record.settings = ("location", .text record.location) ::
      (textSetting "standard" record.standard ++ record.otherSettings) := by
  simp only [settings, otherSettings, List.append_assoc]

theorem fst_of_mem_otherSettings {record : PadRecord} {setting : String × Property}
    (member : setting ∈ record.otherSettings) :
    setting.1 ∈ ["drive", "slewRate", "termination", "weakTermination", "inputDelayLine",
      "outputDelayLine", "differential"] := by
  simp only [otherSettings, List.mem_append] at member
  rcases member with (((((drive | slew) | termination) | weak) | input) | output) | differential
  · simp [fst_of_mem_textSetting drive]
  · simp [fst_of_mem_textSetting slew]
  · simp [fst_of_mem_textSetting termination]
  · simp [fst_of_mem_textSetting weak]
  · simp [fst_of_mem_textSetting input]
  · simp [fst_of_mem_textSetting output]
  · cases value : record.differential with
    | none =>
        rw [value] at differential
        cases differential
    | some own =>
        rw [value] at differential
        cases List.mem_singleton.1 differential
        simp

theorem getElem?_setAll_otherSettings {key : Name} (record : PadRecord)
    (other : key ∉ ["drive", "slewRate", "termination", "weakTermination", "inputDelayLine",
      "outputDelayLine", "differential"]) (params : Std.ExtTreeMap Name Property) :
    (setAll params record.otherSettings)[key]? = params[key]? := by
  refine getElem?_setAll_of_absent _ (fun setting member same => ?_) params
  rw [← same] at other
  exact other (fst_of_mem_otherSettings member)

theorem setAll_settings (record : PadRecord) (params : Std.ExtTreeMap Name Property) :
    setAll params record.settings =
      setAll (setAll (params.insert "location" (.text record.location))
        (textSetting "standard" record.standard)) record.otherSettings := by
  rw [settings_eq, setAll, setAll, setAll, List.foldl_cons, List.foldl_append]

/-- No record sets any other parameter. -/
theorem getElem?_settings_of_other (record : PadRecord) (key : Name)
    (other : key ∉ ["location", "standard", "drive", "slewRate", "termination", "weakTermination",
      "inputDelayLine", "outputDelayLine", "differential"])
    (params : Std.ExtTreeMap Name Property) :
    (setAll params record.settings)[key]? = params[key]? := by
  simp only [List.mem_cons, not_or] at other
  obtain ⟨location, standard, rest⟩ := other
  rw [setAll_settings, getElem?_setAll_otherSettings record (by simpa using rest),
    getElem?_setAll_of_absent]
  · simp [Std.ExtTreeMap.getElem?_insert, Ne.symm location]
  · intro setting member same
    rw [fst_of_mem_textSetting member] at same
    exact standard same.symm

theorem getElem?_settings_standard (record : PadRecord) (params : Std.ExtTreeMap Name Property) :
    (setAll params record.settings)["standard"]? =
      (record.standard.map Property.text).or params["standard"]? := by
  rw [setAll_settings, getElem?_setAll_otherSettings record (by decide)]
  cases record.standard with
  | none => simp [setAll, textSetting, Std.ExtTreeMap.getElem?_insert]
  | some standard => simp [setAll, textSetting]

/-- **A record changes the voltage of a pad through its standard only.** -/
theorem imposedVoltage?_applyTo (record : PadRecord) (bel : BelId) (cell : Cell) :
    Plan.imposedVoltage? (record.applyTo bel cell) =
      match cell.params["voltage"]?, record.standard with
      | none, some standard =>
          if Primitive.isPad cell.type then Voltage.ofStandard? standard else none
      | _, _ => Plan.imposedVoltage? cell := by
  rw [applyTo_eq, Plan.imposedVoltage?, Plan.imposedVoltage?, Cell.voltage?, Cell.voltage?]
  have voltage := record.getElem?_settings_of_other "voltage" (by decide) cell.params
  simp only [voltage, getElem?_settings_standard]
  cases cell.params["voltage"]? with
  | some value => rfl
  | none =>
      cases record.standard with
      | none => simp
      | some standard => simp [Property.asText]

/-- What decides on the voltage of a pad, and on the records that are about it. -/
def voltageKey (cell : Cell) : Name × Option Property × Option Property × Option String :=
  (cell.type, cell.params["iobname"]?, cell.params["voltage"]?, Plan.imposedVoltage? cell)

/-- A record is not about a cell, or the cell names its voltage itself, or it has the voltage of the
record's standard already. -/
def LeavesVoltage (record : PadRecord) (cell : Cell) : Prop :=
  record.concerns cell = true → cell.params["voltage"]? = none →
    ∀ standard, record.standard = some standard →
      Voltage.ofStandard? standard = Plan.imposedVoltage? cell

theorem leavesVoltage_congr {record : PadRecord} {cell cell' : Cell}
    (same : voltageKey cell' = voltageKey cell) (leaves : record.LeavesVoltage cell) :
    record.LeavesVoltage cell' := by
  simp only [voltageKey, Prod.mk.injEq] at same
  obtain ⟨type, name, voltage, imposed⟩ := same
  rw [LeavesVoltage, concerns, type, name, voltage, imposed]
  exact leaves

theorem voltageKey_settle {record : PadRecord} {bel : BelId} {cell : Cell}
    (leaves : record.LeavesVoltage cell) : voltageKey (record.settle bel cell) = voltageKey cell := by
  unfold settle
  split
  · rename_i concerned
    have name := record.getElem?_settings_of_other "iobname" (by decide) cell.params
    have voltage := record.getElem?_settings_of_other "voltage" (by decide) cell.params
    have imposed : Plan.imposedVoltage? (record.applyTo bel cell) = Plan.imposedVoltage? cell := by
      have isPad : Primitive.isPad cell.type = true := by
        rw [concerns, Bool.and_eq_true] at concerned
        exact concerned.1
      rw [imposedVoltage?_applyTo]
      cases own : cell.params["voltage"]? with
      | some value => rfl
      | none =>
          cases standard : record.standard with
          | none => rfl
          | some written =>
              simp only [isPad, if_true]
              exact leaves concerned own written standard
    rw [voltageKey, imposed, applyTo_eq, voltageKey, name, voltage]
  · rfl

end PadRecord

namespace Plan

theorem cell?_setPads (plan : Plan) (record : PadRecord) (bel : BelId) (name : Name) :
    (plan.setPads record bel).layout.cell? name =
      (plan.layout.cell? name).map (record.settle bel) := by
  simp only [setPads, Layout.cell?, Netlist.cell?, Std.ExtTreeMap.getElem?_map]
  rfl

theorem keepsPlaces_setPads (plan : Plan) (record : PadRecord) (bel : BelId) :
    plan.KeepsPlaces (plan.setPads record bel) := by
  refine ⟨rfl, rfl, fun name => ?_, rfl, rfl, rfl⟩
  rw [cell?_setPads]
  cases plan.layout.cell? name with
  | none => rfl
  | some cell => exact congrArg some (record.unset_settle bel cell)

theorem keepsPlaces_mention (plan : Plan) (name : Name) : plan.KeepsPlaces (plan.mention name) :=
  ⟨rfl, rfl, fun _ => rfl, rfl, rfl, rfl⟩

theorem foldl_mention (names : List Name) :
    ∀ plan : Plan, ∃ lexicon, names.foldl mention plan = { plan with lexicon } := by
  induction names with
  | nil =>
      intro plan
      exact ⟨plan.lexicon, rfl⟩
  | cons name rest ih =>
      intro plan
      exact ih (plan.mention name)

/-- A record that is about no cell leaves all of them. -/
theorem setPads_of_unconcerned {plan : Plan} {record : PadRecord}
    (nobody : plan.layout.netlist.cellList.any record.concerns = false) (bel : BelId) :
    plan.setPads record bel = plan := by
  have same : (plan.layout.netlist.cells.map fun _ cell =>
      if record.concerns cell then record.applyTo bel cell else cell) = plan.layout.netlist.cells := by
    apply Std.ExtTreeMap.ext_getElem?
    intro name
    rw [Std.ExtTreeMap.getElem?_map]
    cases found : plan.layout.netlist.cells[name]? with
    | none => rfl
    | some cell =>
        have unconcerned := List.any_eq_false.1 nobody cell (Entries.mem_values_iff.2 ⟨name, found⟩)
        rw [Option.map_some, if_neg unconcerned]
  rw [setPads, same]

/-! ### What a record does -/

theorem mem_bankVoltages_of_allowed {voltage : String}
    (allowed : ConfigRecord.choiceError? "voltage" ConfigRecord.same ConfigRecord.bankVoltages
      (some voltage) = none) : voltage ∈ ConfigRecord.bankVoltages := by
  simp only [ConfigRecord.choiceError?, Option.bind_some] at allowed
  split at allowed
  · rename_i chosen
    obtain ⟨choice, member, same⟩ := List.any_eq_true.1 chosen
    rw [ConfigRecord.same, decide_eq_true_eq] at same
    rw [← same]
    exact member
  · cases allowed

/-- A bank that is set is one of the device, and its voltage one of the five; all else is refused before
anything is set. -/
theorem applyBankVoltage_cases (plan : Plan) (bank voltage : String) :
    (∃ error, plan.applyBankVoltage bank voltage = (plan, .error error)) ∨
    bank ∈ plan.fabric.tables.banks ∧
      ConfigRecord.givenVoltage voltage ∈ ConfigRecord.bankVoltages ∧
      plan.applyBankVoltage bank voltage =
        (plan.setBank bank (ConfigRecord.givenVoltage voltage), .ok ()) := by
  unfold applyBankVoltage
  by_cases known : bank ∈ plan.fabric.tables.banks
  · rw [if_neg (not_not_intro known)]
    dsimp only
    cases allowed : ConfigRecord.choiceError? "voltage" ConfigRecord.same ConfigRecord.bankVoltages
      (some (ConfigRecord.givenVoltage voltage)) with
    | some error => exact Or.inl ⟨error, rfl⟩
    | none => exact Or.inr ⟨known, mem_bankVoltages_of_allowed allowed, rfl⟩
  · rw [if_pos known]
    exact Or.inl ⟨_, rfl⟩

/-- Pads are assigned to a known location and have their choices checked, or nothing is done to them. -/
theorem applyPadRecord_cases (plan : Plan) (record : PadRecord) :
    (∃ error, plan.applyPadRecord record = (plan, [], .error error)) ∨
    ∃ bel lexicon notices, plan.fabric.tables.pads[record.location]? = some bel ∧
      record.choiceError? = none ∧
      plan.applyPadRecord record = ({ plan.setPads record bel with lexicon }, notices, .ok ()) := by
  unfold applyPadRecord
  cases plan.fabric.tables.pads[record.location]? with
  | none => exact Or.inl ⟨_, rfl⟩
  | some bel =>
      cases record.choiceError? with
      | some error => exact Or.inl ⟨error, rfl⟩
      | none =>
          dsimp only
          split
          · obtain ⟨lexicon, named⟩ :=
              foldl_mention (record.settings.map Prod.fst) (plan.mention "iobname")
            rw [named]
            exact Or.inr ⟨bel, lexicon, [], rfl, rfl, rfl⟩
          · rename_i nobody
            have nobody : plan.layout.netlist.cellList.any record.concerns = false :=
              eq_false_of_ne_true nobody
            refine Or.inr ⟨bel, (plan.mention "iobname").lexicon,
              [.padNotFound record.pad record.location], rfl, rfl, ?_⟩
            rw [setPads_of_unconcerned nobody]
            rfl

/-- **All that a record does.**  It is refused and has done nothing; or it gives a bank of the device one
of the five voltages; or it notes names, and settles the pads that it is about at a known location that
was not assigned before. -/
theorem applyRecord_cases (plan : Plan) (claimed : List String) (record : ConfigRecord) :
    (∃ error, plan.applyRecord claimed record = (plan, [], .error error)) ∨
    (∃ bank voltage, record = .bankVoltage bank voltage ∧ bank ∈ plan.fabric.tables.banks ∧
      ConfigRecord.givenVoltage voltage ∈ ConfigRecord.bankVoltages ∧
      plan.applyRecord claimed record =
        (plan.setBank bank (ConfigRecord.givenVoltage voltage), [], .ok claimed)) ∨
    ∃ pads bel lexicon notices, record = .padLocation pads ∧ pads.location ∉ claimed ∧
      plan.fabric.tables.pads[pads.location]? = some bel ∧
      plan.applyRecord claimed record =
        ({ plan.setPads pads bel with lexicon }, notices, .ok (pads.location :: claimed)) := by
  cases record with
  | bankVoltage bank voltage =>
      rcases plan.applyBankVoltage_cases bank voltage with ⟨error, refused⟩ | ⟨known, allowed, applied⟩
      · exact Or.inl ⟨error, by rw [applyRecord, refused]⟩
      · exact Or.inr (Or.inl ⟨bank, voltage, rfl, known, allowed, by rw [applyRecord, applied]⟩)
  | padLocation pads =>
      by_cases taken : pads.location ∈ claimed
      · exact Or.inl ⟨_, by rw [applyRecord, if_pos (List.contains_iff_mem.2 taken)]⟩
      have free : ¬ claimed.contains pads.location = true := fun there =>
        taken (List.contains_iff_mem.1 there)
      rcases plan.applyPadRecord_cases pads with ⟨error, refused⟩ | ⟨bel, lexicon, notices, known, -, applied⟩
      · exact Or.inl ⟨error, by rw [applyRecord, if_neg free, refused]⟩
      · exact Or.inr (Or.inr ⟨pads, bel, lexicon, notices, rfl, taken, known,
          by rw [applyRecord, if_neg free, applied]⟩)

/-- **A record that is refused has changed nothing** and noted nothing. -/
theorem applyRecord_refused {plan after : Plan} {claimed : List String} {notices : List Notice}
    {record : ConfigRecord} {error : RecordError}
    (refused : plan.applyRecord claimed record = (after, notices, .error error)) :
    after = plan ∧ notices = [] := by
  rcases plan.applyRecord_cases claimed record with ⟨_, same⟩ | ⟨_, _, -, -, -, same⟩ |
    ⟨_, _, _, _, -, -, -, same⟩
  all_goals
    rw [same] at refused
    cases refused
  exact ⟨rfl, rfl⟩

/-- All that a record has done that was applied. -/
theorem applyRecord_applied {plan after : Plan} {claimed claimed' : List String}
    {notices : List Notice} {record : ConfigRecord}
    (applied : plan.applyRecord claimed record = (after, notices, .ok claimed')) :
    (∃ bank voltage, record = .bankVoltage bank voltage ∧ bank ∈ plan.fabric.tables.banks ∧
      ConfigRecord.givenVoltage voltage ∈ ConfigRecord.bankVoltages ∧
      after = plan.setBank bank (ConfigRecord.givenVoltage voltage) ∧ claimed' = claimed) ∨
    ∃ pads bel lexicon, record = .padLocation pads ∧ pads.location ∉ claimed ∧
      plan.fabric.tables.pads[pads.location]? = some bel ∧
      after = { plan.setPads pads bel with lexicon } ∧ claimed' = pads.location :: claimed := by
  rcases plan.applyRecord_cases claimed record with ⟨_, same⟩ | ⟨bank, voltage, own, known, allowed, same⟩ |
    ⟨pads, bel, lexicon, _, own, free, known, same⟩
  all_goals
    rw [same] at applied
    cases applied
  · exact Or.inl ⟨bank, voltage, own, known, allowed, rfl, rfl⟩
  · exact Or.inr ⟨pads, bel, lexicon, own, free, known, rfl, rfl⟩

/-- What every applied record of a list keeps is kept by the list, also when it ends with one that is
refused. -/
theorem applyRecordsFrom_keeps {Kept : Plan → Prop} (records : List ConfigRecord)
    (step : ∀ record ∈ records, ∀ plan after claimed claimed' notices, Kept plan →
      applyRecord plan claimed record = (after, notices, .ok claimed') → Kept after) :
    ∀ (plan : Plan) (claimed : List String) (notices : List Notice), Kept plan →
      Kept (plan.applyRecordsFrom claimed notices records).1 := by
  induction records with
  | nil =>
      intro plan claimed notices kept
      exact kept
  | cons record rest ih =>
      intro plan claimed notices kept
      rw [applyRecordsFrom]
      split
      · rename_i refused
        rw [(applyRecord_refused refused).1]
        exact kept
      · rename_i applied
        refine ih (fun other member => step other (List.mem_cons_of_mem _ member)) _ _ _ ?_
        exact step record List.mem_cons_self _ _ _ _ _ kept applied

theorem keepsPlaces_applyRecord {plan after : Plan} {claimed claimed' : List String}
    {notices : List Notice} {record : ConfigRecord}
    (applied : plan.applyRecord claimed record = (after, notices, .ok claimed')) :
    plan.KeepsPlaces after := by
  rcases applyRecord_applied applied with ⟨_, _, -, -, -, rfl, -⟩ | ⟨pads, bel, lexicon, -, -, -, rfl, -⟩
  · exact ⟨rfl, rfl, fun _ => rfl, rfl, rfl, rfl⟩
  · obtain ⟨device, cellOn, cells, clocks, tables, occupancy⟩ := plan.keepsPlaces_setPads pads bel
    exact ⟨device, cellOn, cells, clocks, tables, occupancy⟩

/-- **Records move nothing and count nothing**, also when the list ends with one that cannot be
applied. -/
theorem keepsPlaces_applyRecords (plan : Plan) (records : List ConfigRecord) :
    plan.KeepsPlaces (plan.applyRecords records).1 :=
  applyRecordsFrom_keeps records
    (fun _ _ _ _ _ _ _ kept applied => kept.trans (keepsPlaces_applyRecord applied))
    plan [] [] (.refl plan)

end Plan

end UltraFabric
