/-
# UltraFabric.Proofs.Supply — the voltages of banks in an image

Two places say what voltage a bank has.  The audit compares a pad with the configured voltage of its
bank, or with the other pads when there is none.  The image has the configured voltage, or one that
goes by the name of the bank; it does not ask the pads.

So the two agree where a bank is configured (`supply_of_legal`), and where it is not, they agree only
about pads that ask for the default of their bank.  `default_supply` is a bank with one pad at 1.8V
that the audit accepts and the image supplies with 3.3V.
-/
import UltraFabric.Proofs.Entered
import UltraFabric.Proofs.Reachable

namespace UltraFabric

set_option autoImplicit false

namespace Plan

variable {plan : Plan} {image : Image} {bank voltage : String}

/-! ### The banks of an image -/

/-- Whether a cell is a pad that is placed in a bank. -/
def isPadIn (plan : Plan) (bank : String) (cell : Cell) : Bool :=
  cell.bel.any fun bel => Primitive.isPad cell.type && plan.fabric.tables.tiles.bank bel.tile = bank

theorem getElem?_banksAfter (banks : Std.ExtTreeMap String String) (cell : Cell) (bank : String) :
    (plan.banksAfter banks cell)[bank]? =
      banks[bank]?.or (if plan.isPadIn bank cell then some (defaultVoltage bank) else none) := by
  unfold banksAfter isPadIn
  cases cell.bel with
  | none => simp
  | some bel =>
      simp only [banksWith, Option.any_some]
      cases Primitive.isPad cell.type with
      | false => simp
      | true =>
          simp only [if_true, Bool.true_and, decide_eq_true_eq, Std.ExtTreeMap.getElem?_insertIfNew,
            Std.LawfulEqCmp.compare_eq_iff_eq]
          by_cases here : plan.fabric.tables.tiles.bank bel.tile = bank
          · subst here
            -- The default only goes to a bank of which nothing is known yet.
            by_cases known : plan.fabric.tables.tiles.bank bel.tile ∈ banks
            · simp [known]
            · simp [known]
          · simp [here]

theorem getElem?_foldl_banksAfter (bank : String) (cells : List Cell) :
    ∀ banks : Std.ExtTreeMap String String, (cells.foldl plan.banksAfter banks)[bank]? =
      banks[bank]?.or (if cells.any (plan.isPadIn bank) then some (defaultVoltage bank) else none) := by
  induction cells with
  | nil => simp
  | cons cell rest ih =>
      intro banks
      rw [List.foldl_cons, ih, getElem?_banksAfter, Option.or_assoc, List.any_cons]
      cases plan.isPadIn bank cell <;> simp

/-- **The voltage of a bank in an image** is the configured one, or the default of its name when there
is a pad in it. -/
theorem ShownBy.bank? (shown : plan.ShownBy image) (bank : String) :
    image.banks[bank]? = plan.fabric.bankVoltage[bank]?.or
      (if plan.layout.netlist.cellList.any (plan.isPadIn bank) then some (defaultVoltage bank)
        else none) := by
  rw [shown.banks, getElem?_foldl_banksAfter]

/-! ### The audit and the image -/

theorem ImposedAt.isPadIn {bel : BelId} (agree : plan.layout.BelsAgree)
    (imposes : plan.ImposedAt bank voltage bel) :
    plan.layout.netlist.cellList.any (plan.isPadIn bank) = true := by
  obtain ⟨here, cell, bound, pad, _⟩ := imposes
  obtain ⟨found, placed⟩ := agree.bound_iff.1 bound
  refine List.any_eq_true.2 ⟨cell, Entries.mem_values_iff.2 ⟨cell.name, found⟩, ?_⟩
  simp [Plan.isPadIn, placed, pad, here]

/-- A pad that the audit accepts asks for the configured voltage of its bank, if there is one. -/
theorem ImposedAt.configured {bel : BelId} (agree : plan.layout.BelsAgree)
    (imposes : plan.ImposedAt bank voltage bel) (legal : plan.isLegalAt bel = .ok true)
    {configured : String} (known : plan.fabric.bankVoltage[bank]? = some configured) :
    configured = voltage := by
  obtain ⟨rfl, cell, bound, pad, asked⟩ := imposes
  have isBel := agree.isBel_of_bound bound
  obtain ⟨accepted, _⟩ :=
    (violation?_eq_ok_none_iff isBel []).1 ((isLegalAt_eq_ok_true_iff isBel bound).1 legal)
  refine (voltageViolation?_eq_none_iff_agrees
    (imposedVoltage?_eq_some_iff.2 ⟨pad, asked⟩)).1 accepted configured ?_
  simp only [bankVoltage?, known]

/-- **Where the image supplies what pads ask for.**  Of a plan that has come about in any way, and that
the audit accepts, the image supplies every pad that asks for a voltage with it when its bank is
configured.  A bank that is not configured has the default of its name instead, so such a pad is
supplied with what it asks for exactly when that is the default. -/
theorem supply_of_legal {device : Device} {netlist : Netlist}
    (reachable : Reachable device netlist plan)
    (legal : ∀ bel cell, plan.layout.boundCell? bel = some cell → plan.isLegalAt bel = .ok true)
    {notices : List Notice} (made : plan.image = (notices, .ok (.ok image))) (bank voltage : String)
    (bel : BelId) (imposes : plan.ImposedAt bank voltage bel) :
    (plan.fabric.bankVoltage.contains bank = true → image.banks[bank]? = some voltage) ∧
      (plan.fabric.bankVoltage.contains bank = false →
        image.banks[bank]? = some (defaultVoltage bank)) ∧
      (image.banks[bank]? = some voltage ↔
        plan.fabric.bankVoltage.contains bank = true ∨ voltage = defaultVoltage bank) := by
  obtain ⟨agree, _⟩ := reachable.invariant
  have supplied := (shownBy_of_image made).bank? bank
  rw [if_pos (imposes.isPadIn agree)] at supplied
  rw [Std.ExtTreeMap.contains_eq_isSome_getElem?]
  cases known : plan.fabric.bankVoltage[bank]? with
  | none =>
      rw [known, Option.none_or] at supplied
      simp [supplied, eq_comm]
  | some configured =>
      obtain ⟨_, cell, bound, _⟩ := id imposes
      rw [known, Option.some_or, imposes.configured agree (legal bel cell bound) known] at supplied
      simp [supplied]

end Plan

/-! ### A pad at 1.8V in a bank that has 3.3V by default -/

namespace Sample

/-- The pad at 3.3V leaves, and the one at 1.8V takes its bel. -/
def exchanged : Plan :=
  plan.run [.unbind ⟨0, 0⟩, .bind ⟨0, 0⟩ "right"]

theorem reachable_exchanged : Plan.Reachable device netlist exchanged :=
  ((Plan.Reachable.started started).after (.unbind ⟨0, 0⟩)).after (.bind ⟨0, 0⟩ "right")

theorem exchanged_made : ∃ notices image, exchanged.image = (notices, .ok (.ok image)) :=
  Plan.exists_image (by decide +kernel)

theorem exchanged_legal (bel : BelId) (cell : Cell)
    (bound : exchanged.layout.boundCell? bel = some cell) : exchanged.isLegalAt bel = .ok true := by
  obtain ⟨name, occupied, _⟩ := Layout.boundCell?_eq_some_iff.1 bound
  have member : (bel, name) ∈ exchanged.layout.boundBels :=
    Std.ExtTreeMap.mem_toList_iff_getElem?_eq_some.2 occupied
  have all : exchanged.layout.boundBels = [(⟨0, 0⟩, "right"), (⟨0, 3⟩, "flop")] := by
    decide +kernel
  rw [all] at member
  simp only [List.mem_cons, Prod.mk.injEq, List.not_mem_nil, or_false] at member
  rcases member with ⟨rfl, _⟩ | ⟨rfl, _⟩
  · with_unfolding_all rfl
  · with_unfolding_all rfl

theorem exchanged_imposes : exchanged.ImposedAt "IOB0" "1.8V" ⟨0, 0⟩ := by
  refine ⟨by decide +kernel, { rightPad with bel := some ⟨0, 0⟩ }, ?_, by decide, by decide +kernel⟩
  decide +kernel

/-- The bank of the sample is not configured, and the pad asks for something else than its default. -/
theorem supply_of_exchanged : ∃ notices image, exchanged.image = (notices, .ok (.ok image)) ∧
    exchanged.ImposedAt "IOB0" "1.8V" ⟨0, 0⟩ ∧
    exchanged.fabric.bankVoltage.contains "IOB0" = false ∧
    image.banks["IOB0"]? = some (Plan.defaultVoltage "IOB0") ∧
    (image.banks["IOB0"]? = some "1.8V" ↔
      exchanged.fabric.bankVoltage.contains "IOB0" = true ∨ "1.8V" = Plan.defaultVoltage "IOB0") := by
  obtain ⟨notices, image, made⟩ := exchanged_made
  obtain ⟨_, default, iff⟩ := Plan.supply_of_legal reachable_exchanged exchanged_legal made "IOB0"
    "1.8V" ⟨0, 0⟩ exchanged_imposes
  have unconfigured : exchanged.fabric.bankVoltage.contains "IOB0" = false := by decide +kernel
  exact ⟨notices, image, made, exchanged_imposes, unconfigured, default unconfigured, iff⟩

/-- The audit accepts everything, the one pad asks for 1.8V, and its bank is supplied with 3.3V. -/
theorem default_supply : ∃ notices image, exchanged.image = (notices, .ok (.ok image)) ∧
    Plan.Reachable device netlist exchanged ∧
    (∀ bel cell, exchanged.layout.boundCell? bel = some cell → exchanged.isLegalAt bel = .ok true) ∧
    exchanged.ImposedAt "IOB0" "1.8V" ⟨0, 0⟩ ∧ image.banks["IOB0"]? = some "3.3V" := by
  obtain ⟨notices, image, made⟩ := exchanged_made
  refine ⟨notices, image, made, reachable_exchanged, exchanged_legal, exchanged_imposes, ?_⟩
  rw [(Plan.shownBy_of_image made).banks]
  decide +kernel

end Sample

end UltraFabric
