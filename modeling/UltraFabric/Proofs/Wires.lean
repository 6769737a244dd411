/-
# UltraFabric.Proofs.Wires — wires, pips and nets name each other

A wire that a net has is kept twice: the net knows by which pip the wire is driven, and the layout
knows the net of the wire; the net of a pip is kept a third time.  `Layout.WiresAgree` says that the
three are one relation, that a pip is kept with the wire it drives, and that wires go by the name of
their node.

What gives a wire to a net is one change, `Layout.take`: a source is taken without a pip
(`bindWire?_cases`), any other wire with the pip that drives it (`bindArc?_eq_some_iff`).  What takes
wires away is `unbindWire`.

* `WiresAgree.take`, `WiresAgree.unbindWire`: both changes keep the agreement;
* `unbindWire_take`: taking a wire away undoes that it was given, and nothing is left of it;
* `unbindWire_comm`: wires may be taken away in any order;
* `SameDesign`: neither touches a cell, or the driver and the users of a net;
* `WiresAgree.of_sameRouting`: and cells that move do not touch the agreement.
-/
import UltraFabric.Layout
import UltraFabric.Proofs.Inventory

namespace UltraFabric

set_option autoImplicit false

/-! ### The design behind the routing -/

/-- A net without its wires. -/
def Net.unrouted (net : Net) : Net :=
  { net with wires := ∅ }

/-- A net after it has lost a wire. -/
def Net.without (net : Net) (wire : WireId) : Net :=
  { net with wires := net.wires.erase wire }

namespace Layout

/-- Two layouts have the same cells on the same bels. -/
structure SameCells (before after : Layout) : Prop where
  device : after.device = before.device
  cells : after.netlist.cells = before.netlist.cells
  cellOn : after.cellOn = before.cellOn

theorem SameCells.cell? {before after : Layout} (same : before.SameCells after) (name : Name) :
    after.cell? name = before.cell? name := by
  rw [Layout.cell?, Layout.cell?, Netlist.cell?, Netlist.cell?, same.cells]

/-- Two layouts differ in the wires of their nets at most. -/
structure SameDesign (before after : Layout) : Prop extends SameCells before after where
  nets : ∀ name, (after.net? name).map Net.unrouted = (before.net? name).map Net.unrouted

namespace SameDesign

variable {before between after : Layout}

theorem refl (layout : Layout) : layout.SameDesign layout :=
  ⟨⟨rfl, rfl, rfl⟩, fun _ => rfl⟩

theorem trans (first : before.SameDesign between) (second : between.SameDesign after) :
    before.SameDesign after where
  device := second.device.trans first.device
  cells := second.cells.trans first.cells
  cellOn := second.cellOn.trans first.cellOn
  nets name := (second.nets name).trans (first.nets name)

theorem belOf? (same : before.SameDesign after) (name : Name) :
    after.belOf? name = before.belOf? name := by
  rw [Layout.belOf?, Layout.belOf?, same.cell? name]

/-- Nets keep their drivers. -/
theorem driver (same : before.SameDesign after) (name : Name) :
    (after.net? name).bind Net.driver = (before.net? name).bind Net.driver := by
  have read : ∀ layout : Layout, (layout.net? name).bind Net.driver =
      ((layout.net? name).map Net.unrouted).bind Net.driver := by
    intro layout
    cases layout.net? name <;> rfl
  rw [read, read, same.nets name]

end SameDesign

/-- Two layouts differ in their cells and in where these are at most. -/
structure SameRouting (before after : Layout) : Prop where
  device : after.device = before.device
  nets : after.netlist.nets = before.netlist.nets
  netOnWire : after.netOnWire = before.netOnWire
  netOnPip : after.netOnPip = before.netOnPip

theorem SameRouting.net? {before after : Layout} (same : before.SameRouting after) (name : Name) :
    after.net? name = before.net? name := by
  rw [Layout.net?, Layout.net?, Netlist.net?, Netlist.net?, same.nets]

/-! ### How a net has a wire -/

/-- How a net has a wire, if it has it: driven by a pip, or as its source. -/
def hold? (layout : Layout) (name : Name) (wire : WireId) : Option (Option PipId) :=
  (layout.net? name).bind fun net => net.wires[wire]?

theorem hold?_eq_some_iff {layout : Layout} {name : Name} {wire : WireId} {pip : Option PipId} :
    layout.hold? name wire = some pip ↔
      ∃ net, layout.net? name = some net ∧ net.wires[wire]? = some pip :=
  Option.bind_eq_some_iff

theorem hold?_of_net {layout : Layout} {name : Name} {net : Net}
    (found : layout.net? name = some net) (wire : WireId) :
    layout.hold? name wire = net.wires[wire]? := by
  rw [hold?, found, Option.bind_some]

theorem mem_wires_iff {layout : Layout} {name : Name} {wire : WireId} :
    (∃ pip, layout.hold? name wire = some pip) ↔
      ∃ net, layout.net? name = some net ∧ wire ∈ net.wires := by
  simp only [hold?_eq_some_iff]
  constructor
  · rintro ⟨pip, net, found, held⟩
    exact ⟨net, found, Std.ExtTreeMap.mem_iff_isSome_getElem?.2 (by rw [held]; rfl)⟩
  · rintro ⟨net, found, member⟩
    obtain ⟨pip, held⟩ := Option.isSome_iff_exists.1 (Std.ExtTreeMap.mem_iff_isSome_getElem?.1 member)
    exact ⟨pip, net, found, held⟩

/-- Layouts are equal when everything in them is found alike. -/
theorem ext_of_lookups {a b : Layout} (device : a.device = b.device)
    (cells : a.netlist.cells = b.netlist.cells) (cellOn : a.cellOn = b.cellOn)
    (nets : ∀ name, a.net? name = b.net? name)
    (wires : ∀ wire : WireId, a.netOnWire[wire]? = b.netOnWire[wire]?)
    (pips : ∀ pip : PipId, a.netOnPip[pip]? = b.netOnPip[pip]?) : a = b := by
  have sameNets : a.netlist.nets = b.netlist.nets :=
    Std.ExtTreeMap.ext_getElem? fun {name} => nets name
  have sameWires : a.netOnWire = b.netOnWire := Std.ExtTreeMap.ext_getElem? fun {wire} => wires wire
  have samePips : a.netOnPip = b.netOnPip := Std.ExtTreeMap.ext_getElem? fun {pip} => pips pip
  obtain ⟨_, ⟨_, _⟩, _, _, _⟩ := a
  obtain ⟨_, ⟨_, _⟩, _, _, _⟩ := b
  cases device
  cases cells
  cases cellOn
  cases sameNets
  cases sameWires
  cases samePips
  rfl

/-! ### Giving a wire to a net -/

/-- The layout after a net takes a wire, together with the pip that drives it if there is one. -/
def take (layout : Layout) (net : Net) (name : Name) (wire : WireId) (pip : Option PipId) :
    Layout :=
  { layout.addWire net name wire pip with
    netOnPip :=
      match pip with
      | some pip => layout.netOnPip.insert pip name
      | none => layout.netOnPip }

section Take

variable {layout : Layout} {net : Net} {name : Name} {wire : WireId} {pip : Option PipId}

theorem bindWire?_cases {after : Layout} (bound : layout.bindWire? wire name = some after) :
    (layout.netOnWire[wire]? = some name ∧ after = layout) ∨
      (layout.netOnWire[wire]? = none ∧
        ∃ net, layout.net? name = some net ∧ after = layout.take net name wire none) := by
  unfold bindWire? at bound
  split at bound
  · rename_i other owned
    split at bound
    · rename_i same
      cases bound
      exact Or.inl ⟨same ▸ owned, rfl⟩
    · cases bound
  · rename_i free
    obtain ⟨net, found, rfl⟩ := Option.map_eq_some_iff.1 bound
    exact Or.inr ⟨free, net, found, rfl⟩

theorem bindArc?_eq_some_iff {arc : Arc} {after : Layout} :
    layout.bindArc? arc name = some after ↔
      layout.netOnPip[arc.pip]? = none ∧ layout.netOnWire[arc.target]? = none ∧
        ∃ net, layout.net? name = some net ∧
          after = layout.take net name arc.target (some arc.pip) := by
  have used : (layout.netOnPip.contains arc.pip || layout.netOnWire.contains arc.target) = true ↔
      ¬ (layout.netOnPip[arc.pip]? = none ∧ layout.netOnWire[arc.target]? = none) := by
    rw [Std.ExtTreeMap.contains_eq_isSome_getElem?, Std.ExtTreeMap.contains_eq_isSome_getElem?]
    cases layout.netOnPip[arc.pip]? <;> cases layout.netOnWire[arc.target]? <;> simp
  unfold bindArc?
  split
  · rename_i busy
    refine iff_of_false (by simp) fun ⟨pip, wire, _⟩ => used.1 busy ⟨pip, wire⟩
  · rename_i free
    obtain ⟨pip, wire⟩ := Decidable.not_not.1 (mt used.2 free)
    rw [Option.map_eq_some_iff]
    constructor
    · rintro ⟨net, found, rfl⟩
      exact ⟨pip, wire, net, found, rfl⟩
    · rintro ⟨_, _, net, found, rfl⟩
      exact ⟨net, found, rfl⟩

theorem net?_take (other : Name) : (layout.take net name wire pip).net? other =
    if name = other then some { net with wires := net.wires.insert wire pip }
    else layout.net? other := by
  simp [take, addWire, net?, Netlist.net?, Std.ExtTreeMap.getElem?_insert]

theorem netOnWire_take (other : WireId) : (layout.take net name wire pip).netOnWire[other]? =
    if wire = other then some name else layout.netOnWire[other]? := by
  simp [take, addWire, Std.ExtTreeMap.getElem?_insert]

theorem netOnPip_take (other : PipId) : (layout.take net name wire pip).netOnPip[other]? =
    if pip = some other then some name else layout.netOnPip[other]? := by
  cases pip <;> simp [take, addWire, Std.ExtTreeMap.getElem?_insert]

theorem hold?_take (found : layout.net? name = some net) (other : Name) (place : WireId) :
    (layout.take net name wire pip).hold? other place =
      if name = other ∧ wire = place then some pip else layout.hold? other place := by
  rw [hold?, net?_take]
  by_cases own : name = other
  · subst own
    simp [hold?, found, Std.ExtTreeMap.getElem?_insert]
  · simp [hold?, own]

theorem sameDesign_take (found : layout.net? name = some net) :
    layout.SameDesign (layout.take net name wire pip) := by
  refine ⟨⟨rfl, rfl, rfl⟩, fun other => ?_⟩
  rw [net?_take]
  split
  · rename_i own
    rw [← own, found]
    rfl
  · rfl

theorem sameDesign_bindWire? {after : Layout} (bound : layout.bindWire? wire name = some after) :
    layout.SameDesign after := by
  rcases bindWire?_cases bound with ⟨_, rfl⟩ | ⟨_, net, found, rfl⟩
  · exact SameDesign.refl after
  · exact sameDesign_take found

theorem sameDesign_bindArc? {after : Layout} {arc : Arc}
    (bound : layout.bindArc? arc name = some after) : layout.SameDesign after := by
  obtain ⟨_, _, net, found, rfl⟩ := bindArc?_eq_some_iff.1 bound
  exact sameDesign_take found

theorem bindPip?_eq_some_iff {own : PipId} {after : Layout} :
    layout.bindPip? own name = .ok (some after) ↔
      ∃ arc, layout.device.arc? own = some arc ∧ layout.bindArc? arc name = some after := by
  unfold bindPip?
  cases layout.device.arc? own <;> simp

theorem sameDesign_bindPip? {after : Layout} {own : PipId}
    (bound : layout.bindPip? own name = .ok (some after)) : layout.SameDesign after := by
  obtain ⟨arc, _, bound⟩ := bindPip?_eq_some_iff.1 bound
  exact sameDesign_bindArc? bound

end Take

/-! ### Taking a wire away -/

section UnbindWire

variable {layout : Layout} {name : Name} {wire : WireId}

theorem unbindWire_of_free (free : layout.netOnWire[wire]? = none) :
    layout.unbindWire wire = layout := by
  simp only [unbindWire, wireNet?, free]

theorem net?_unbindWire (bound : layout.netOnWire[wire]? = some name) (other : Name) :
    (layout.unbindWire wire).net? other =
      if name = other then (layout.net? other).map (·.without wire) else layout.net? other := by
  simp only [unbindWire, wireNet?, bound]
  cases found : layout.net? name with
  | none =>
      change layout.net? other = _
      split
      · rename_i own
        rw [← own, found]
        rfl
      · rfl
  | some net =>
      by_cases own : name = other
      · subst own
        simp [net?, Netlist.net?, Net.without] at found ⊢
        simp [found]
      · simp [net?, Netlist.net?, own, Std.ExtTreeMap.getElem?_insert]

theorem netOnWire_unbindWire (layout : Layout) (wire other : WireId) :
    (layout.unbindWire wire).netOnWire[other]? =
      if wire = other then none else layout.netOnWire[other]? := by
  cases bound : layout.netOnWire[wire]? with
  | none =>
      rw [unbindWire_of_free bound]
      split
      · rename_i here
        rw [← here, bound]
      · rfl
  | some name =>
      simp only [unbindWire, wireNet?, bound]
      split <;> simp [Std.ExtTreeMap.getElem?_erase]

theorem netOnPip_unbindWire (bound : layout.netOnWire[wire]? = some name) (pip : PipId) :
    (layout.unbindWire wire).netOnPip[pip]? =
      if layout.hold? name wire = some (some pip) then none else layout.netOnPip[pip]? := by
  simp only [unbindWire, wireNet?, bound]
  cases found : layout.net? name with
  | none => simp [hold?, found]
  | some net =>
      rw [hold?_of_net found]
      simp only
      split
      · rename_i own held
        rw [held, Std.ExtTreeMap.getElem?_erase]
        simp
      · rename_i undriven
        rw [if_neg (undriven pip)]

theorem hold?_unbindWire (bound : layout.netOnWire[wire]? = some name) (other : Name)
    (place : WireId) : (layout.unbindWire wire).hold? other place =
      if name = other ∧ wire = place then none else layout.hold? other place := by
  rw [hold?, net?_unbindWire bound]
  by_cases own : name = other
  · cases found : layout.net? other with
    | none => simp [hold?, own, found]
    | some net => simp [hold?, own, found, Net.without, Std.ExtTreeMap.getElem?_erase]
  · simp [hold?, own]

theorem sameDesign_unbindWire (layout : Layout) (wire : WireId) :
    layout.SameDesign (layout.unbindWire wire) := by
  have cells : layout.SameCells (layout.unbindWire wire) := by
    unfold unbindWire
    split
    · exact ⟨rfl, rfl, rfl⟩
    · simp only
      split
      · exact ⟨rfl, rfl, rfl⟩
      · exact ⟨rfl, rfl, rfl⟩
  refine ⟨cells, fun other => ?_⟩
  cases bound : layout.netOnWire[wire]? with
  | none => rw [unbindWire_of_free bound]
  | some name =>
      rw [net?_unbindWire bound]
      split
      · cases layout.net? other <;> rfl
      · rfl

/-- **Wires may be taken away in any order.** -/
theorem unbindWire_comm (layout : Layout) (a b : WireId) :
    (layout.unbindWire a).unbindWire b = (layout.unbindWire b).unbindWire a := by
  by_cases same : a = b
  · rw [same]
  cases boundA : layout.netOnWire[a]? with
  | none =>
      have stillA : (layout.unbindWire b).netOnWire[a]? = none := by
        rw [netOnWire_unbindWire, boundA, if_neg (Ne.symm same)]
      rw [unbindWire_of_free boundA, unbindWire_of_free stillA]
  | some nameA =>
      have stillA : (layout.unbindWire b).netOnWire[a]? = some nameA := by
        rw [netOnWire_unbindWire, boundA, if_neg (Ne.symm same)]
      cases boundB : layout.netOnWire[b]? with
      | none =>
          have stillB : (layout.unbindWire a).netOnWire[b]? = none := by
            rw [netOnWire_unbindWire, boundB, if_neg same]
          rw [unbindWire_of_free boundB, unbindWire_of_free stillB]
      | some nameB =>
          have stillB : (layout.unbindWire a).netOnWire[b]? = some nameB := by
            rw [netOnWire_unbindWire, boundB, if_neg same]
          have ab := (layout.sameDesign_unbindWire a).trans
            ((layout.unbindWire a).sameDesign_unbindWire b)
          have ba := (layout.sameDesign_unbindWire b).trans
            ((layout.unbindWire b).sameDesign_unbindWire a)
          refine ext_of_lookups (ab.device.trans ba.device.symm) (ab.cells.trans ba.cells.symm)
            (ab.cellOn.trans ba.cellOn.symm) (fun name => ?_) (fun wire => ?_) fun pip => ?_
          · rw [net?_unbindWire stillB, net?_unbindWire boundA, net?_unbindWire stillA,
              net?_unbindWire boundB]
            have erased : ∀ net : Net, (net.without a).without b = (net.without b).without a := by
              intro net
              simp only [Net.without, Net.mk.injEq, true_and]
              apply Std.ExtTreeMap.ext_getElem?
              intro wire
              simp only [Std.ExtTreeMap.getElem?_erase]
              split <;> split <;> rfl
            split <;> split <;> simp [Function.comp_def, erased]
          · simp only [netOnWire_unbindWire]
            split <;> split <;> rfl
          · have heldB : (layout.unbindWire a).hold? nameB b = layout.hold? nameB b := by
              rw [hold?_unbindWire boundA, if_neg fun both => same both.2]
            have heldA : (layout.unbindWire b).hold? nameA a = layout.hold? nameA a := by
              rw [hold?_unbindWire boundB, if_neg fun both => same both.2.symm]
            rw [netOnPip_unbindWire stillB, netOnPip_unbindWire boundA, netOnPip_unbindWire stillA,
              netOnPip_unbindWire boundB, heldA, heldB]
            split <;> split <;> rfl

end UnbindWire

/-! ### Agreement -/

/-- A wire has a net exactly when the net has the wire. -/
def WiresOwned (layout : Layout) : Prop :=
  ∀ wire name, layout.netOnWire[wire]? = some name ↔ ∃ pip, layout.hold? name wire = some pip

namespace WiresOwned

variable {layout : Layout} {net : Net} {name : Name} {wire : WireId}

/-- A wire is in one net only. -/
theorem name_unique (owned : layout.WiresOwned) {other : Name} {pip pip' : Option PipId}
    (held : layout.hold? name wire = some pip) (held' : layout.hold? other wire = some pip') :
    name = other := by
  have first := (owned wire name).2 ⟨pip, held⟩
  have second := (owned wire other).2 ⟨pip', held'⟩
  exact Option.some.inj (first.symm.trans second)

/-- A wire that nobody has is in no net. -/
theorem hold?_of_free (owned : layout.WiresOwned) (free : layout.netOnWire[wire]? = none)
    (name : Name) : layout.hold? name wire = none := by
  cases held : layout.hold? name wire with
  | none => rfl
  | some pip =>
      rw [(owned wire name).2 ⟨pip, held⟩] at free
      cases free

/-- Giving a free wire to a net keeps wires owned. -/
theorem take (owned : layout.WiresOwned) (found : layout.net? name = some net)
    (free : layout.netOnWire[wire]? = none) (pip : Option PipId) :
    (layout.take net name wire pip).WiresOwned := by
  intro other name'
  rw [netOnWire_take, hold?_take found]
  by_cases here : wire = other
  · subst here
    by_cases mine : name = name'
    · simp [mine]
    · simp [mine, owned.hold?_of_free free]
  · simp [here, owned other]

end WiresOwned

/-- Wires, pips and nets name each other: a wire has a net exactly when the net has the wire, and a
pip has a net exactly when it drives a wire of that net.  Wires go by the name of their node. -/
structure WiresAgree (layout : Layout) : Prop where
  wire_iff : ∀ wire name, layout.netOnWire[wire]? = some name ↔
    ∃ pip, layout.hold? name wire = some pip
  pip_iff : ∀ pip name, layout.netOnPip[pip]? = some name ↔
    ∃ arc, layout.device.arc? pip = some arc ∧ layout.hold? name arc.target = some (some pip)
  driven : ∀ name wire pip, layout.hold? name wire = some (some pip) →
    ∃ arc, layout.device.arc? pip = some arc ∧ arc.target = wire
  canonical : ∀ wire name, layout.netOnWire[wire]? = some name →
    layout.device.canonical wire = wire

namespace WiresAgree

variable {layout : Layout} {net : Net} {name : Name} {wire : WireId}

theorem name_unique (agree : layout.WiresAgree) {other : Name} {pip pip' : Option PipId}
    (held : layout.hold? name wire = some pip) (held' : layout.hold? other wire = some pip') :
    name = other :=
  WiresOwned.name_unique agree.wire_iff held held'

theorem hold?_of_free (agree : layout.WiresAgree) (free : layout.netOnWire[wire]? = none)
    (name : Name) : layout.hold? name wire = none :=
  WiresOwned.hold?_of_free agree.wire_iff free name

/-- **Giving a free wire to a net keeps the agreement.**  If a pip drives the wire, it is a free one
that leads there. -/
theorem take (agree : layout.WiresAgree) (found : layout.net? name = some net)
    (free : layout.netOnWire[wire]? = none) (final : layout.device.canonical wire = wire)
    {pip : Option PipId} (drives : ∀ own, pip = some own → layout.netOnPip[own]? = none ∧
      ∃ arc, layout.device.arc? own = some arc ∧ arc.target = wire) :
    (layout.take net name wire pip).WiresAgree := by
  refine ⟨WiresOwned.take agree.wire_iff found free pip, fun own name' => ?_,
    fun name' other own held => ?_, fun other name' bound => ?_⟩
  · rw [netOnPip_take]
    by_cases new : pip = some own
    · obtain ⟨unused, arc, leads, rfl⟩ := drives own new
      by_cases mine : name = name'
      · subst mine
        simp only [new, if_true, true_iff]
        exact ⟨arc, leads, by rw [hold?_take found, if_pos ⟨rfl, rfl⟩]⟩
      · simp only [new, if_true, Option.some.injEq, mine, false_iff]
        rintro ⟨arc', leads', held⟩
        rw [hold?_take found, if_neg (fun both => mine both.1)] at held
        rw [(agree.pip_iff own name').2 ⟨arc', leads', held⟩] at unused
        cases unused
    · rw [if_neg new, agree.pip_iff]
      refine exists_congr fun arc => and_congr_right fun leads => ?_
      rw [hold?_take found]
      by_cases here : name = name' ∧ wire = arc.target
      · -- The wire is new, so the pip that is kept with it is the new one.
        rw [if_pos here, ← here.2, agree.hold?_of_free free]
        simp [new]
      · rw [if_neg here]
  · rw [hold?_take found] at held
    split at held
    · rename_i here
      obtain ⟨_, leads⟩ := drives own (Option.some.inj held)
      rw [← here.2]
      exact leads
    · exact agree.driven name' other own held
  · rw [netOnWire_take] at bound
    split at bound
    · rename_i here
      rw [← here]
      exact final
    · exact agree.canonical other name' bound

/-- **Taking a wire away keeps the agreement.** -/
theorem unbindWire (agree : layout.WiresAgree) (wire : WireId) :
    (layout.unbindWire wire).WiresAgree := by
  have device := (layout.sameDesign_unbindWire wire).device
  cases bound : layout.netOnWire[wire]? with
  | none =>
      rw [unbindWire_of_free bound]
      exact agree
  | some name =>
      refine ⟨fun other name' => ?_, fun own name' => ?_, fun name' other own held => ?_,
        fun other name' bound' => ?_⟩
      · rw [netOnWire_unbindWire, hold?_unbindWire bound]
        by_cases here : wire = other
        · subst here
          by_cases mine : name = name'
          · simp [mine]
          · have others : ¬ ∃ pip, layout.hold? name' wire = some pip := by
              rw [← agree.wire_iff, bound]
              exact fun e => mine (Option.some.inj e)
            simpa [mine] using others
        · simp [here, agree.wire_iff]
      · rw [netOnPip_unbindWire bound, device]
        by_cases gone : layout.hold? name wire = some (some own)
        · rw [if_pos gone]
          refine iff_of_false (by simp) ?_
          rintro ⟨arc, leads, held⟩
          obtain ⟨arc', leads', rfl⟩ := agree.driven name wire own gone
          cases leads.symm.trans leads'
          rw [hold?_unbindWire bound] at held
          split at held
          · cases held
          · rename_i elsewhere
            exact elsewhere ⟨agree.name_unique gone held, rfl⟩
        · rw [if_neg gone, agree.pip_iff]
          refine exists_congr fun arc => and_congr_right fun _ => ?_
          rw [hold?_unbindWire bound]
          by_cases here : name = name' ∧ wire = arc.target
          · rw [if_pos here, ← here.1, ← here.2]
            exact iff_of_false gone (by simp)
          · rw [if_neg here]
      · rw [hold?_unbindWire bound] at held
        rw [device]
        split at held
        · cases held
        · exact agree.driven name' other own held
      · rw [netOnWire_unbindWire] at bound'
        rw [device]
        split at bound'
        · cases bound'
        · exact agree.canonical other name' bound'

/-- What is said of wires and pips does not depend on the cells. -/
theorem of_sameRouting (agree : layout.WiresAgree) {after : Layout}
    (same : layout.SameRouting after) : after.WiresAgree := by
  have hold : ∀ name wire, after.hold? name wire = layout.hold? name wire := by
    intro name wire
    rw [hold?, hold?, same.net?]
  refine ⟨fun wire name => ?_, fun pip name => ?_, fun name wire pip held => ?_,
    fun wire name bound => ?_⟩
  · rw [same.netOnWire, hold]
    exact agree.wire_iff wire name
  · rw [same.netOnPip, same.device]
    simp only [hold]
    exact agree.pip_iff pip name
  · rw [hold] at held
    rw [same.device]
    exact agree.driven name wire pip held
  · rw [same.netOnWire] at bound
    rw [same.device]
    exact agree.canonical wire name bound

theorem bindWire? (agree : layout.WiresAgree) {after : Layout}
    (final : layout.device.canonical wire = wire)
    (bound : layout.bindWire? wire name = some after) : after.WiresAgree := by
  rcases bindWire?_cases bound with ⟨_, rfl⟩ | ⟨free, net, found, rfl⟩
  · exact agree
  · exact agree.take found free final fun own impossible => by cases impossible

theorem bindArc? (agree : layout.WiresAgree) {after : Layout} {arc : Arc}
    (there : layout.device.arc? arc.pip = some arc)
    (bound : layout.bindArc? arc name = some after) : after.WiresAgree := by
  obtain ⟨unused, free, net, found, rfl⟩ := bindArc?_eq_some_iff.1 bound
  refine agree.take found free (Device.canonical_target there) fun own same => ?_
  cases same
  exact ⟨unused, arc, there, rfl⟩

theorem bindPip? (agree : layout.WiresAgree) {after : Layout} {pip : PipId}
    (bound : layout.bindPip? pip name = .ok (some after)) : after.WiresAgree := by
  obtain ⟨arc, there, bound⟩ := bindPip?_eq_some_iff.1 bound
  have own : layout.device.arc? arc.pip = some arc := by
    rw [Device.pip_of_arc? there]
    exact there
  exact agree.bindArc? own bound

/-- Where nothing is routed there is nothing to disagree about. -/
theorem of_unrouted (nets : ∀ name net, layout.net? name = some net → net.wires = ∅)
    (wires : layout.netOnWire = ∅) (pips : layout.netOnPip = ∅) : layout.WiresAgree := by
  have nowhere : ∀ name wire, layout.hold? name wire = none := by
    intro name wire
    refine Option.eq_none_iff_forall_ne_some.2 fun pip held => ?_
    obtain ⟨net, found, held⟩ := hold?_eq_some_iff.1 held
    rw [nets name net found] at held
    simp at held
  refine ⟨fun wire name => ?_, fun pip name => ?_, fun name wire pip held => ?_,
    fun wire name bound => ?_⟩
  · simp [wires, nowhere]
  · simp [pips, nowhere]
  · rw [nowhere] at held
    cases held
  · simp [wires] at bound

end WiresAgree

/-- **Taking away a wire that has just been given leaves nothing of it.** -/
theorem unbindWire_take {layout : Layout} {net : Net} {name : Name} {wire : WireId}
    {pip : Option PipId} (agree : layout.WiresAgree) (found : layout.net? name = some net)
    (free : layout.netOnWire[wire]? = none)
    (unused : ∀ own, pip = some own → layout.netOnPip[own]? = none) :
    (layout.take net name wire pip).unbindWire wire = layout := by
  have bound : (layout.take net name wire pip).netOnWire[wire]? = some name := by
    rw [netOnWire_take, if_pos rfl]
  have absent : net.wires[wire]? = none := by
    rw [← hold?_of_net found]
    exact agree.hold?_of_free free name
  have given : layout.SameDesign (layout.take net name wire pip) := layout.sameDesign_take found
  have same := given.trans ((layout.take net name wire pip).sameDesign_unbindWire wire)
  refine ext_of_lookups same.device same.cells same.cellOn (fun other => ?_) (fun other => ?_)
    fun other => ?_
  · rw [net?_unbindWire bound, net?_take]
    by_cases own : name = other
    · subst own
      rw [if_pos rfl, if_pos rfl, found, Option.map_some]
      congr 1
      simp only [Net.without]
      congr 1
      apply Std.ExtTreeMap.ext_getElem?
      intro place
      rw [Std.ExtTreeMap.getElem?_erase, Std.ExtTreeMap.getElem?_insert]
      by_cases here : wire = place
      · subst here
        simp [absent]
      · simp [here]
    · rw [if_neg own, if_neg own]
  · rw [netOnWire_unbindWire, netOnWire_take]
    split
    · rename_i here
      rw [← here, free]
    · rfl
  · have held : (layout.take net name wire pip).hold? name wire = some pip := by
      rw [hold?_take found, if_pos ⟨rfl, rfl⟩]
    rw [netOnPip_unbindWire bound, netOnPip_take, held]
    by_cases mine : pip = some other
    · rw [if_pos (congrArg some mine), unused other mine]
    · rw [if_neg (fun e => mine (Option.some.inj e)), if_neg mine]

end Layout

end UltraFabric
