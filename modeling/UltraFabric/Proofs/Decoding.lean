/-
# UltraFabric.Proofs.Decoding — settings are those of the driving pips

A setting is read off the pips that enter a wire: the first one that belongs to any net and is one of a
multiplexer counts.  Which net it is, and whether the net has the wire by that pip, is not asked.

It need not be asked while wires, pips and nets name each other (`WiresAgree`).  A pip in use is kept with
the wire that it enters (`WiresAgree.pipNet?_iff`), and a wire is kept once; so one pip at most that enters
a wire is in use (`WiresAgree.entering_unique`), and it is the one that the net knows.

A wire is free, or the source of its net, or driven by a pip of a certain kind (`WiresAgree.use_cases`).
`Layout.Decoded` says what is read in each case, and `settings_decoded` that it is so after any changes.
-/
import UltraFabric.Legality.Multiplexer
import UltraFabric.Proofs.Bindings

namespace UltraFabric

set_option autoImplicit false

/-- The input that a pip selects, if it is one of a multiplexer. -/
def PipInfo.muxInput? (pip : PipInfo) : Option Nat :=
  match pip.detail with
  | some detail => if detail.kind = .mux then some detail.input else none
  | none => none

/-- What is known of a pip by its id is also kept with the wires it joins. -/
theorem Device.pip?_of_arc? {device : Device} {pip : PipId} {arc : Arc}
    (found : device.arc? pip = some arc) : device.pip? pip = some arc.info := by
  obtain ⟨info, known, rfl⟩ := Option.map_eq_some_iff.1 found
  exact known

namespace Layout

variable {layout : Layout} {wire : WireId} {name other : Name} {arc arc' : Arc} {info info' : PipInfo}
  {input : Nat}

/-- What is read off a wire is read off the pips in use that enter it. -/
theorem wireSetting?_eq (layout : Layout) (wire : WireId) : layout.wireSetting? wire =
    (layout.device.entering wire).findSome? fun arc =>
      (layout.pipNet? arc.pip).bind fun _ => arc.info.muxInput? := by
  unfold wireSetting?
  congr 1
  funext arc
  cases layout.pipNet? arc.pip with
  | none => rfl
  | some name =>
      unfold PipInfo.muxInput?
      cases arc.info.detail <;> rfl

/-! ### How a wire is used -/

/-- A net has the wire as its source. -/
def Sourced (layout : Layout) (wire : WireId) : Prop :=
  ∃ name net, layout.wireNet? wire = some name ∧ layout.net? name = some net ∧
    net.wires[wire]? = some none

/-- A net has the wire by a pip. -/
def DrivenBy (layout : Layout) (wire : WireId) (info : PipInfo) : Prop :=
  ∃ name net pip, layout.wireNet? wire = some name ∧ layout.net? name = some net ∧
    net.wires[wire]? = some (some pip) ∧ layout.device.pip? pip = some info

theorem DrivenBy.unique (driven : layout.DrivenBy wire info) (driven' : layout.DrivenBy wire info') :
    info = info' := by
  obtain ⟨name, net, pip, owned, found, held, known⟩ := driven
  obtain ⟨name', net', pip', owned', found', held', known'⟩ := driven'
  cases owned.symm.trans owned'
  cases found.symm.trans found'
  cases held.symm.trans held'
  exact Option.some.inj (known.symm.trans known')

theorem Sourced.not_drivenBy (sourced : layout.Sourced wire) : ¬ layout.DrivenBy wire info := by
  rintro ⟨name, net, pip, owned, found, held, _⟩
  obtain ⟨name', net', owned', found', held'⟩ := sourced
  cases owned.symm.trans owned'
  cases found.symm.trans found'
  cases held.symm.trans held'

namespace WiresAgree

/-- A pip in use is the one by which its net has the wire at its end. -/
theorem pipNet?_iff (agree : layout.WiresAgree) (there : arc ∈ layout.device.entering wire) :
    layout.pipNet? arc.pip = some name ↔ layout.hold? name wire = some (some arc.pip) := by
  obtain ⟨member, ends⟩ := Device.mem_entering_iff.1 there
  have known := Device.mem_arcs_iff.1 member
  rw [pipNet?, agree.pip_iff, ← ends]
  constructor
  · rintro ⟨own, leads, held⟩
    cases known.symm.trans leads
    exact held
  · exact fun held => ⟨arc, known, held⟩

/-- **One pip at most that enters a wire is in use.** -/
theorem entering_unique (agree : layout.WiresAgree) (there : arc ∈ layout.device.entering wire)
    (there' : arc' ∈ layout.device.entering wire) (used : layout.pipNet? arc.pip = some name)
    (used' : layout.pipNet? arc'.pip = some other) : arc = arc' := by
  have held := (agree.pipNet?_iff there).1 used
  have held' := (agree.pipNet?_iff there').1 used'
  cases agree.name_unique held held'
  have same : arc.pip = arc'.pip := Option.some.inj (Option.some.inj (held.symm.trans held'))
  exact Device.arc_ext (Device.mem_entering_iff.1 there).1 (Device.mem_entering_iff.1 there').1 same

/-- The pips in use that enter a wire are those by which a net has it. -/
theorem drivenBy_iff (agree : layout.WiresAgree) : layout.DrivenBy wire info ↔
    ∃ arc ∈ layout.device.entering wire, ∃ name, layout.pipNet? arc.pip = some name ∧
      arc.info = info := by
  constructor
  · rintro ⟨name, net, pip, _, found, held, known⟩
    have holds := hold?_eq_some_iff.2 ⟨net, found, held⟩
    obtain ⟨arc, leads, ends⟩ := agree.driven name wire pip holds
    have own := Device.pip_of_arc? leads
    cases own
    have there : arc ∈ layout.device.entering wire :=
      Device.mem_entering_iff.2 ⟨Device.mem_arcs_iff.2 leads, ends⟩
    exact ⟨arc, there, name, (agree.pipNet?_iff there).2 holds,
      Option.some.inj ((Device.pip?_of_arc? leads).symm.trans known)⟩
  · rintro ⟨arc, there, name, used, rfl⟩
    have holds := (agree.pipNet?_iff there).1 used
    obtain ⟨net, found, held⟩ := hold?_eq_some_iff.1 holds
    have known := Device.mem_arcs_iff.1 (Device.mem_entering_iff.1 there).1
    exact ⟨name, net, arc.pip, (agree.wire_iff wire name).2 ⟨_, holds⟩, found, held,
      Device.pip?_of_arc? known⟩

/-- A wire is free, or the source of its net, or driven. -/
theorem use_cases (agree : layout.WiresAgree) (wire : WireId) :
    layout.wireNet? wire = none ∨ layout.Sourced wire ∨ ∃ info, layout.DrivenBy wire info := by
  cases owned : layout.wireNet? wire with
  | none => exact Or.inl rfl
  | some name =>
      obtain ⟨pip, holds⟩ := (agree.wire_iff wire name).1 owned
      obtain ⟨net, found, held⟩ := hold?_eq_some_iff.1 holds
      cases pip with
      | none => exact Or.inr (Or.inl ⟨name, net, owned, found, held⟩)
      | some pip =>
          obtain ⟨arc, leads, _⟩ := agree.driven name wire pip holds
          exact Or.inr (Or.inr ⟨arc.info, name, net, pip, owned, found, held,
            Device.pip?_of_arc? leads⟩)

/-! ### What is read off a wire -/

/-- **A setting is the input that the driving pip selects.** -/
theorem wireSetting?_eq_some_iff (agree : layout.WiresAgree) :
    layout.wireSetting? wire = some input ↔
      ∃ info, layout.DrivenBy wire info ∧ info.muxInput? = some input := by
  -- Whatever is read is read off a pip in use.
  have read : ∀ {found}, layout.wireSetting? wire = some found →
      ∃ arc ∈ layout.device.entering wire, ∃ name, layout.pipNet? arc.pip = some name ∧
        arc.info.muxInput? = some found := by
    intro found setting
    rw [wireSetting?_eq] at setting
    obtain ⟨arc, there, gives⟩ := List.exists_of_findSome?_eq_some setting
    obtain ⟨name, used, selects⟩ := Option.bind_eq_some_iff.1 gives
    exact ⟨arc, there, name, used, selects⟩
  constructor
  · intro setting
    obtain ⟨arc, there, name, used, selects⟩ := read setting
    exact ⟨arc.info, agree.drivenBy_iff.2 ⟨arc, there, name, used, rfl⟩, selects⟩
  · rintro ⟨info, driven, selects⟩
    obtain ⟨arc, there, name, used, rfl⟩ := agree.drivenBy_iff.1 driven
    cases setting : layout.wireSetting? wire with
    | none =>
        rw [wireSetting?_eq, List.findSome?_eq_none_iff] at setting
        have silent := setting arc there
        rw [used, Option.bind_some, selects] at silent
        cases silent
    | some found =>
        -- No other pip can have been read.
        obtain ⟨arc', there', name', used', selects'⟩ := read setting
        cases agree.entering_unique there there' used used'
        rw [← selects, ← selects']

/-- Nothing is read off any other wire. -/
theorem wireSetting?_eq_none_iff (agree : layout.WiresAgree) :
    layout.wireSetting? wire = none ↔ layout.wireNet? wire = none ∨ layout.Sourced wire ∨
      ∃ info, layout.DrivenBy wire info ∧ info.muxInput? = none := by
  constructor
  · intro silent
    rcases agree.use_cases wire with free | sourced | ⟨info, driven⟩
    · exact Or.inl free
    · exact Or.inr (Or.inl sourced)
    · refine Or.inr (Or.inr ⟨info, driven, ?_⟩)
      cases selects : info.muxInput? with
      | none => rfl
      | some input =>
          rw [agree.wireSetting?_eq_some_iff.2 ⟨info, driven, selects⟩] at silent
          cases silent
  · intro unselected
    cases setting : layout.wireSetting? wire with
    | none => rfl
    | some input =>
        obtain ⟨info, driven, selects⟩ := agree.wireSetting?_eq_some_iff.1 setting
        rcases unselected with free | sourced | ⟨info', driven', silent⟩
        · obtain ⟨name, _, _, owned, _⟩ := driven
          cases free.symm.trans owned
        · exact absurd driven sourced.not_drivenBy
        · cases driven.unique driven'
          cases selects.symm.trans silent

end WiresAgree

/-- What is read off a wire is what its net knows of it. -/
structure Decoded (layout : Layout) (wire : WireId) : Prop where
  selected : ∀ input, layout.wireSetting? wire = some input ↔
    ∃ info, layout.DrivenBy wire info ∧ info.muxInput? = some input
  unselected : layout.wireSetting? wire = none ↔
    layout.wireNet? wire = none ∨ layout.Sourced wire ∨
      ∃ info, layout.DrivenBy wire info ∧ info.muxInput? = none

/-- **Settings agree with the routing.**  Whatever is done to a layout, with sources named as their nodes
are, a wire has a setting exactly when its net has it by a pip of a multiplexer, and then it is the input
of that pip. -/
theorem settings_decoded {lexicon : Lexicon} {cells : List Cell} {netlist : Netlist} {device : Device}
    (made : Netlist.ofCells lexicon cells = .ok netlist)
    (placed : Layout.ofNetlist device netlist = .ok layout) (changes : List Change)
    (final : ∀ change ∈ changes, change.NamesNodes device) (wire : WireId) :
    (layout.changeAll changes).Decoded wire := by
  obtain ⟨bels, own, _⟩ := BelsAgree.ofNetlist (Netlist.named_ofCells made) placed
  rw [← own] at final
  have wires := WiresAgree.ofNetlist (Netlist.unrouted_ofCells made) placed
  obtain ⟨_, agree, _⟩ := keeps_of_changes changes bels wires final
  exact ⟨fun _ => agree.wireSetting?_eq_some_iff, agree.wireSetting?_eq_none_iff⟩

end Layout

/-! ### A sample: a pin that is fed through a multiplexer with two inputs -/

namespace MuxSample

/-- The output of the pad leads to the multiplexer directly and by a loop. -/
def tileType : TileType :=
  ⟨"IOB", #[⟨"P0", "IOP", 0, 0, [⟨"O", 0, .output⟩], none, none⟩],
    #[⟨"P0.O", "", 0⟩, ⟨"loop", "", 0⟩, ⟨"D", "", 0⟩],
    #[⟨0, 1, 0, none⟩, ⟨0, 2, 0, some ⟨"M.0", 0, .mux, none⟩⟩, ⟨1, 2, 0, some ⟨"M.1", 1, .mux, none⟩⟩],
    #[]⟩

def chip : Chip :=
  ⟨"mux", 1, 1, #[tileType], #[⟨0, some ⟨"IOB0", none⟩⟩], [], []⟩

def device : Device :=
  ⟨chip, by decide +kernel, Indexes.ofChip chip, rfl⟩

def cells : List Cell :=
  [{ Cell.bare "pad" "IOP" with
      ports := (∅ : Std.ExtTreeMap Name Port).insert "O" ⟨.output, some "n"⟩
      bel := some ⟨0, 0⟩ }]

def netlist : Netlist :=
  (Netlist.ofCells .fresh cells).toOption.getD .empty

theorem made : Netlist.ofCells .fresh cells = .ok netlist :=
  Collecting.eq_ok_of_isSome (by decide +kernel)

def layout : Layout :=
  (Layout.ofNetlist device netlist).toOption.getD ⟨device, netlist, ∅, ∅, ∅⟩

theorem placed : Layout.ofNetlist device netlist = .ok layout :=
  Collecting.eq_ok_of_isSome (by decide +kernel)

/-- The pin is fed directly, so the other input is refused; then it is given up and fed by the loop. -/
def changes : List Layout.Change :=
  [.bindWire ⟨0, 0⟩ "n", .bindPip ⟨0, 0⟩ "n", .bindPip ⟨0, 1⟩ "n", .bindPip ⟨0, 2⟩ "n",
    .unbindWire ⟨0, 2⟩, .bindPip ⟨0, 2⟩ "n"]

theorem changes_nameNodes : ∀ change ∈ changes, change.NamesNodes device := by
  have source : device.canonical ⟨0, 0⟩ = ⟨0, 0⟩ := by decide +kernel
  simp only [changes, List.forall_mem_cons]
  exact ⟨source, trivial, trivial, trivial, trivial, trivial, by simp⟩

/-- In the end the loop is selected. -/
theorem loop_selected : (layout.changeAll changes).Decoded ⟨0, 2⟩ ∧
    (layout.changeAll changes).wireSetting? ⟨0, 2⟩ = some 1 := by
  refine ⟨Layout.settings_decoded made placed changes changes_nameNodes ⟨0, 2⟩, ?_⟩
  decide +kernel

end MuxSample

end UltraFabric
