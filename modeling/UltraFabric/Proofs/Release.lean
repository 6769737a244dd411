/-
# UltraFabric.Proofs.Release — what is left of a pass when it is released

A release takes away every wire that the pass has noted.  The pass notes the wire of a driver also
where the net had it before, so a release takes more than the pass has given.

`Plan.Undoes` compares a plan under way with the one that the pass began with: taking away what has
been noted since leaves the first layout without those of the noted wires that were in it.  One taking
keeps this (`Takes.undoes`), because wires may be taken away in any order (`Layout.unbindWire_comm`) and
taking one away undoes that it was given (`Layout.unbindWire_take`).

So what a pass and its release lose is known (`release_reserve`): wires of drivers that their nets had
already, and all of these if the pass ends well.  `RingSample.source_lost` is one.
-/
import Mathlib.Data.List.Perm.Basic
import UltraFabric.Proofs.Trees

namespace UltraFabric

set_option autoImplicit false

namespace Layout

/-- Nets are stored under their own names. -/
def NetsNamed (layout : Layout) : Prop :=
  ∀ name net, layout.net? name = some net → net.name = name

theorem NetsNamed.change {layout : Layout} (named : layout.NetsNamed) (change : Change) :
    (layout.change change).NetsNamed := by
  intro name net found
  have same := layout.nets_change change name
  rw [found, Option.map_some] at same
  obtain ⟨own, found', unrouted⟩ := Option.map_eq_some_iff.1 same.symm
  have names : own.unrouted.name = net.unrouted.name := congrArg Net.name unrouted
  exact names.symm.trans (named name own found')

theorem NetsNamed.changeAll (changes : List Change) :
    ∀ {layout : Layout}, layout.NetsNamed → (layout.changeAll changes).NetsNamed := by
  induction changes with
  | nil =>
      intro layout named
      exact named
  | cons change rest ih =>
      intro layout named
      exact ih (named.change change)

theorem NetsNamed.ofNetlist {device : Device} {netlist : Netlist} {layout : Layout}
    (unrouted : Netlist.Unrouted netlist.nets) (placed : Layout.ofNetlist device netlist = .ok layout) :
    layout.NetsNamed := by
  simp only [Layout.ofNetlist] at placed
  split at placed
  · cases placed
  · cases placed
    exact fun name net found => (unrouted name net found).1

theorem foldl_unbindWire_append (wires : List WireId) (wire : WireId) (layout : Layout) :
    (wires ++ [wire]).foldl unbindWire layout = wires.foldl unbindWire (layout.unbindWire wire) := by
  have : RightCommutative unbindWire := ⟨unbindWire_comm⟩
  exact (List.perm_append_singleton wire wires).foldl_eq layout

end Layout

namespace Plan

/-- A wire that a clock net has as the wire of its driver. -/
def OwnSource (plan : Plan) (wire : WireId) : Prop :=
  ∃ name, plan.IsClockNet name ∧ plan.sourceWire? name = some wire ∧
    plan.layout.wireNet? wire = some name

/-- Those of some wires that have a net. -/
def taken (layout : Layout) (wires : List WireId) : List WireId :=
  wires.filter fun wire => layout.netOnWire.contains wire

theorem mem_taken_iff {layout : Layout} {wires : List WireId} {wire : WireId} :
    wire ∈ taken layout wires ↔ wire ∈ wires ∧ layout.netOnWire[wire]? ≠ none := by
  rw [taken, List.mem_filter, Std.ExtTreeMap.contains_eq_isSome_getElem?, Option.isSome_iff_ne_none]

theorem taken_append (layout : Layout) (wires : List WireId) (wire : WireId) :
    taken layout (wires ++ [wire]) =
      taken layout wires ++ if layout.netOnWire[wire]? = none then [] else [wire] := by
  rw [taken, List.filter_append, ← taken]
  congr 1
  rw [List.filter_cons, List.filter_nil, Std.ExtTreeMap.contains_eq_isSome_getElem?]
  cases layout.netOnWire[wire]? <;> rfl

/-- A pass that began with `first` is under way: taking away what it has noted leaves the first layout,
but for noted wires that had a net from the beginning. -/
structure Undoes (first plan : Plan) : Prop where
  agree : plan.layout.WiresAgree
  same : first.SameButRouting plan
  kept : ∀ (wire : WireId) name, first.layout.netOnWire[wire]? = some name →
    plan.layout.netOnWire[wire]? = some name
  undone : plan.fabric.reserved.wires.foldl Layout.unbindWire plan.layout =
    (taken first.layout plan.fabric.reserved.wires).foldl Layout.unbindWire first.layout
  own : ∀ wire ∈ taken first.layout plan.fabric.reserved.wires, first.OwnSource wire

/-- A wire that is free was free from the beginning. -/
theorem Undoes.free {first plan : Plan} (undoes : first.Undoes plan) {wire : WireId}
    (free : plan.layout.netOnWire[wire]? = none) : first.layout.netOnWire[wire]? = none := by
  refine Option.eq_none_iff_forall_ne_some.2 fun name bound => ?_
  rw [undoes.kept wire name bound] at free
  cases free

/-- A wire that has just been taken is taken away again, and no trace of it is left. -/
theorem Undoes.take {first before after : Plan} (undoes : first.Undoes before)
    (takes : before.Takes after) {name : Name} {wire : WireId} {net : Net} {pip : Option PipId}
    (found : before.layout.net? name = some net) (free : before.layout.netOnWire[wire]? = none)
    (unused : ∀ own, pip = some own → before.layout.netOnPip[own]? = none)
    (layout : after.layout = before.layout.take net name wire pip)
    (notes : before.Notes wire after) : first.Undoes after := by
  have nothing := Layout.unbindWire_take undoes.agree found free unused
  have before' := undoes.free free
  have wires : taken first.layout after.fabric.reserved.wires =
      taken first.layout before.fabric.reserved.wires := by
    rw [notes.wires, taken_append, if_pos before', List.append_nil]
  refine ⟨takes.agree undoes.agree, undoes.same.trans takes.sameButRouting, fun place other bound => ?_,
    ?_, ?_⟩
  · rw [layout, Layout.netOnWire_take]
    split
    · rename_i here
      rw [← here, before'] at bound
      cases bound
    · exact undoes.kept place other bound
  · rw [wires, notes.wires, Layout.foldl_unbindWire_append, layout, nothing]
    exact undoes.undone
  · rw [wires]
    exact undoes.own

/-- **One taking keeps that everything can be undone**, but for a source that its net had. -/
theorem Takes.undoes {first before after : Plan} (takes : before.Takes after)
    (undoes : first.Undoes before) : first.Undoes after := by
  cases takes with
  | source name wire net clock drives found free layout notes =>
      exact undoes.take (.source name wire net clock drives found free layout notes) found free
        (fun own impossible => by cases impossible) layout notes
  | pip name arc net there fed found unused free layout notes =>
      refine undoes.take (.pip name arc net there fed found unused free layout notes) found free
        (fun own same => ?_) layout notes
      cases same
      exact unused
  | keep name wire clock drives owned layout notes =>
      have takes : before.Takes after := .keep name wire clock drives owned layout notes
      refine ⟨takes.agree undoes.agree, undoes.same.trans takes.sameButRouting,
        fun place other bound => ?_, ?_, fun place member => ?_⟩
      · rw [layout]
        exact undoes.kept place other bound
      · rw [layout, notes.wires, taken_append, List.foldl_append, undoes.undone]
        split
        · -- The wire had no net at first, so it has none in what is left of the first layout either.
          rename_i free
          rw [List.append_nil]
          refine Layout.unbindWire_of_free ?_
          rw [Layout.netOnWire_foldl_unbindWire, free]
          split <;> rfl
        · rw [List.foldl_append]
      · rw [notes.wires, taken_append, List.mem_append] at member
        rcases member with old | new
        · exact undoes.own place old
        · split at new
          · cases new
          · rename_i bound
            cases List.mem_singleton.1 new
            obtain ⟨other, bound⟩ := Option.ne_none_iff_exists'.1 bound
            cases (undoes.kept wire other bound).symm.trans owned
            exact ⟨name, (undoes.same.isClockNet_iff name).1 clock,
              (undoes.same.sourceWire? name).symm.trans drives, bound⟩

theorem Reserves.undoes {first before after : Plan} (reserves : before.Reserves after)
    (undoes : first.Undoes before) : first.Undoes after := by
  induction reserves with
  | refl => exact undoes
  | tail _ takes ih => exact takes.undoes ih

theorem Undoes.refl {plan : Plan} (agree : plan.layout.WiresAgree)
    (unreserved : plan.fabric.reserved = .none) : plan.Undoes plan := by
  have none_noted : plan.fabric.reserved.wires = [] := by
    rw [unreserved]
    rfl
  refine ⟨agree, SameButRouting.refl plan, fun _ _ bound => bound, ?_, fun wire member => ?_⟩
  · rw [none_noted]
    rfl
  · rw [none_noted] at member
    cases member

end Plan

/-! ### A pass that ends well -/

namespace LowSkewPass

open Plan

/-- A net that is served has the wire of its driver noted. -/
theorem noted_serveNet {pass after : LowSkewPass} {net : Name} {wire : WireId}
    (clock : pass.plan.IsClockNet net) (drives : pass.plan.sourceWire? net = some wire)
    (served : pass.serveNet net = (after, .ok ())) :
    wire ∈ after.plan.fabric.reserved.wires := by
  rw [serveNet_eq] at served
  cases targets : pass.plan.lowSkewTargets? net with
  | none => exact absurd targets clock
  | some ends =>
      obtain ⟨driver, sinks⟩ := ends
      rw [sourceWire?, driver_of_targets targets] at drives
      cases driver with
      | none => cases drives
      | some driver =>
          rw [Option.bind_some] at drives
          simp only [targets, drives] at served
          cases reserved : pass.plan.reserveSource? net wire with
          | none =>
              simp only [reserved] at served
              cases served
          | some plan =>
              have noted : wire ∈ plan.fabric.reserved.wires := by
                obtain ⟨layout, _, rfl⟩ := Option.map_eq_some_iff.1 reserved
                exact List.mem_append_right _ List.mem_cons_self
              have rest := (reserves_serveSinks net sinks false { pass with plan }).noted noted
              simp only [reserved] at served
              generalize serveSinks net sinks false { pass with plan } = answer at rest served
              obtain ⟨last, fault | (_ | _)⟩ := answer
              · cases served
              · cases served
                exact rest
              · cases served
                exact rest

theorem noted_serveNets {first : Plan} {name : Name} {wire : WireId}
    (clock : first.IsClockNet name) (drives : first.sourceWire? name = some wire)
    (names : List Name) : ∀ {pass after : LowSkewPass}, first.SameButRouting pass.plan →
      serveNets names pass = (after, .ok ()) → name ∈ names →
      wire ∈ after.plan.fabric.reserved.wires := by
  induction names with
  | nil =>
      intro pass after _ _ member
      cases member
  | cons net rest ih =>
      intro pass after same served member
      simp only [serveNets_cons] at served
      split at served
      · cases served
      · rename_i between answer
        have reserves := reserves_serveNet pass net
        have later := reserves_serveNets rest between
        rw [answer] at reserves
        rw [served] at later
        rcases List.mem_cons.1 member with rfl | member
        · refine later.noted (noted_serveNet ?_ ?_ answer)
          · exact (same.isClockNet_iff name).2 clock
          · exact (same.sourceWire? name).trans drives
        · exact ih (same.trans reserves.sameButRouting) served member

end LowSkewPass

namespace Plan

/-- Each net whose driver has a wire is among those that a pass goes through. -/
theorem listed_of_sourced {plan : Plan} (named : plan.layout.NetsNamed) {name : Name}
    {wire : WireId} (drives : plan.sourceWire? name = some wire) :
    name ∈ plan.layout.netlist.netList.map Net.name := by
  obtain ⟨driver, found, _⟩ := Option.bind_eq_some_iff.1 drives
  obtain ⟨net, found, _⟩ := Option.bind_eq_some_iff.1 found
  exact List.mem_map.2 ⟨net, Entries.mem_values_iff.2 ⟨name, found⟩, named name net found⟩

theorem noted_reserveLowSkew {plan : Plan} (named : plan.layout.NetsNamed)
    (well : plan.reserveLowSkew.2 = .ok ()) {wire : WireId} (own : plan.OwnSource wire) :
    wire ∈ plan.reserveLowSkew.1.plan.fabric.reserved.wires := by
  obtain ⟨name, clock, drives, _⟩ := own
  have listed := listed_of_sourced named drives
  rw [reserveLowSkew_eq] at well ⊢
  split at well
  · cases well
  · rename_i pass answer
    have noted : wire ∈ pass.plan.fabric.reserved.wires :=
      LowSkewPass.noted_serveNets clock drives _ (SameButRouting.refl plan) answer listed
    exact noted

/-! ### A pass and its release -/

/-- What is lost when a plan becomes another one: nothing of the architecture, and of the layout some
wires that clock nets had as the wires of their drivers. -/
structure Loses (before : Plan) (lost : List WireId) (after : Plan) : Prop where
  fabric : after.fabric = before.fabric
  layout : after.layout = lost.foldl Layout.unbindWire before.layout
  own : ∀ wire ∈ lost, before.OwnSource wire

/-- The layout is as it was exactly when no wire is lost. -/
theorem Loses.layout_eq_iff {before after : Plan} {lost : List WireId}
    (loses : before.Loses lost after) : after.layout = before.layout ↔ lost = [] := by
  constructor
  · intro same
    refine List.eq_nil_iff_forall_not_mem.2 fun wire member => ?_
    obtain ⟨name, _, _, bound⟩ := loses.own wire member
    have gone := Layout.netOnWire_foldl_unbindWire lost wire before.layout
    rw [← loses.layout, same, if_pos member] at gone
    rw [Layout.wireNet?, gone] at bound
    cases bound
  · rintro rfl
    exact loses.layout

theorem Undoes.loses {first plan : Plan} (undoes : first.Undoes plan)
    (unreserved : first.fabric.reserved = .none) :
    first.Loses (taken first.layout plan.fabric.reserved.wires) plan.releaseLowSkew where
  fabric := by
    change { plan.fabric with reserved := Reservations.none } = first.fabric
    rw [undoes.same.fabric, ← unreserved]
  layout := undoes.undone
  own := undoes.own

/-- **What a release does not give back.**  A layout is placed and changed in any way, and nothing is
reserved; then clock paths are reserved, whether that ends well or not, and released.  All of the
architecture is as before, and the layout has lost nothing but wires that clock nets had as the wires
of their drivers; if the pass ends well, it has lost all of these.  So the layout is as before exactly
when nothing is lost. -/
theorem release_reserve {lexicon : Lexicon} {cells : List Cell} {netlist : Netlist}
    (made : Netlist.ofCells lexicon cells = .ok netlist) {device : Device} {layout : Layout}
    (placed : Layout.ofNetlist device netlist = .ok layout) {changes : List Layout.Change}
    (final : ∀ change ∈ changes, change.NamesNodes device) {plan : Plan}
    (changed : plan.layout = layout.changeAll changes) (unreserved : plan.fabric.reserved = .none) :
    ∃ lost, plan.Loses lost plan.reserveLowSkew.1.plan.releaseLowSkew ∧
      (plan.reserveLowSkew.1.plan.releaseLowSkew.layout = plan.layout ↔ lost = []) ∧
      (plan.reserveLowSkew.2 = .ok () → ∀ wire, wire ∈ lost ↔ plan.OwnSource wire) := by
  have unrouted := Netlist.unrouted_ofCells made
  obtain ⟨bels, device, _⟩ := Layout.BelsAgree.ofNetlist (Netlist.named_ofCells made) placed
  rw [← device] at final
  obtain ⟨_, agree, _⟩ :=
    Layout.keeps_of_changes changes bels (.ofNetlist unrouted placed) final
  have named := (Layout.NetsNamed.ofNetlist unrouted placed).changeAll changes
  rw [← changed] at agree named
  have undoes := plan.reserves_reserveLowSkew.undoes (.refl agree unreserved)
  have loses := undoes.loses unreserved
  refine ⟨_, loses, loses.layout_eq_iff, fun well wire => ⟨loses.own wire, fun own => ?_⟩⟩
  refine mem_taken_iff.2 ⟨noted_reserveLowSkew named well own, ?_⟩
  obtain ⟨name, _, _, bound⟩ := own
  rw [Layout.wireNet?] at bound
  rw [bound]
  simp

end Plan

namespace RingSample

/-- The clock of the sample has the wire of its pad before any path is reserved. -/
def sourced : Plan :=
  { plan with layout := layout.changeAll [.bindWire ⟨0, 0⟩ "clk"] }

theorem final_sourced : ∀ change ∈ [Layout.Change.bindWire ⟨0, 0⟩ "clk"],
    change.NamesNodes device := by
  have source : device.canonical ⟨0, 0⟩ = ⟨0, 0⟩ := by decide +kernel
  simp only [List.forall_mem_cons]
  exact ⟨source, by simp⟩

theorem loses_sourced :
    ∃ lost, sourced.Loses lost sourced.reserveLowSkew.1.plan.releaseLowSkew ∧
      (sourced.reserveLowSkew.1.plan.releaseLowSkew.layout = sourced.layout ↔ lost = []) ∧
      (sourced.reserveLowSkew.2 = .ok () → ∀ wire, wire ∈ lost ↔ sourced.OwnSource wire) :=
  Plan.release_reserve made placed final_sourced rfl rfl

/-- The clock has the wire of its pad, the pass ends well and is released, and the clock has lost the
wire that it had before. -/
theorem source_lost :
    (Netlist.ofCells .fresh cells = .ok netlist ∧ Layout.ofNetlist device netlist = .ok layout ∧
      sourced.layout = layout.changeAll [.bindWire ⟨0, 0⟩ "clk"] ∧
      ∀ change ∈ [Layout.Change.bindWire ⟨0, 0⟩ "clk"], change.NamesNodes device) ∧
      sourced.fabric.reserved = .none ∧
      sourced.reserveLowSkew.2 = .ok () ∧
      sourced.layout.wireNet? ⟨0, 0⟩ = some "clk" ∧
      sourced.reserveLowSkew.1.plan.releaseLowSkew.layout.wireNet? ⟨0, 0⟩ = none :=
  ⟨⟨made, placed, rfl, final_sourced⟩, rfl, by decide +kernel, by decide +kernel, by decide +kernel⟩

end RingSample

end UltraFabric
