/-
# UltraFabric.Proofs.Sinks — serving one sink cuts off no other

When a path is reserved, its pips and all others into its wires are out of use.  None of this harms the
net itself: what is lost leads to wires that the net has by now, so a route to another sink is broken
only where the net has come nearer to that sink.  What is left of the route behind the last wire of the
net (`Leads.clear_cases`) is a route again, and not a longer one (`Gains.exists_route`).

The sinks of a net are served one after the other, and it does not matter in which order: a sink that
has a route at first still has one when its turn comes, and not a longer one
(`Plan.searchPath?_of_reserved`).
-/
import UltraFabric.Proofs.Bindings
import UltraFabric.Proofs.Served

namespace UltraFabric

set_option autoImplicit false

/-- Pips lead over none of some wires, or from the last one of these they lead on over other wires
only. -/
theorem Leads.clear_cases (held : WireId → Prop) {goal : WireId} {path : List Arc} :
    ∀ {start : WireId}, Leads start path goal →
      (∀ arc ∈ path, ¬ held arc.target) ∨
        ∃ wire rest, held wire ∧ Leads wire rest goal ∧ rest <:+ path ∧
          ∀ arc ∈ rest, ¬ held arc.target := by
  induction path with
  | nil => exact fun _ => Or.inl (by simp)
  | cons arc rest ih =>
      rintro start ⟨_, leads⟩
      rcases ih leads with clear | ⟨wire, more, last, leads, later, clear⟩
      · by_cases here : held arc.target
        · exact Or.inr ⟨arc.target, rest, here, leads, List.suffix_cons arc rest, clear⟩
        · exact Or.inl (List.forall_mem_cons.2 ⟨here, clear⟩)
      · exact Or.inr ⟨wire, more, last, leads, later.trans (List.suffix_cons arc rest), clear⟩

namespace Plan

section Served

variable {before after : Plan} {net : Name} {path : List Arc}

/-- **Only pips into the wires of the net are lost** when the net takes a path. -/
theorem Gains.admissible (owned : before.layout.WiresOwned)
    (gains : before.Gains (path.map (Arc.takenFor net)) after)
    (taken : ∀ arc ∈ path, arc ∈ before.device.arcs) {target : WireId} {arc : Arc}
    (there : arc ∈ before.device.arcs) (admissible : before.Admissible net target arc)
    (outside : ¬ after.Owns net arc.target) : after.Admissible net target arc := by
  have apart : ∀ other ∈ path, other.target ≠ arc.target := fun other member same =>
    outside (gains.owns_iff.2 (Or.inr ⟨some other.pip, same ▸ List.mem_map_of_mem member⟩))
  refine ⟨?_, ?_, ?_, ?_, ?_⟩
  · rw [gains.blocked]
    rintro (blocked | ⟨taking, member, _, rival, enters, same⟩)
    · exact admissible.unblocked blocked
    · obtain ⟨other, inPath, rfl⟩ := List.mem_map.1 member
      obtain ⟨entered, ends⟩ := Device.mem_entering_iff.1 enters
      cases Device.arc_ext entered there same
      exact apart other inPath ends.symm
  · refine gains.pipNet?_eq_none_iff.2 ⟨admissible.unused, fun taking member drives => ?_⟩
    obtain ⟨other, inPath, rfl⟩ := List.mem_map.1 member
    have same : other = arc := Device.arc_ext (taken other inPath) there (Option.some.inj drives)
    exact apart other inPath (congrArg Arc.target same)
  · rw [isLowSkewWire, gains.same.device]
    exact admissible.dedicated
  · intro other claimed
    obtain ⟨pip, held⟩ := (gains.owned arc.target other).1 claimed
    rcases (gains.holds other arc.target pip).1 held with old | new
    · exact admissible.unclaimed other ((owned arc.target other).2 ⟨pip, old⟩)
    · obtain ⟨_, _, same⟩ := List.mem_map.1 new
      exact (congrArg Taking.net same).symm
  · rw [gains.same.design.cellOn]
    exact admissible.uncrossed

/-- **A route to another wire is left**, unless it is longer than before. -/
theorem Gains.exists_route (owned : before.layout.WiresOwned)
    (gains : before.Gains (path.map (Arc.takenFor net)) after)
    (taken : ∀ arc ∈ path, arc ∈ before.device.arcs) {target : WireId} {route : List Arc}
    (leads : before.Route net target route) :
    ∃ rest, after.Route net target rest ∧ rest.length ≤ route.length := by
  obtain ⟨⟨start, first, leads⟩, admitted⟩ := leads
  have kept : ∀ arc ∈ route, ¬ after.Owns net arc.target →
      arc ∈ after.device.arcs ∧ after.Admissible net target arc := by
    intro arc member outside
    obtain ⟨there, admissible⟩ := admitted arc member
    exact ⟨gains.same.device ▸ there, gains.admissible owned taken there admissible outside⟩
  rcases leads.clear_cases (after.Owns net) with clear | ⟨wire, rest, last, leads, later, clear⟩
  · have first := gains.owns_iff.2 (Or.inl first)
    exact ⟨route, ⟨⟨start, first, leads⟩, fun arc member => kept arc member (clear arc member)⟩,
      Nat.le_refl _⟩
  · refine ⟨rest, ⟨⟨wire, last, leads⟩, fun arc member => ?_⟩, later.length_le⟩
    exact kept arc (later.subset member) (clear arc member)

end Served

/-- A search that can find something does, and nothing longer. -/
theorem exists_searchPath? {plan : Plan} {net : Name} {target : WireId} {route : List Arc}
    (leads : plan.Route net target route) :
    ∃ path, plan.searchPath? net target = some path ∧ path.length ≤ route.length := by
  cases found : plan.searchPath? net target with
  | none => exact absurd ⟨route, leads⟩ (searchPath?_eq_none_iff.1 found)
  | some path => exact ⟨path, rfl, shortest_of_found found leads⟩

/-- A search comes back without pips where the net has the wire already, and only there. -/
theorem found_nil_iff {plan : Plan} {net : Name} {target : WireId} {path : List Arc}
    (found : plan.searchPath? net target = some path) : path = [] ↔ plan.Owns net target := by
  constructor
  · rintro rfl
    obtain ⟨start, own, rfl⟩ := (route_of_found found).leads
    exact own
  · intro own
    have here : plan.Route net target [] := ⟨⟨target, own, rfl⟩, by simp⟩
    exact List.eq_nil_of_length_eq_zero (Nat.le_zero.1 (shortest_of_found found here))

/-- **Serving one sink cuts off no other.**  Wires, pips and nets agree with each other, and a net finds
paths to two wires.  Then all of the first path can be reserved, and after that the net finds a path to
the second wire again, which is not longer than before; it is without pips exactly when the wire is the
net's by then. -/
theorem searchPath?_of_reserved {plan : Plan} (consistent : plan.layout.Consistent) {net : Name}
    {first second : WireId} {path other : List Arc}
    (found : plan.searchPath? net first = some path)
    (found' : plan.searchPath? net second = some other) :
    (plan.reservePath net path).1 = true ∧
      ∃ again, (plan.reservePath net path).2.searchPath? net second = some again ∧
        again.length ≤ other.length ∧
        (again = [] ↔ (plan.reservePath net path).2.layout.wireNet? second = some net) := by
  have owned := consistent.wiresOwned
  obtain ⟨all, gains⟩ := gains_of_found owned found
  obtain ⟨rest, leads, shorter⟩ := gains.exists_route owned
    (fun arc member => ((route_of_found found).admitted arc member).1) (route_of_found found')
  obtain ⟨again, found'', shortest⟩ := exists_searchPath? leads
  refine ⟨all, again, found'', Nat.le_trans shortest shorter, ?_⟩
  rw [found_nil_iff found'', wireNet?_eq_some_iff gains.owned]

end Plan

/-! ### A sample: a pad that feeds two waveform generators over the clock ring -/

namespace ForkSample

/-- The output of the pad leads to the ring, and the ring to both generators. -/
def tileType : TileType :=
  ⟨"IOB", #[⟨"P0", "IOP", 0, 0, [⟨"O", 0, .output⟩], none, none⟩,
      ⟨"W0", "WFG", 1, 0, [⟨"ZI", 2, .input⟩], none, none⟩,
      ⟨"W1", "WFG", 2, 0, [⟨"ZI", 3, .input⟩], none, none⟩],
    #[⟨"P0.O", "", 0⟩, ⟨"ring", "", 1⟩, ⟨"W0.ZI", "", 0⟩, ⟨"W1.ZI", "", 0⟩],
    #[⟨0, 1, 0, none⟩, ⟨1, 2, 0, none⟩, ⟨1, 3, 0, none⟩], #[]⟩

def chip : Chip :=
  ⟨"fork", 1, 1, #[tileType], #[⟨0, some ⟨"IOB0", none⟩⟩], [], []⟩

def device : Device :=
  ⟨chip, by decide +kernel, Indexes.ofChip chip, rfl⟩

def cells : List Cell :=
  [{ Cell.bare "pad" "IOP" with
      ports := (∅ : Std.ExtTreeMap Name Port).insert "O" ⟨.output, some "clk"⟩
      bel := some ⟨0, 0⟩ },
    { Cell.bare "gen" "WFG" with
      ports := (∅ : Std.ExtTreeMap Name Port).insert "ZI" ⟨.input, some "clk"⟩
      bel := some ⟨0, 1⟩ },
    { Cell.bare "two" "WFG" with
      ports := (∅ : Std.ExtTreeMap Name Port).insert "ZI" ⟨.input, some "clk"⟩
      bel := some ⟨0, 2⟩ }]

def netlist : Netlist :=
  ⟨.ofList (cells.map fun cell => (cell.name, cell)),
    (∅ : Std.ExtTreeMap Name Net).insert "clk"
      ⟨"clk", some ⟨"pad", "O"⟩, [⟨"gen", "ZI"⟩, ⟨"two", "ZI"⟩], ∅⟩⟩

theorem made : Netlist.ofCells .fresh cells = .ok netlist :=
  Netlist.ofCells_of_ordered (by decide +kernel) (by decide +kernel) (by decide +kernel)

def layout : Layout :=
  (Layout.ofNetlist device netlist).toOption.getD ⟨device, netlist, ∅, ∅, ∅⟩

theorem placed : Layout.ofNetlist device netlist = .ok layout :=
  Collecting.eq_ok_of_isSome (by decide +kernel)

def fabric : Fabric :=
  Fabric.ofOptions ⟨.firstFit, 8, 120, 18, 22, 40, 10, true⟩
    ⟨(∅ : Std.ExtTreeMap PrimitivePort SinkTier).insert ⟨"WFG", "ZI"⟩ .ring, ∅⟩

/-- The clock has the wire of its pad. -/
def plan : Plan :=
  ⟨.fresh, fabric, layout.changeAll [.bindWire ⟨0, 0⟩ "clk"]⟩

theorem consistent : plan.layout.Consistent := by
  have source : device.canonical ⟨0, 0⟩ = ⟨0, 0⟩ := by decide +kernel
  obtain ⟨bels, own, _⟩ := Layout.BelsAgree.ofNetlist (Netlist.named_ofCells made) placed
  obtain ⟨bels, wires, _⟩ := Layout.keeps_of_changes [.bindWire ⟨0, 0⟩ "clk"] bels
    (.ofNetlist (Netlist.unrouted_ofCells made) placed)
    (by simp only [List.forall_mem_cons, own]; exact ⟨source, by simp⟩)
  exact Layout.consistent_of_agree bels wires

def arc (index source target : Nat) : Arc :=
  ⟨⟨0, index⟩, ⟨0, source⟩, ⟨0, target⟩, ⟨source, target, 0, none⟩⟩

theorem found_first : plan.searchPath? "clk" ⟨0, 2⟩ = some [arc 0 0 1, arc 1 1 2] := by decide +kernel

theorem found_second : plan.searchPath? "clk" ⟨0, 3⟩ = some [arc 0 0 1, arc 2 1 3] := by decide +kernel

/-- Both generators are two pips from the pad.  After the first one is served, the path to the second
one begins at the ring. -/
theorem second_of_first :
    (plan.layout.Consistent ∧
      plan.searchPath? "clk" ⟨0, 2⟩ = some [arc 0 0 1, arc 1 1 2] ∧
      plan.searchPath? "clk" ⟨0, 3⟩ = some [arc 0 0 1, arc 2 1 3]) ∧
      (plan.reservePath "clk" [arc 0 0 1, arc 1 1 2]).1 = true ∧
      ∃ again, (plan.reservePath "clk" [arc 0 0 1, arc 1 1 2]).2.searchPath? "clk" ⟨0, 3⟩ =
          some again ∧ again.length ≤ [arc 0 0 1, arc 2 1 3].length ∧
        (again = [] ↔
          (plan.reservePath "clk" [arc 0 0 1, arc 1 1 2]).2.layout.wireNet? ⟨0, 3⟩ = some "clk") :=
  ⟨⟨consistent, found_first, found_second⟩,
    Plan.searchPath?_of_reserved consistent found_first found_second⟩

example : (plan.reservePath "clk" [arc 0 0 1, arc 1 1 2]).2.searchPath? "clk" ⟨0, 3⟩ =
    some [arc 2 1 3] := by decide +kernel

end ForkSample

end UltraFabric
