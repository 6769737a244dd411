/-
# UltraFabric.Proofs.Gains — exactly what nets gain

`Plan.Reserves` says how the pass over clock nets takes wires.  This module says what has become of the
plan: `Plan.Gains` lists the wires that were given to nets, with the pips that drive them, and then

* a net has what it had and what the list gives it (`holds`);
* a pip is in use if it was, or if the list has it (`pips`); the list has no pip twice, and none that
  was in use before (`once`, `unused`);
* pips are blocked that were, and those into the wires on the list that got a pip (`blocked`).

Each taking gains one wire at most, and gains add up (`Gains.trans`).  A path that the search has found
is taken in full, whatever else is routed (`gains_of_found`): its pips lead to different wires that the
net does not have, so nobody has them, provided that nets have exactly the wires that are said to be
theirs (`Layout.WiresOwned`).  This is all that is asked of a plan here.
-/
import UltraFabric.Proofs.Routes

namespace UltraFabric

set_option autoImplicit false

/-- Pips end where they lead to, if there are any. -/
theorem Leads.goal_cases {goal : WireId} {path : List Arc} :
    ∀ {start : WireId}, Leads start path goal → start = goal ∨ ∃ arc ∈ path, arc.target = goal := by
  induction path with
  | nil => exact fun leads => Or.inl leads
  | cons arc rest ih =>
      rintro start ⟨_, leads⟩
      rcases ih leads with here | later
      · exact Or.inr ⟨arc, List.mem_cons_self, here⟩
      · exact Or.inr (List.exists_mem_cons_of_exists later)

/-- A wire that is given to a net, with the pip that drives it if there is one. -/
structure Taking where
  net : Name
  wire : WireId
  pip : Option PipId

/-- A pip that is given to a net. -/
def Arc.takenFor (net : Name) (arc : Arc) : Taking :=
  ⟨net, arc.target, some arc.pip⟩

namespace Plan

/-- Nets have got some wires, in order, and nothing else has happened to what is routed. -/
structure Gains (before : Plan) (takings : List Taking) (after : Plan) : Prop where
  same : before.SameButRouting after
  owned : after.layout.WiresOwned
  holds : ∀ name wire pip, after.layout.hold? name wire = some pip ↔
    before.layout.hold? name wire = some pip ∨ ⟨name, wire, pip⟩ ∈ takings
  pips : ∀ pip name, after.layout.pipNet? pip = some name ↔
    before.layout.pipNet? pip = some name ∨ ∃ wire, ⟨name, wire, some pip⟩ ∈ takings
  unused : ∀ taking ∈ takings, ∀ pip, taking.pip = some pip → before.layout.pipNet? pip = none
  once : (takings.filterMap Taking.pip).Nodup
  blocked : ∀ pip, pip ∈ after.fabric.reserved.blocked ↔ pip ∈ before.fabric.reserved.blocked ∨
    ∃ taking ∈ takings, taking.pip ≠ none ∧
      ∃ arc ∈ before.device.entering taking.wire, arc.pip = pip

namespace Gains

variable {before between after : Plan} {takings more : List Taking}

theorem refl {plan : Plan} (owned : plan.layout.WiresOwned) : plan.Gains [] plan where
  same := .refl plan
  owned := owned
  holds := by simp
  pips := by simp
  unused := by simp
  once := List.nodup_nil
  blocked := by simp

/-- **Gains add up.** -/
theorem trans (first : before.Gains takings between) (second : between.Gains more after) :
    before.Gains (takings ++ more) after where
  same := first.same.trans second.same
  owned := second.owned
  holds name wire pip := by rw [second.holds, first.holds, List.mem_append, or_assoc]
  pips pip name := by
    rw [second.pips, first.pips, or_assoc, ← exists_or]
    simp only [List.mem_append]
  unused := by
    intro taking member pip drives
    rcases List.mem_append.1 member with old | new
    · exact first.unused taking old pip drives
    · refine Option.eq_none_iff_forall_ne_some.2 fun name used => ?_
      have still := (first.pips pip name).2 (Or.inl used)
      rw [second.unused taking new pip drives] at still
      cases still
  once := by
    rw [List.filterMap_append, List.nodup_append]
    refine ⟨first.once, second.once, ?_⟩
    rintro pip old pip' new rfl
    obtain ⟨⟨name, wire, _⟩, member, rfl⟩ := List.mem_filterMap.1 old
    obtain ⟨taking, member', drives⟩ := List.mem_filterMap.1 new
    have used := (first.pips pip name).2 (Or.inr ⟨wire, member⟩)
    rw [second.unused taking member' pip drives] at used
    cases used
  blocked pip := by
    rw [second.blocked, first.blocked, or_assoc, first.same.device, ← exists_or]
    simp only [← or_and_right, List.mem_append]

/-- What a net has it keeps. -/
theorem keeps (gains : before.Gains takings after) {name : Name} {wire : WireId}
    {pip : Option PipId} (held : before.layout.hold? name wire = some pip) :
    after.layout.hold? name wire = some pip :=
  (gains.holds name wire pip).2 (Or.inl held)

theorem owns_iff (gains : before.Gains takings after) {name : Name} {wire : WireId} :
    after.Owns name wire ↔ before.Owns name wire ∨ ∃ pip, ⟨name, wire, pip⟩ ∈ takings := by
  simp only [owns_iff_hold?, gains.holds, exists_or]

theorem pipNet?_eq_none_iff (gains : before.Gains takings after) {pip : PipId} :
    after.layout.pipNet? pip = none ↔
      before.layout.pipNet? pip = none ∧ ∀ taking ∈ takings, taking.pip ≠ some pip := by
  simp only [Option.eq_none_iff_forall_ne_some, ne_eq, gains.pips, not_or, not_exists, forall_and]
  refine and_congr_right fun _ => ⟨?_, fun other name wire member => other _ member rfl⟩
  rintro other ⟨name, wire, _⟩ member rfl
  exact other name wire member

theorem wireNet?_eq_none (gains : before.Gains takings after) (owned : before.layout.WiresOwned)
    {wire : WireId} (free : before.layout.wireNet? wire = none)
    (elsewhere : ∀ taking ∈ takings, taking.wire ≠ wire) : after.layout.wireNet? wire = none := by
  refine Option.eq_none_iff_forall_ne_some.2 fun name bound => ?_
  obtain ⟨pip, held⟩ := (gains.owned wire name).1 bound
  rcases (gains.holds name wire pip).1 held with old | new
  · rw [owned.hold?_of_free free] at old
    cases old
  · exact elsewhere _ new rfl

theorem wireNet? (gains : before.Gains takings after) (owned : before.layout.WiresOwned)
    {name : Name} {wire : WireId} (bound : before.layout.wireNet? wire = some name) :
    after.layout.wireNet? wire = some name := by
  obtain ⟨pip, held⟩ := (owned wire name).1 bound
  exact (gains.owned wire name).2 ⟨pip, gains.keeps held⟩

end Gains

theorem SameButRouting.net?_eq_none_iff {before after : Plan} (same : before.SameButRouting after)
    {name : Name} : after.net? name = none ↔ before.net? name = none := by
  have nets : (after.net? name).map Net.unrouted = (before.net? name).map Net.unrouted :=
    same.design.nets name
  rw [← Option.map_eq_none_iff, nets, Option.map_eq_none_iff]

/-- A net has a wire exactly when the wire is said to be its own. -/
theorem wireNet?_eq_some_iff {plan : Plan} (owned : plan.layout.WiresOwned) {name : Name}
    {wire : WireId} : plan.layout.wireNet? wire = some name ↔ plan.Owns name wire := by
  rw [owns_iff_hold?]
  exact owned wire name

/-! ### One taking -/

section Taking

variable {before after : Plan} {name : Name} {wire : WireId}

/-- A free wire is given to a net. -/
theorem gains_take {net : Net} {pip : Option PipId} (owned : before.layout.WiresOwned)
    (found : before.layout.net? name = some net) (free : before.layout.netOnWire[wire]? = none)
    (unused : ∀ own, pip = some own → before.layout.netOnPip[own]? = none)
    (layout : after.layout = before.layout.take net name wire pip)
    (fabric : after.fabric = { before.fabric with reserved := after.fabric.reserved })
    (blocked : ∀ other, other ∈ after.fabric.reserved.blocked ↔
      other ∈ before.fabric.reserved.blocked ∨
        (pip ≠ none ∧ ∃ arc ∈ before.device.entering wire, arc.pip = other)) :
    before.Gains [⟨name, wire, pip⟩] after where
  same := ⟨layout ▸ Layout.sameDesign_take found, fabric⟩
  owned := layout ▸ owned.take found free pip
  holds other place own := by
    rw [layout, Layout.hold?_take found, List.mem_singleton, Taking.mk.injEq]
    split
    · rename_i here
      obtain ⟨rfl, rfl⟩ := here
      rw [owned.hold?_of_free free]
      simp [eq_comm]
    · rename_i elsewhere
      refine (or_iff_left ?_).symm
      rintro ⟨rfl, rfl, -⟩
      exact elsewhere ⟨rfl, rfl⟩
  pips own other := by
    rw [Layout.pipNet?, Layout.pipNet?, layout, Layout.netOnPip_take]
    split
    · rename_i drives
      rw [unused own drives]
      simp [drives, eq_comm]
    · rename_i another
      simp [Ne.symm another]
  unused := by
    intro taking member own drives
    cases List.mem_singleton.1 member
    exact unused own drives
  once := by cases pip <;> simp
  blocked other := by
    rw [blocked]
    simp

end Taking

/-! ### The functions that take -/

theorem blocked_nameCrossed (plan : Plan) (net : Name) (arc : Arc) :
    (plan.nameCrossed net arc).fabric.reserved.blocked = plan.fabric.reserved.blocked := by
  unfold nameCrossed
  split
  · rfl
  · simp only
    split
    · split <;> rfl
    · split <;> rfl
    · rfl

theorem blocked_reserveArc? {before after : Plan} {net : Name} {arc : Arc}
    (there : arc ∈ before.device.arcs) (reserved : before.reserveArc? net arc = some after)
    (pip : PipId) : pip ∈ after.fabric.reserved.blocked ↔ pip ∈ before.fabric.reserved.blocked ∨
      ∃ rival ∈ before.device.entering arc.target, rival.pip = pip := by
  obtain ⟨layout, _, rfl⟩ := Option.map_eq_some_iff.1 reserved
  have enters : arc ∈ before.device.entering arc.target :=
    Device.mem_entering_iff.2 ⟨there, rfl⟩
  simp only [blocked_nameCrossed, withReserved, Std.ExtTreeSet.mem_insertMany_list,
    Std.ExtTreeSet.mem_insert, Std.LawfulEqCmp.compare_eq_iff_eq, List.contains_iff_mem,
    List.mem_map]
  -- The pip itself is one of those into its wire.
  constructor
  · rintro ((rfl | blocked) | rival)
    · exact Or.inr ⟨arc, enters, rfl⟩
    · exact Or.inl blocked
    · exact Or.inr rival
  · exact Or.imp_left Or.inr

section Reserving

variable {before after : Plan} {net : Name}

theorem gains_reserveArc? {arc : Arc} (owned : before.layout.WiresOwned)
    (there : arc ∈ before.device.arcs) (reserved : before.reserveArc? net arc = some after) :
    before.Gains [arc.takenFor net] after := by
  obtain ⟨bound, notes⟩ := notes_reserveArc? reserved
  obtain ⟨unused, free, own, found, layout⟩ := Layout.bindArc?_eq_some_iff.1 bound
  refine gains_take owned found free (fun pip drives => ?_) layout notes.fabric fun pip => ?_
  · cases drives
    exact unused
  · rw [blocked_reserveArc? there reserved]
    simp

/-- A net that has the wire of its driver already gains nothing. -/
theorem gains_reserveSource? {wire : WireId} (owned : before.layout.WiresOwned)
    (reserved : before.reserveSource? net wire = some after) :
    ∃ takings, before.Gains takings after ∧ ∀ taking ∈ takings, taking = ⟨net, wire, none⟩ := by
  obtain ⟨layout, bound, rfl⟩ := Option.map_eq_some_iff.1 reserved
  rcases Layout.bindWire?_cases bound with ⟨_, rfl⟩ | ⟨free, own, found, rfl⟩
  · have same : before.SameButRouting (before.withReserved { before.fabric.reserved with
        wires := before.fabric.reserved.wires ++ [wire] }) := ⟨.refl before.layout, rfl⟩
    exact ⟨[], { Gains.refl owned with same }, by simp⟩
  · refine ⟨[⟨net, wire, none⟩], ?_, by simp⟩
    refine gains_take owned found free (fun _ impossible => by cases impossible) rfl rfl fun pip => ?_
    simp [withReserved]

/-- **Free pips that lead to different free wires are taken one after the other**, all of them. -/
theorem gains_reservePath (path : List Arc) : ∀ {plan : Plan}, plan.layout.WiresOwned →
    plan.net? net ≠ none → (path.map Arc.target).Nodup →
    (∀ arc ∈ path, arc ∈ plan.device.arcs ∧ plan.layout.pipNet? arc.pip = none ∧
      plan.layout.wireNet? arc.target = none) →
    (plan.reservePath net path).1 = true ∧
      plan.Gains (path.map (Arc.takenFor net)) (plan.reservePath net path).2 := by
  induction path with
  | nil => exact fun owned _ _ _ => ⟨rfl, .refl owned⟩
  | cons arc rest ih =>
      intro plan owned known distinct free
      obtain ⟨apart, distinct⟩ := List.nodup_cons.1 distinct
      obtain ⟨⟨there, unused, empty⟩, free⟩ := List.forall_mem_cons.1 free
      obtain ⟨own, found⟩ := Option.ne_none_iff_exists'.1 known
      obtain ⟨after, reserved⟩ : ∃ after, plan.reserveArc? net arc = some after := by
        obtain ⟨layout, bound⟩ : ∃ layout, plan.layout.bindArc? arc net = some layout :=
          ⟨_, Layout.bindArc?_eq_some_iff.2 ⟨unused, empty, own, found, rfl⟩⟩
        exact ⟨_, Option.map_eq_some_iff.2 ⟨layout, bound, rfl⟩⟩
      have first := gains_reserveArc? owned there reserved
      have later : (after.reservePath net rest).1 = true ∧
          after.Gains (rest.map (Arc.takenFor net)) (after.reservePath net rest).2 := by
        refine ih first.owned (mt first.same.net?_eq_none_iff.1 known) distinct
          fun other member => ?_
        · obtain ⟨there', unused', empty'⟩ := free other member
          have elsewhere : other.target ≠ arc.target := fun same =>
            apart (same ▸ List.mem_map_of_mem member)
          refine ⟨first.same.device ▸ there', first.pipNet?_eq_none_iff.2 ⟨unused', ?_⟩,
            first.wireNet?_eq_none owned empty' ?_⟩
          · rintro taking member' drives
            cases List.mem_singleton.1 member'
            have same : arc = other := Device.arc_ext there there' (Option.some.inj drives)
            exact elsewhere (congrArg Arc.target same).symm
          · rintro taking member' same
            cases List.mem_singleton.1 member'
            exact elsewhere same.symm
      simp only [reservePath_cons, reserved]
      exact ⟨later.1, first.trans later.2⟩

/-- **A path that has just been found is taken, all of it.** -/
theorem gains_of_found {plan : Plan} {target : WireId} {path : List Arc}
    (owned : plan.layout.WiresOwned) (found : plan.searchPath? net target = some path) :
    (plan.reservePath net path).1 = true ∧
      plan.Gains (path.map (Arc.takenFor net)) (plan.reservePath net path).2 := by
  have route := route_of_found found
  obtain ⟨_, ⟨own, known, _⟩, _⟩ := route.leads
  refine gains_reservePath path owned (by simp [known]) (distinct_of_found found) fun arc member => ?_
  obtain ⟨there, admissible⟩ := route.admitted arc member
  refine ⟨there, admissible.unused, Option.eq_none_iff_forall_ne_some.2 fun other claimed => ?_⟩
  -- The net may lead the path over wires of its own, but a shortest one does not.
  cases admissible.unclaimed other claimed
  exact outside_of_found found member ((wireNet?_eq_some_iff owned).1 claimed)

/-- The net has the wire then that the path was to lead to. -/
theorem owns_of_found {target : WireId} {path : List Arc}
    (found : before.searchPath? net target = some path)
    (gains : before.Gains (path.map (Arc.takenFor net)) after) : after.Owns net target := by
  obtain ⟨start, own, leads⟩ := (route_of_found found).leads
  rcases leads.goal_cases with rfl | ⟨arc, member, rfl⟩
  · exact gains.owns_iff.2 (Or.inl own)
  · exact gains.owns_iff.2 (Or.inr ⟨some arc.pip, List.mem_map_of_mem member⟩)

end Reserving

end Plan

end UltraFabric
