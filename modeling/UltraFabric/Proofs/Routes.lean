/-
# UltraFabric.Proofs.Routes — the search finds a shortest route, or there is none

A route of a net to a wire begins at a wire of the net and leads on pip by pip, over pips that the net
may use on its way there (`Plan.Route`, `Plan.Admissible`).  The search looks for one in rounds, and
`Plan.Level` is what it knows after each of them:

* what it reached in round `k` it reached over `k` pips (`near`);
* it has seen exactly the wires to which some walk of at most `k` pips leads (`seen_iff`);
* what it has seen and did not reach in this round is nearer (`last`).

One round makes level `k` into level `k + 1` (`Level.next`).  So a target that is reached for the first
time is reached by as few pips as possible, and a round that finds nothing has closed what can be
reached (`Level.exhausted`).

A shortest route cannot come back to the net or to a wire that it has passed, because what lies between
could be left out (`Walk.distinct`, `Walk.outside`).  Nothing here asks whether wires, pips and nets
agree with each other.
-/
import Mathlib.Data.List.Nodup
import UltraFabric.Proofs.Bels
import UltraFabric.Proofs.Reserving

namespace UltraFabric

set_option autoImplicit false

/-- Pips that lead from one wire to another: each leaves the wire that the one before it leads to. -/
def Leads : WireId → List Arc → WireId → Prop
  | start, [], goal => start = goal
  | start, arc :: rest, goal => arc.source = start ∧ Leads arc.target rest goal

theorem Leads.append_iff {start goal : WireId} {path more : List Arc} :
    Leads start (path ++ more) goal ↔ ∃ wire, Leads start path wire ∧ Leads wire more goal := by
  induction path generalizing start with
  | nil => simp [Leads]
  | cons arc rest ih => simp only [List.cons_append, Leads, ih, and_assoc, exists_and_left]

namespace Plan

/-- The net has the wire, as its source or driven by a pip. -/
def Owns (plan : Plan) (net : Name) (wire : WireId) : Prop :=
  ∃ own, plan.net? net = some own ∧ wire ∈ own.wires

/-- What lets a net use a pip on its way to a wire. -/
structure Admissible (plan : Plan) (net : Name) (target : WireId) (arc : Arc) : Prop where
  unblocked : arc.pip ∉ plan.fabric.reserved.blocked
  unused : plan.layout.pipNet? arc.pip = none
  dedicated : arc.target = target ∨ plan.isLowSkewWire arc.target = true
  unclaimed : ∀ other, plan.layout.wireNet? arc.target = some other → other = net
  uncrossed : ∀ bel, arc.crossedBel? = some bel → plan.layout.cellOn[bel]? = none

/-- Pips that a net may use, which lead from one of its wires to another wire. -/
structure Route (plan : Plan) (net : Name) (target : WireId) (path : List Arc) : Prop where
  leads : ∃ start, plan.Owns net start ∧ Leads start path target
  admitted : ∀ arc ∈ path, arc ∈ plan.device.arcs ∧ plan.Admissible net target arc

section Search

variable {plan : Plan} {net : Name} {target : WireId} {tree : List WireId}

theorem owns_iff_hold? {wire : WireId} :
    plan.Owns net wire ↔ ∃ pip, plan.layout.hold? net wire = some pip :=
  Layout.mem_wires_iff.symm

theorem mem_treeOf_iff {wire : WireId} : wire ∈ plan.treeOf net ↔ plan.Owns net wire := by
  unfold treeOf Owns
  cases plan.net? net with
  | none => simp
  | some own => simp

theorem admits_iff {arc : Arc} :
    plan.admits net target arc = true ↔ plan.Admissible net target arc := by
  have unblocked : plan.isOpen arc.pip = true ↔ arc.pip ∉ plan.fabric.reserved.blocked := by
    rw [isOpen, Bool.not_eq_true', ← Bool.not_eq_true, Std.ExtTreeSet.contains_iff_mem]
  have uncrossed : plan.crossingFree arc = true ↔
      ∀ bel, arc.crossedBel? = some bel → plan.layout.cellOn[bel]? = none := by
    unfold crossingFree
    cases arc.crossedBel? with
    | none => simp
    | some bel => simp [Layout.isFree_iff]
  simp only [admits, admitsAs, Bool.and_eq_true, Bool.or_eq_true, decide_eq_true_eq, Option.isNone_iff_eq_none,
    uncrossed, unblocked]
  constructor
  · rintro ⟨⟨⟨⟨unblocked, unused⟩, dedicated⟩, unclaimed⟩, uncrossed⟩
    exact ⟨unblocked, unused, dedicated, fun other claimed => by simpa [claimed] using unclaimed,
      uncrossed⟩
  · rintro ⟨unblocked, unused, dedicated, unclaimed, uncrossed⟩
    refine ⟨⟨⟨⟨unblocked, unused⟩, dedicated⟩, ?_⟩, uncrossed⟩
    cases claimed : plan.layout.wireNet? arc.target with
    | none => rfl
    | some other => simpa using unclaimed other claimed

/-! ### Walks -/

/-- Pips that a net may use lead from the tree to a wire, the last one first. -/
def Walk (plan : Plan) (net : Name) (target : WireId) (tree : List WireId) (wire : WireId)
    (path : List Arc) : Prop :=
  Trail plan.device tree wire path ∧ ∀ arc ∈ path, plan.admits net target arc = true

theorem Walk.start {wire : WireId} (member : wire ∈ tree) : plan.Walk net target tree wire [] :=
  ⟨.start member, by simp⟩

theorem Walk.step {arc : Arc} {path : List Arc} (there : arc ∈ plan.device.arcs)
    (admitted : plan.admits net target arc = true)
    (before : plan.Walk net target tree arc.source path) :
    plan.Walk net target tree arc.target (arc :: path) :=
  ⟨.step there before.1, List.forall_mem_cons.2 ⟨admitted, before.2⟩⟩

/-- A walk that is not over at once comes from a shorter one. -/
theorem Walk.cons_iff {wire : WireId} {arc : Arc} {path : List Arc} :
    plan.Walk net target tree wire (arc :: path) ↔
      arc.target = wire ∧ arc ∈ plan.device.arcs ∧ plan.admits net target arc = true ∧
        plan.Walk net target tree arc.source path := by
  constructor
  · rintro ⟨trail, admitted⟩
    obtain ⟨own, others⟩ := List.forall_mem_cons.1 admitted
    cases trail with
    | step there before => exact ⟨rfl, there, own, before, others⟩
  · rintro ⟨rfl, there, admitted, before⟩
    exact before.step there admitted

/-- The beginning of a walk may be replaced by any other walk to the same wire. -/
theorem Walk.exists_split {wire : WireId} {path more : List Arc}
    (walk : plan.Walk net target tree wire (path ++ more)) :
    ∃ between, plan.Walk net target tree between more ∧
      ∀ other, plan.Walk net target tree between other →
        plan.Walk net target tree wire (path ++ other) := by
  induction path generalizing wire with
  | nil => exact ⟨wire, walk, fun _ other => other⟩
  | cons arc rest ih =>
      rw [List.cons_append, Walk.cons_iff] at walk
      obtain ⟨rfl, there, admitted, before⟩ := walk
      obtain ⟨between, first, replace⟩ := ih before
      exact ⟨between, first, fun other walk => (replace other walk).step there admitted⟩

/-- **A shortest walk does not come back to the tree**: what leads there could be left out. -/
theorem Walk.outside {wire : WireId} {path : List Arc} (walk : plan.Walk net target tree wire path)
    (shortest : ∀ other, plan.Walk net target tree wire other → path.length ≤ other.length)
    {arc : Arc} (member : arc ∈ path) : arc.target ∉ tree := by
  intro inTree
  obtain ⟨later, earlier, rfl⟩ := List.append_of_mem member
  obtain ⟨between, before, replace⟩ := walk.exists_split
  obtain ⟨rfl, -⟩ := Walk.cons_iff.1 before
  have shorter := shortest _ (replace [] (.start inTree))
  simp only [List.length_append, List.length_cons, List.length_nil] at shorter
  omega

/-- **A shortest walk passes no wire twice**: the round trip could be left out. -/
theorem Walk.distinct {wire : WireId} {path : List Arc} (walk : plan.Walk net target tree wire path)
    (shortest : ∀ other, plan.Walk net target tree wire other → path.length ≤ other.length) :
    (path.map Arc.target).Nodup := by
  induction path generalizing wire with
  | nil => exact List.nodup_nil
  | cons arc rest ih =>
      obtain ⟨rfl, there, admitted, before⟩ := Walk.cons_iff.1 walk
      refine List.nodup_cons.2 ⟨fun again => ?_, ih before fun other walk => ?_⟩
      · obtain ⟨first, member, same⟩ := List.mem_map.1 again
        obtain ⟨later, earlier, rfl⟩ := List.append_of_mem member
        obtain ⟨between, short, -⟩ := before.exists_split
        obtain ⟨rfl, -⟩ := Walk.cons_iff.1 short
        have shorter := shortest _ (same ▸ short)
        simp only [List.length_append, List.length_cons] at shorter
        omega
      · have longer := shortest _ (walk.step there admitted)
        simp only [List.length_cons] at longer
        omega

/-! ### Rounds -/

/-- What a round comes to when it goes along some steps from what was reached before: it finds the ends
of these that are new. -/
structure Widens (before : Round) (steps : Reached → Prop) (after : Round) : Prop where
  found : ∀ one ∈ after.found, one ∈ before.found ∨ steps one
  kept : ∀ one ∈ before.found, one ∈ after.found
  seen_iff : ∀ wire, wire ∈ after.seen ↔ wire ∈ before.seen ∨ ∃ one, steps one ∧ one.wire = wire
  new : ∀ wire ∈ after.seen, wire ∈ before.seen ∨ ∃ one ∈ after.found, one.wire = wire

theorem Widens.refl (round : Round) : Widens round (fun _ => False) round :=
  ⟨fun _ => Or.inl, fun _ => id, fun wire => by simp, fun _ => Or.inl⟩

theorem Widens.trans {a b c : Round} {steps more : Reached → Prop} (first : Widens a steps b)
    (second : Widens b more c) : Widens a (fun one => steps one ∨ more one) c where
  found one member := by
    rcases second.found one member with old | new
    · exact (first.found one old).imp_right Or.inl
    · exact Or.inr (Or.inr new)
  kept one member := second.kept one (first.kept one member)
  seen_iff wire := by
    rw [second.seen_iff, first.seen_iff, or_assoc, ← exists_or]
    simp only [← or_and_right]
  new wire member := by
    rcases second.new wire member with old | new
    · refine (first.new wire old).imp_right ?_
      rintro ⟨one, found, same⟩
      exact ⟨one, second.kept one found, same⟩
    · exact Or.inr new

/-- One pip is gone along if the net may use it and the wire behind it is new. -/
theorem widens_step (path : List Arc) (arc : Arc) (round : Round) :
    Widens round (fun one => plan.admits net target arc = true ∧ one = ⟨arc.target, arc :: path⟩)
      (if plan.admits net target arc && ! round.seen.contains arc.target then
        ⟨round.found ++ [⟨arc.target, arc :: path⟩], round.seen.insert arc.target⟩
      else round) := by
  have inserted : ∀ wire, wire ∈ round.seen.insert arc.target ↔
      wire ∈ round.seen ∨ arc.target = wire := by
    intro wire
    rw [Std.ExtTreeSet.mem_insert, Std.LawfulEqCmp.compare_eq_iff_eq, or_comm]
  split
  · rename_i new
    simp only [Bool.and_eq_true] at new
    refine ⟨fun one member => ?_, fun one => List.mem_append_left _, fun wire => ?_,
      fun wire member => ?_⟩
    · simp only [List.mem_append, List.mem_singleton] at member
      exact member.imp_right fun same => ⟨new.1, same⟩
    · simp only [inserted, new.1, true_and, exists_eq_left]
    · exact ((inserted wire).1 member).imp_right fun same =>
        ⟨_, List.mem_append_right _ List.mem_cons_self, same⟩
  · rename_i stays
    refine ⟨fun _ => Or.inl, fun _ => id, fun wire => ⟨Or.inl, ?_⟩, fun _ => Or.inl⟩
    rintro (old | ⟨one, ⟨admitted, rfl⟩, rfl⟩)
    · exact old
    · simpa [admitted] using stays

theorem widens_explore (path : List Arc) (arcs : List Arc) (round : Round) :
    Widens round (fun one => ∃ arc ∈ arcs, plan.admits net target arc = true ∧
        one = ⟨arc.target, arc :: path⟩)
      (plan.explore net target path arcs round) := by
  induction arcs generalizing round with
  | nil =>
      rw [explore_nil]
      simpa using Widens.refl round
  | cons arc rest ih =>
      rw [explore_cons]
      simp only [List.mem_cons, or_and_right, exists_or, exists_eq_left]
      exact (widens_step path arc round).trans (ih _)

theorem widens_exploreAll (reached : List Reached) (round : Round) :
    Widens round (fun one => ∃ last ∈ reached, ∃ arc ∈ plan.device.leaving last.wire,
        plan.admits net target arc = true ∧ one = ⟨arc.target, arc :: last.path⟩)
      (plan.exploreAll net target reached round) := by
  induction reached generalizing round with
  | nil =>
      rw [exploreAll_nil]
      simpa using Widens.refl round
  | cons first rest ih =>
      rw [exploreAll_cons]
      simp only [List.mem_cons, or_and_right, exists_or, exists_eq_left]
      exact (widens_explore first.path (plan.device.leaving first.wire) round).trans (ih _)

/-! ### Levels -/

/-- What the search knows after some rounds. -/
structure Level (plan : Plan) (net : Name) (target : WireId) (tree : List WireId) (rounds : Nat)
    (reached : List Reached) (seen : Std.ExtTreeSet WireId) : Prop where
  near : ∀ one ∈ reached, plan.Walk net target tree one.wire one.path ∧ one.path.length = rounds
  seen_iff : ∀ wire, wire ∈ seen ↔
    ∃ path, plan.Walk net target tree wire path ∧ path.length ≤ rounds
  last : ∀ wire ∈ seen, (∃ one ∈ reached, one.wire = wire) ∨
    ∃ path, plan.Walk net target tree wire path ∧ path.length < rounds

section Level

variable {rounds : Nat} {reached : List Reached} {seen : Std.ExtTreeSet WireId}

theorem Level.start (tree : List WireId) :
    plan.Level net target tree 0 (tree.map fun wire => ⟨wire, []⟩) (Std.ExtTreeSet.ofList tree) := by
  have seen_iff : ∀ wire, wire ∈ Std.ExtTreeSet.ofList tree ↔ wire ∈ tree := by
    intro wire
    rw [Std.ExtTreeSet.mem_ofList, List.contains_iff_mem]
  refine ⟨fun one member => ?_, fun wire => ?_, fun wire member => Or.inl ?_⟩
  · obtain ⟨wire, inTree, rfl⟩ := List.mem_map.1 member
    exact ⟨.start inTree, rfl⟩
  · rw [seen_iff]
    constructor
    · exact fun inTree => ⟨[], .start inTree, Nat.le_refl 0⟩
    · rintro ⟨path, ⟨trail, -⟩, short⟩
      cases trail with
      | start inTree => exact inTree
      | step there before => simp at short
  · exact ⟨_, List.mem_map.2 ⟨wire, (seen_iff wire).1 member, rfl⟩, rfl⟩

/-- **One round goes one pip further.** -/
theorem Level.next (level : plan.Level net target tree rounds reached seen) :
    plan.Level net target tree (rounds + 1)
      (plan.exploreAll net target reached ⟨[], seen⟩).found
      (plan.exploreAll net target reached ⟨[], seen⟩).seen := by
  have widens : Widens ⟨[], seen⟩ _ (plan.exploreAll net target reached ⟨[], seen⟩) :=
    widens_exploreAll reached ⟨[], seen⟩
  generalize plan.exploreAll net target reached ⟨[], seen⟩ = after at widens ⊢
  have near : ∀ one ∈ after.found, plan.Walk net target tree one.wire one.path ∧
      one.path.length = rounds + 1 := by
    intro one member
    rcases widens.found one member with old | ⟨last, inRound, arc, leaves, admitted, rfl⟩
    · cases old
    · obtain ⟨there, from_⟩ := Device.mem_leaving_iff.1 leaves
      obtain ⟨walk, length⟩ := level.near last inRound
      exact ⟨.step there admitted (from_ ▸ walk), congrArg (· + 1) length⟩
  -- A walk of one pip more than before leaves a wire that was reached, or there is a shorter one.
  have reach : ∀ wire path, plan.Walk net target tree wire path → path.length ≤ rounds + 1 →
      wire ∈ after.seen := by
    intro wire path walk short
    rw [widens.seen_iff]
    cases path with
    | nil => exact Or.inl ((level.seen_iff wire).2 ⟨[], walk, Nat.zero_le _⟩)
    | cons arc rest =>
        obtain ⟨rfl, there, admitted, before⟩ := Walk.cons_iff.1 walk
        have known := (level.seen_iff arc.source).2 ⟨rest, before, Nat.le_of_succ_le_succ short⟩
        rcases level.last arc.source known with ⟨one, member, same⟩ | ⟨other, walk, shorter⟩
        · have leaves : arc ∈ plan.device.leaving one.wire :=
            Device.mem_leaving_iff.2 ⟨there, same.symm⟩
          exact Or.inr ⟨_, ⟨one, member, arc, leaves, admitted, rfl⟩, rfl⟩
        · exact Or.inl ((level.seen_iff _).2 ⟨_, walk.step there admitted, shorter⟩)
  refine ⟨near, fun wire => ⟨fun member => ?_, fun ⟨path, walk, short⟩ => reach wire path walk short⟩,
    fun wire member => ?_⟩
  · rcases widens.new wire member with old | ⟨one, found, rfl⟩
    · obtain ⟨path, walk, short⟩ := (level.seen_iff wire).1 old
      exact ⟨path, walk, Nat.le_succ_of_le short⟩
    · exact ⟨one.path, (near one found).1, Nat.le_of_eq (near one found).2⟩
  · rcases widens.new wire member with old | found
    · obtain ⟨path, walk, short⟩ := (level.seen_iff wire).1 old
      exact Or.inr ⟨path, walk, Nat.lt_succ_of_le short⟩
    · exact Or.inl found

/-- **When a round finds nothing, everything that can be reached has been seen before it.** -/
theorem Level.exhausted {later : Std.ExtTreeSet WireId}
    (level : plan.Level net target tree (rounds + 1) [] later) {wire : WireId} {path : List Arc}
    (walk : plan.Walk net target tree wire path) :
    ∃ other, plan.Walk net target tree wire other ∧ other.length ≤ rounds := by
  induction path generalizing wire with
  | nil => exact ⟨[], walk, Nat.zero_le _⟩
  | cons arc rest ih =>
      obtain ⟨rfl, there, admitted, before⟩ := Walk.cons_iff.1 walk
      obtain ⟨other, walk, short⟩ := ih before
      have seen := (level.seen_iff arc.target).2
        ⟨arc :: other, walk.step there admitted, Nat.succ_le_succ short⟩
      rcases level.last arc.target seen with ⟨one, member, -⟩ | ⟨other, walk, shorter⟩
      · cases member
      · exact ⟨other, walk, Nat.le_of_lt_succ shorter⟩

/-- A target that is not among what was reached is farther away. -/
theorem Level.farther (level : plan.Level net target tree rounds reached seen)
    (nowhere : reached.find? (·.wire = target) = none)
    (far : ∀ path, plan.Walk net target tree target path → rounds ≤ path.length) :
    ∀ path, plan.Walk net target tree target path → rounds + 1 ≤ path.length := by
  intro path walk
  refine Decidable.byContradiction fun near => ?_
  have seen := (level.seen_iff target).2 ⟨path, walk, Nat.le_of_lt_succ (Nat.lt_of_not_le near)⟩
  rcases level.last target seen with ⟨one, member, same⟩ | ⟨other, walk, shorter⟩
  · have missed := List.find?_eq_none.1 nowhere one member
    exact missed (decide_eq_true same)
  · exact absurd shorter (Nat.not_lt.2 (far other walk))

/-- What a search has to answer: a shortest walk to its target, or nothing if there is none. -/
def Answers (plan : Plan) (net : Name) (target : WireId) (tree : List WireId) :
    Option (List Arc) → Prop
  | some path => plan.Walk net target tree target path.reverse ∧
      ∀ other, plan.Walk net target tree target other → path.length ≤ other.length
  | none => ∀ other, ¬ plan.Walk net target tree target other

/-- **Searching on from a level that no walk to the target falls short of gives the answer.** -/
theorem Level.answers (level : plan.Level net target tree rounds reached seen)
    (far : ∀ path, plan.Walk net target tree target path → rounds ≤ path.length) :
    plan.Answers net target tree (plan.searchFrom net target reached seen) := by
  induction reached, seen using searchFrom.induct plan net target generalizing rounds with
  | case1 reached seen goal reaches =>
      rw [searchFrom, reaches]
      have there := List.find?_some reaches
      simp only [decide_eq_true_eq] at there
      obtain ⟨walk, length⟩ := level.near goal (List.mem_of_find?_eq_some reaches)
      rw [Answers, List.reverse_reverse, List.length_reverse, length]
      exact ⟨there ▸ walk, far⟩
  | case2 reached seen nowhere stuck =>
      rw [searchFrom, nowhere]
      simp only [stuck, dif_pos]
      intro other walk
      have next := level.next
      rw [stuck] at next
      obtain ⟨shorter, walk, short⟩ := next.exhausted walk
      exact absurd (level.farther nowhere far shorter walk) (Nat.not_le.2 (Nat.lt_succ_of_le short))
  | case3 reached seen nowhere stuck ih =>
      rw [searchFrom, nowhere]
      simp only [stuck, dif_neg, not_false_eq_true]
      exact ih level.next (level.farther nowhere far)

end Level

/-! ### Routes -/

/-- A walk is a route that is told from its end. -/
theorem walk_iff {wire : WireId} {path : List Arc} :
    plan.Walk net target tree wire path ↔
      (∃ start ∈ tree, Leads start path.reverse wire) ∧
        ∀ arc ∈ path, arc ∈ plan.device.arcs ∧ plan.admits net target arc = true := by
  induction path generalizing wire with
  | nil =>
      have here : plan.Walk net target tree wire [] ↔ wire ∈ tree := by
        refine ⟨fun ⟨trail, _⟩ => ?_, .start⟩
        cases trail with
        | start member => exact member
      simp [here, Leads]
  | cons arc rest ih =>
      rw [Walk.cons_iff, ih, List.reverse_cons, List.forall_mem_cons]
      simp only [Leads.append_iff, Leads]
      constructor
      · rintro ⟨rfl, there, admitted, ⟨start, inTree, leads⟩, others⟩
        exact ⟨⟨start, inTree, arc.source, leads, rfl, rfl⟩, ⟨there, admitted⟩, others⟩
      · rintro ⟨⟨start, inTree, _, leads, rfl, rfl⟩, ⟨there, admitted⟩, others⟩
        exact ⟨rfl, there, admitted, ⟨start, inTree, leads⟩, others⟩

theorem route_iff_walk {path : List Arc} :
    plan.Route net target path ↔
      plan.Walk net target (plan.treeOf net) target path.reverse := by
  simp only [walk_iff, List.reverse_reverse, List.mem_reverse, mem_treeOf_iff, admits_iff]
  exact ⟨fun route => ⟨route.leads, route.admitted⟩, fun ⟨leads, admitted⟩ => ⟨leads, admitted⟩⟩

theorem answers_searchPath? (plan : Plan) (net : Name) (target : WireId) :
    plan.Answers net target (plan.treeOf net) (plan.searchPath? net target) :=
  (Level.start (plan.treeOf net)).answers fun _ _ => Nat.zero_le _

theorem searchPath?_eq_none_iff :
    plan.searchPath? net target = none ↔ ¬ ∃ path, plan.Route net target path := by
  have answers := plan.answers_searchPath? net target
  constructor
  · rintro missed ⟨path, route⟩
    rw [missed] at answers
    exact answers _ (route_iff_walk.1 route)
  · intro nowhere
    refine Option.eq_none_iff_forall_ne_some.2 fun path found => nowhere ⟨path, ?_⟩
    rw [found] at answers
    exact route_iff_walk.2 answers.1

section Found

variable {path : List Arc} (found : plan.searchPath? net target = some path)

include found

theorem route_of_found : plan.Route net target path := by
  have answers := plan.answers_searchPath? net target
  rw [found] at answers
  exact route_iff_walk.2 answers.1

theorem shortest_of_found {other : List Arc} (route : plan.Route net target other) :
    path.length ≤ other.length := by
  have answers := plan.answers_searchPath? net target
  rw [found] at answers
  have short := answers.2 _ (route_iff_walk.1 route)
  rwa [List.length_reverse] at short

/-- The walk behind a path that is found is shortest, too. -/
theorem shortest_walk_of_found {other : List Arc}
    (walk : plan.Walk net target (plan.treeOf net) target other) :
    path.reverse.length ≤ other.length := by
  rw [← List.reverse_reverse other] at walk
  have short := shortest_of_found found (route_iff_walk.2 walk)
  rwa [List.length_reverse] at short ⊢

theorem outside_of_found {arc : Arc} (member : arc ∈ path) : ¬ plan.Owns net arc.target := by
  rw [← mem_treeOf_iff]
  exact (route_iff_walk.1 (route_of_found found)).outside
    (fun _ => shortest_walk_of_found found) (List.mem_reverse.2 member)

theorem distinct_of_found : (path.map Arc.target).Nodup := by
  have distinct := (route_iff_walk.1 (route_of_found found)).distinct
    fun _ => shortest_walk_of_found found
  rwa [List.map_reverse, List.nodup_reverse] at distinct

end Found

/-- **The search finds a shortest route, or there is none.**  For any plan, any net and any wire: nothing
is found exactly when no pips that the net may use lead from a wire of the net to the wire.  What is
found is such a route; its pips lead to different wires, none of which the net has, and no route has
fewer pips.  A net that has the wire already gets the route without pips. -/
theorem searchPath?_shortest (plan : Plan) (net : Name) (target : WireId) :
    (plan.searchPath? net target = none ↔ ¬ ∃ path, plan.Route net target path) ∧
    ∀ path, plan.searchPath? net target = some path →
      plan.Route net target path ∧ (path.map Arc.target).Nodup ∧
        (∀ arc ∈ path, ¬ plan.Owns net arc.target) ∧
        ∀ other, plan.Route net target other → path.length ≤ other.length :=
  ⟨searchPath?_eq_none_iff, fun _ found => ⟨route_of_found found, distinct_of_found found,
    fun _ => outside_of_found found, fun _ => shortest_of_found found⟩⟩

end Search

end Plan

end UltraFabric
