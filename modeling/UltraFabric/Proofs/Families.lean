/-
# UltraFabric.Proofs.Families — cells, their children, and how they unfold on a device

A cell names its children, and nobody looks at the names before they are needed: a child may be named
twice, by two cells, or by one of its own descendants.  `Descends` says who belongs to the family of a
cell, and `IsFamilyTree` that everybody in it is named once.

Placing a family unfolds it.  `Unfolds` is what has been placed when nothing stood in the way: the
first of those that wait has its place, and its children wait in front of the others.  Three things
follow from it alone:

* the parts of what waits unfold one after the other (`Unfolds.split`), so that each cell stands in
  front of what was placed for its children;
* whoever is placed waited or descends from somebody who did (`Unfolds.descends`);
* everybody is placed as often as he is named, by those who wait at first and by those who are placed
  (`Unfolds.names_perm`).

The last one makes a family a `Roster`: the root, and the children of everybody on it.  A roster of the
family has each name once exactly when the family is a tree (`Roster.nodup_iff`); when it is one, all
have as many places as the root has, which is one.
-/
import Mathlib.Data.List.Nodup
import Mathlib.Data.List.Flatten
import Mathlib.Data.List.Lattice
import Mathlib.Data.List.Pairwise
import Mathlib.Logic.Relation
import UltraFabric.Proofs.Bels
import UltraFabric.Proofs.Members

namespace UltraFabric.Plan

set_option autoImplicit false

/-- The cells that a cell names as its children. -/
def childrenOf (plan : Plan) (name : Name) : List Name :=
  match plan.cell? name with
  | some cell => cell.children
  | none => []

def IsChild (plan : Plan) (parent child : Name) : Prop :=
  child ∈ plan.childrenOf parent

instance {plan : Plan} {parent child : Name} : Decidable (plan.IsChild parent child) :=
  inferInstanceAs (Decidable (child ∈ plan.childrenOf parent))

/-- A cell belongs to the family of another one. -/
def Descends (plan : Plan) : Name → Name → Prop :=
  Relation.ReflTransGen plan.IsChild

/-- In the family of a cell everybody is named once as a child, and the cell itself is not. -/
structure IsFamilyTree (plan : Plan) (root : Name) : Prop where
  top : ∀ name, plan.Descends root name → root ∉ plan.childrenOf name
  once : ∀ name, plan.Descends root name → (plan.childrenOf name).Nodup
  parent : ∀ first second name, plan.Descends root first → plan.Descends root second →
    name ∈ plan.childrenOf first → name ∈ plan.childrenOf second → first = second

/-- A cell whose family is placed along the links between multipliers. -/
def IsLinked (root : Cell) : Prop :=
  root.type = "DSP" ∧ root.children ≠ []

theorem childrenOf_of_found {plan : Plan} {name : Name} {cell : Cell}
    (found : plan.cell? name = some cell) : plan.childrenOf name = cell.children := by
  rw [childrenOf, found]

section Waiting

variable {plan : Plan} {name : Name} {cell : Cell} {location : Loc}
  (found : plan.cell? name = some cell)

include found

theorem names_waitingChildren :
    (cell.waitingChildren location).map Waiting.name = plan.childrenOf name := by
  rw [childrenOf_of_found found, Cell.waitingChildren, List.map_map]
  exact List.map_id _

/-- The children of a cell wait where it has been placed. -/
theorem mem_waitingChildren_iff {next : Waiting} :
    next ∈ cell.waitingChildren location ↔
      plan.IsChild name next.name ∧ next.parent = location := by
  rw [IsChild, childrenOf_of_found found, Cell.waitingChildren, List.mem_map]
  constructor
  · rintro ⟨child, listed, rfl⟩
    exact ⟨listed, rfl⟩
  · rintro ⟨listed, rfl⟩
    exact ⟨next.name, listed, rfl⟩

end Waiting

/-! ### Unfolding -/

/-- Places for all that wait and for their families, where the device has bels for them. -/
inductive Unfolds (plan : Plan) : List Waiting → Placement → Prop where
  | done : Unfolds plan [] []
  | next {next : Waiting} {rest : List Waiting} {cell : Cell} {bel : BelId} {placement : Placement}
      (found : plan.cell? next.name = some cell)
      (there : plan.device.belAt? (cell.locationFrom next.parent) = some bel)
      (later : Unfolds plan (cell.waitingChildren (cell.locationFrom next.parent) ++ rest) placement) :
      Unfolds plan (next :: rest) ((cell.name, bel) :: placement)

section Unfolding

variable {plan : Plan}

/-- What is placed when nothing stood in the way has unfolded. -/
theorem unfolds_of_placeWaiting (waiting : List Waiting) (placement : Placement)
    {after : Placement} (placed : plan.placeWaiting plan.memberFits waiting placement = .ok (true, after)) :
    ∃ more, after = placement ++ more ∧ plan.Unfolds waiting more := by
  fun_induction placeWaiting plan plan.memberFits waiting placement with
  | case1 placement =>
      cases placed
      exact ⟨[], (List.append_nil _).symm, .done⟩
  | case2 placement next rest unknown => cases placed
  | case3 placement next rest cell found nowhere => cases placed
  | case4 placement next rest cell found bel there taken => cases placed
  | case5 placement next rest cell found bel there unused fault undecided => cases placed
  | case6 placement next rest cell found bel there unused unfit => cases placed
  | case7 placement next rest cell found bel there unused fits ih =>
      obtain ⟨more, rfl, later⟩ := ih placed
      exact ⟨(cell.name, bel) :: more, List.append_assoc _ _ _, .next found there later⟩

/-- **Those that wait unfold one after the other.** -/
theorem Unfolds.split {second : List Waiting} :
    ∀ {all placement}, plan.Unfolds all placement → ∀ first, all = first ++ second →
      ∃ left right, placement = left ++ right ∧ plan.Unfolds first left ∧
        plan.Unfolds second right := by
  intro all placement unfolds
  induction unfolds with
  | done =>
      intro first same
      obtain ⟨rfl, rfl⟩ := List.append_eq_nil_iff.1 same.symm
      exact ⟨[], [], rfl, .done, .done⟩
  | @next next rest cell bel placement found there later ih =>
      intro first same
      cases first with
      | nil =>
          cases same
          exact ⟨[], _, rfl, .done, .next found there later⟩
      | cons head others =>
          obtain ⟨rfl, rfl⟩ := List.cons.inj same
          obtain ⟨left, right, rfl, own, theirs⟩ := ih
            (cell.waitingChildren (cell.locationFrom next.parent) ++ others)
            (List.append_assoc _ _ _).symm
          exact ⟨(cell.name, bel) :: left, right, rfl, .next found there own, theirs⟩

/-- Each of those that wait unfolds within the whole. -/
theorem Unfolds.of_mem {waiting : List Waiting} {placement : Placement}
    (unfolds : plan.Unfolds waiting placement) {next : Waiting} (member : next ∈ waiting) :
    ∃ part, plan.Unfolds [next] part ∧ part.length ≤ placement.length := by
  obtain ⟨before, behind, rfl⟩ := List.append_of_mem member
  obtain ⟨_, tail, rfl, _, later⟩ := unfolds.split before rfl
  obtain ⟨part, _, rfl, own, _⟩ := later.split [next] rfl
  exact ⟨part, own, by simp only [List.length_append]; omega⟩

variable (named : plan.layout.netlist.Named)

include named

/-- Nobody is placed who does not belong to the family of somebody who waits. -/
theorem Unfolds.descends {waiting : List Waiting} {placement : Placement}
    (unfolds : plan.Unfolds waiting placement) :
    ∀ entry ∈ placement, ∃ next ∈ waiting, plan.Descends next.name entry.1 := by
  induction unfolds with
  | done => simp
  | @next next rest cell bel placement found there later ih =>
      have own : cell.name = next.name := named next.name cell found
      intro entry member
      rcases List.mem_cons.1 member with rfl | member
      · refine ⟨next, List.mem_cons_self, ?_⟩
        rw [own]
        exact .refl
      · obtain ⟨other, waits, descends⟩ := ih entry member
        rcases List.mem_append.1 waits with child | waits
        · obtain ⟨child, _⟩ := (mem_waitingChildren_iff found).1 child
          exact ⟨next, List.mem_cons_self, descends.head child⟩
        · exact ⟨other, List.mem_cons_of_mem _ waits, descends⟩

/-- **Everybody is placed as often as he is named**, by those who wait and by those who are placed. -/
theorem Unfolds.names_perm {waiting : List Waiting} {placement : Placement}
    (unfolds : plan.Unfolds waiting placement) :
    (placement.map Prod.fst).Perm
      (waiting.map Waiting.name ++ (placement.map Prod.fst).flatMap plan.childrenOf) := by
  induction unfolds with
  | done => exact .nil
  | @next next rest cell bel placement found there later ih =>
      have own : cell.name = next.name := named next.name cell found
      rw [List.map_append, names_waitingChildren found, List.append_assoc] at ih
      simp only [List.map_cons, List.flatMap_cons, List.cons_append, own]
      exact (ih.trans (List.perm_append_comm_assoc _ _ _)).cons next.name

end Unfolding

/-! ### Rosters -/

/-- A list with the root and, for everybody on it, all of its children, as often as they are named. -/
def Roster (plan : Plan) (root : Name) (names : List Name) : Prop :=
  names.Perm (root :: names.flatMap plan.childrenOf)

section Rosters

variable {plan : Plan} {root : Name} {names : List Name}

/-- The whole family is on a roster. -/
theorem Roster.mem_of_descends (roster : plan.Roster root names) {name : Name}
    (descends : plan.Descends root name) : name ∈ names := by
  induction descends with
  | refl => exact roster.mem_iff.2 List.mem_cons_self
  | tail _ child ih =>
      exact roster.mem_iff.2 (List.mem_cons_of_mem _ (List.mem_flatMap.2 ⟨_, ih, child⟩))

/-- A child of one cell only, which names it once, is named as often as that cell is listed. -/
theorem count_flatMap_childrenOf {parent name : Name} (once : (plan.childrenOf parent).Nodup)
    (child : name ∈ plan.childrenOf parent)
    (only : ∀ other ∈ names, name ∈ plan.childrenOf other → other = parent) :
    (names.flatMap plan.childrenOf).count name = names.count parent := by
  induction names with
  | nil => rfl
  | cons first rest ih =>
      obtain ⟨here, others⟩ := List.forall_mem_cons.1 only
      rw [List.flatMap_cons, List.count_append, ih others]
      by_cases same : first = parent
      · rw [same, List.count_cons_self, List.count_eq_one_of_mem once child, Nat.add_comm]
      · rw [List.count_cons_of_ne same, List.count_eq_zero.2 fun member => same (here member),
          Nat.zero_add]

/-- In a tree everybody is listed once: as often as its parent is, and the root is nobody's child. -/
theorem Roster.count_eq_one (roster : plan.Roster root names)
    (family : ∀ name ∈ names, plan.Descends root name) (tree : plan.IsFamilyTree root) {name : Name}
    (descends : plan.Descends root name) : names.count name = 1 := by
  induction descends with
  | refl =>
      have nobody : root ∉ names.flatMap plan.childrenOf := by
        intro member
        obtain ⟨parent, listed, child⟩ := List.mem_flatMap.1 member
        exact tree.top parent (family parent listed) child
      rw [roster.count_eq, List.count_cons_self, List.count_eq_zero.2 nobody]
  | @tail parent name above child ih =>
      have lower : root ≠ name := by
        rintro rfl
        exact tree.top parent above child
      have only : ∀ other ∈ names, name ∈ plan.childrenOf other → other = parent :=
        fun other listed child' => tree.parent other parent name (family other listed) above child'
          child
      rw [roster.count_eq, List.count_cons_of_ne lower,
        count_flatMap_childrenOf (tree.once parent above) child only, ih]

/-- **A roster of the family has each name once exactly when the family is a tree.** -/
theorem Roster.nodup_iff (roster : plan.Roster root names)
    (family : ∀ name ∈ names, plan.Descends root name) : names.Nodup ↔ plan.IsFamilyTree root := by
  constructor
  · intro distinct
    have all := (List.Perm.nodup_iff roster).1 distinct
    rw [List.nodup_cons, List.nodup_flatMap] at all
    obtain ⟨top, once, apart⟩ := all
    refine ⟨fun name descends child => top (List.mem_flatMap.2 ⟨name, ?_, child⟩),
      fun name descends => once name (roster.mem_of_descends descends), ?_⟩
    · exact roster.mem_of_descends descends
    · intro first second name below below' child child'
      have : Std.Symm (Function.onFun List.Disjoint plan.childrenOf) :=
        ⟨fun _ _ => List.Disjoint.symm⟩
      by_contra different
      exact apart.forall (roster.mem_of_descends below) (roster.mem_of_descends below') different
        child child'
  · intro tree
    rw [List.nodup_iff_count_le_one]
    intro name
    by_cases listed : name ∈ names
    · exact Nat.le_of_eq (roster.count_eq_one family tree (family name listed))
    · rw [List.count_eq_zero.2 listed]
      exact Nat.zero_le 1

end Rosters

/-! ### Accepted placements -/

section Placed

variable {plan : Plan} {cluster : Name} {bel : BelId} {placement : Placement}

/-- What has been done for a placement that is accepted. -/
theorem place?_cases (placed : plan.place? cluster bel = .ok (some placement)) :
    ∃ root own location, plan.cell? cluster = some root ∧
      plan.rootPlace? root bel = some (own, location) ∧
        (IsLinked root ∧
            plan.placeLinked own root.children [(root.name, own)] = some placement ∨
          ¬ IsLinked root ∧ ∃ more, placement = (root.name, own) :: more ∧
            plan.Unfolds (root.waitingChildren location) more) := by
  obtain ⟨root, own, location, found, rooted, answer, _⟩ := place?_eq_some_iff.1 placed
  refine ⟨root, own, location, found, rooted, ?_⟩
  unfold clusterMembers? at answer
  split at answer
  · rename_i linked
    simp only [Except.ok.injEq] at answer
    exact Or.inl ⟨linked, answer⟩
  · rename_i unlinked
    split at answer <;> cases answer
    rename_i done
    obtain ⟨more, rfl, unfolds⟩ := unfolds_of_placeWaiting _ _ done
    exact Or.inr ⟨unlinked, more, rfl, unfolds⟩

/-- Along the links everybody gets the next bel, in the order of the names. -/
theorem placeLinked_cases (bel : BelId) (names : List Name) (placement : Placement)
    {after : Placement} (placed : plan.placeLinked bel names placement = some after) :
    ∃ more, after = placement ++ more ∧ more.map Prod.fst = names ∧
      (bel :: more.map Prod.snd).IsChain fun bel next =>
        plan.fabric.tables.cascade[bel]? = some next := by
  fun_induction placeLinked plan bel names placement with
  | case1 bel placement =>
      cases placed
      exact ⟨[], (List.append_nil _).symm, rfl, .singleton bel⟩
  | case2 bel child rest placement unlinked => cases placed
  | case3 bel child rest placement next linked taken => cases placed
  | case4 bel child rest placement next linked unused ih =>
      obtain ⟨more, rfl, rfl, chain⟩ := ih placed
      exact ⟨(child, next) :: more, List.append_assoc _ _ _, rfl,
        List.isChain_cons_cons.2 ⟨linked, chain⟩⟩

/-- A family that unfolds below its first cell is a roster with that cell. -/
theorem roster_of_unfolds (named : plan.layout.netlist.Named) {root : Cell} (own : BelId)
    {location : Loc} {more : Placement} (found : plan.cell? cluster = some root)
    (unfolds : plan.Unfolds (root.waitingChildren location) more) :
    plan.Roster cluster (((root.name, own) :: more).map Prod.fst) ∧
      ∀ name ∈ ((root.name, own) :: more).map Prod.fst, plan.Descends cluster name := by
  have top : root.name = cluster := named cluster root found
  constructor
  · have perm := unfolds.names_perm named
    rw [names_waitingChildren found] at perm
    simp only [Roster, List.map_cons, List.flatMap_cons, top]
    exact perm.cons cluster
  · intro name member
    rw [List.map_cons, top] at member
    rcases List.mem_cons.1 member with rfl | member
    · exact .refl
    · obtain ⟨entry, listed, rfl⟩ := List.mem_map.1 member
      obtain ⟨next, waits, descends⟩ := unfolds.descends named entry listed
      exact descends.head ((mem_waitingChildren_iff found).1 waits).1

variable (named : plan.layout.netlist.Named) {root : Cell} (found : plan.cell? cluster = some root)
  (placed : plan.place? cluster bel = .ok (some placement))

include named found placed

/-- **From parent to child the whole family is placed**, and each cell once exactly when it is a
tree. -/
theorem family_of_place? (unlinked : ¬ IsLinked root) :
    (∀ name, name ∈ placement.map Prod.fst ↔ plan.Descends cluster name) ∧
      ((placement.map Prod.fst).Nodup ↔ plan.IsFamilyTree cluster) := by
  obtain ⟨own, place, location, found', _, ⟨linked, _⟩ | ⟨_, more, rfl, unfolds⟩⟩ :=
    place?_cases placed
  · cases found.symm.trans found'
    exact absurd linked unlinked
  · cases found.symm.trans found'
    obtain ⟨roster, family⟩ := roster_of_unfolds named place found unfolds
    exact ⟨fun name => ⟨family name, roster.mem_of_descends⟩, roster.nodup_iff family⟩

/-- **Along links the children are placed in their order**, each on the bel that the one before feeds. -/
theorem links_of_place? (linked : IsLinked root) :
    placement.map Prod.fst = cluster :: root.children ∧
      (placement.map Prod.snd).IsChain fun bel next =>
        plan.fabric.tables.cascade[bel]? = some next := by
  obtain ⟨own, place, location, found', _, ⟨_, chained⟩ | ⟨unlinked, _⟩⟩ := place?_cases placed
  · cases found.symm.trans found'
    obtain ⟨more, rfl, names, chain⟩ := placeLinked_cases _ _ _ chained
    rw [List.singleton_append, List.map_cons, names, named cluster root found]
    exact ⟨rfl, chain⟩
  · cases found.symm.trans found'
    exact absurd linked unlinked

end Placed

end UltraFabric.Plan
