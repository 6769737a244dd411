/-
# UltraFabric.Proofs.Pruning — members that are asked about too early

A cluster is asked about twice: each member when it gets its place, and all of them at the end.  The
first time, the later members are still seen where they were before.  A cell that is about to move
can so speak against a place which nobody would mind once it has moved, and the whole cluster is
refused although the last check would have accepted it.

`Obstructed` names what stands in the way, and `place?_admitted_iff` says that nothing else does.

* `cellOn?_cases`, `belOf?_cases`: what is seen at first is seen at the end, or it lingers;
* `memberFits_early_iff`: so a member that fits at the end fits at first unless somebody lingers;
* `placeWaiting_eq_iff`: a family is placed when all of its members fit at first.
-/
import UltraFabric.Proofs.Clusters
import UltraFabric.Proofs.Cycles
import UltraFabric.Proofs.Reachable
import UltraFabric.Proofs.StrictChecks

namespace UltraFabric

set_option autoImplicit false

namespace Plan

/-! ### What is seen too early -/

section Early

variable {plan : Plan} {placed later : Placement} {other : Cell} {place : BelId}

/-- A cell is seen where it was, although it is a later member, or is on a bel that a later member
is to have. -/
structure Lingers (plan : Plan) (placed later : Placement) (other : Cell) (place : BelId) :
    Prop where
  bound : plan.layout.boundCell? place = some other
  unplaced : other.name ∉ placed.map Prod.fst
  untaken : place ∉ placed.map Prod.snd
  moves : other.name ∈ later.map Prod.fst ∨ place ∈ later.map Prod.snd

/-- A later member is seen where it was. -/
structure Waits (plan : Plan) (placed later : Placement) (other : Cell) (place : BelId) : Prop where
  bound : plan.layout.boundCell? place = some other
  unplaced : other.name ∉ placed.map Prod.fst
  moves : other.name ∈ later.map Prod.fst

theorem find?_eq_none_of_not_mem {α β : Type} [DecidableEq β] {items : List α} {f : α → β} {key : β}
    (absent : key ∉ items.map f) : items.find? (f · = key) = none := by
  rw [List.find?_eq_none]
  rintro item member same
  exact absent (List.mem_map.2 ⟨item, member, of_decide_eq_true same⟩)

theorem cellOn?_of_lingers (lingers : plan.Lingers placed later other place) :
    (View.mk plan.layout placed).cellOn? place = some other := by
  obtain ⟨bound, unplaced, untaken, _⟩ := lingers
  have stays : ¬ placed.any (·.1 = other.name) = true := by
    rw [List.any_eq_true]
    rintro ⟨entry, member, same⟩
    exact unplaced (List.mem_map.2 ⟨entry, member, of_decide_eq_true same⟩)
  simp only [View.cellOn?, find?_eq_none_of_not_mem (f := Prod.snd) untaken, bound, stays]
  rfl

/-- **Whoever is seen at first is seen at the end, or he lingers.** -/
theorem cellOn?_cases (later : Placement)
    (seen : (View.mk plan.layout placed).cellOn? place = some other) :
    (View.mk plan.layout (placed ++ later)).cellOn? place = some other ∨
      plan.Lingers placed later other place := by
  simp only [View.cellOn?, List.find?_append] at seen ⊢
  cases taken : placed.find? (·.2 = place) with
  | some entry =>
      left
      simpa only [taken, Option.some_or] using seen
  | none =>
      have untaken : place ∉ placed.map Prod.snd := by
        intro member
        obtain ⟨entry, member, same⟩ := List.mem_map.1 member
        exact List.find?_eq_none.1 taken entry member (decide_eq_true same)
      simp only [taken] at seen
      split at seen
      · rename_i own bound
        split at seen
        · cases seen
        rename_i stays
        cases seen
        have unplaced : other.name ∉ placed.map Prod.fst := by
          intro member
          obtain ⟨entry, member, same⟩ := List.mem_map.1 member
          exact stays (List.any_eq_true.2 ⟨entry, member, decide_eq_true same⟩)
        by_cases moves : other.name ∈ later.map Prod.fst ∨ place ∈ later.map Prod.snd
        · exact .inr ⟨bound, unplaced, untaken, moves⟩
        · left
          rw [not_or] at moves
          have absent : ¬ (placed ++ later).any (·.1 = other.name) = true := by
            rw [List.any_append, Bool.or_eq_true, not_or]
            refine ⟨stays, fun waits => moves.1 ?_⟩
            obtain ⟨entry, member, same⟩ := List.any_eq_true.1 waits
            exact List.mem_map.2 ⟨entry, member, of_decide_eq_true same⟩
          simp only [find?_eq_none_of_not_mem (f := Prod.snd) moves.2, absent, Option.none_or]
          rfl
      · cases seen

/-- The same for the places of cells. -/
theorem belOf?_cases (agree : plan.layout.BelsAgree) (later : Placement) {name : Name}
    (seen : (View.mk plan.layout placed).belOf? name = some place) :
    (View.mk plan.layout (placed ++ later)).belOf? name = some place ∨
      ∃ other, other.name = name ∧ plan.Waits placed later other place := by
  simp only [View.belOf?, List.find?_append] at seen ⊢
  cases put : placed.find? (·.1 = name) with
  | some entry =>
      left
      simpa only [put, Option.some_or] using seen
  | none =>
      simp only [put] at seen
      by_cases moves : name ∈ later.map Prod.fst
      · right
        obtain ⟨other, found, there⟩ := Layout.belOf?_eq_some_iff.1 seen
        cases agree.named name other found
        refine ⟨other, rfl, agree.bound_iff.2 ⟨found, there⟩, fun member => ?_, moves⟩
        obtain ⟨entry, member, same⟩ := List.mem_map.1 member
        exact List.find?_eq_none.1 put entry member (decide_eq_true same)
      · left
        simp only [find?_eq_none_of_not_mem (f := Prod.fst) moves, Option.none_or]
        exact seen

theorem belOf?_of_waits (agree : plan.layout.BelsAgree)
    (waits : plan.Waits placed later other place) :
    (View.mk plan.layout placed).belOf? other.name = some place := by
  obtain ⟨bound, unplaced, _⟩ := waits
  simp only [View.belOf?, find?_eq_none_of_not_mem (f := Prod.fst) unplaced]
  exact Layout.belOf?_eq_some_iff.2 ⟨other, agree.bound_iff.1 bound⟩

end Early

/-! ### One member, asked about too early -/

/-- On another bel of its group a member meets a cell that lingers there and has another net at a
port that they share. -/
def GroupBlocked (plan : Plan) (placed later : Placement) (cell : Cell) (bel : BelId) : Prop :=
  ∃ group, plan.device.muxGroup? bel = some group ∧ ∃ port ∈ group.ports, ∃ index ∈ group.bels,
    ∃ other net otherNet, plan.Lingers placed later other ⟨bel.tile, index⟩ ∧
      cell.portNet? port = some net ∧ other.portNet? port = some otherNet ∧ otherNet ≠ net

/-- A multiplier has no link with where another one, to which it is joined at a cascade port, still
waits. -/
def CascadeBlocked (plan : Plan) (placed later : Placement) (cell : Cell) (bel : BelId) : Prop :=
  cell.type = "DSP" ∧ ∃ port name net other place, cell.portNet? port = some name ∧
    plan.net? name = some net ∧ plan.Waits placed later other place ∧ other.type = "DSP" ∧
      (Primitive.isCascadeInput port = true ∧ net.driver.map PortRef.cell = some other.name ∧
          plan.fabric.tables.cascade[place]? ≠ some bel ∨
        Primitive.isCascadeOutput port = true ∧ other.name ∈ net.users.map PortRef.cell ∧
          plan.fabric.tables.cascade[bel]? ≠ some place)

/-- What speaks against a member only because the later ones have not been moved. -/
def Blocked (plan : Plan) (placed later : Placement) (cell : Cell) (bel : BelId) : Prop :=
  plan.GroupBlocked placed later cell bel ∨ plan.CascadeBlocked placed later cell bel

section OneMember

variable {plan : Plan} {placed later : Placement} {cell : Cell} {bel : BelId}

theorem groupViolation?_early_iff (own : (cell.name, bel) ∈ placed)
    (quiet : groupViolation? ⟨plan.layout, placed ++ later⟩ cell bel = none) :
    groupViolation? ⟨plan.layout, placed⟩ cell bel = none ↔
      ¬ plan.GroupBlocked placed later cell bel := by
  rw [groupViolation?_eq_none_iff_seen] at quiet ⊢
  constructor
  · rintro early ⟨group, grouped, port, shared, index, listed, other, net, otherNet, lingers, joined,
      joined', different⟩
    refine different (early group grouped port shared net joined index listed ?_ other
      (cellOn?_of_lingers lingers) ?_ otherNet joined')
    · intro here
      exact lingers.untaken (List.mem_map.2 ⟨_, own, here.symm⟩)
    · intro itself
      exact lingers.unplaced (List.mem_map.2 ⟨_, own, itself.symm⟩)
  · intro free group grouped port shared net joined index listed elsewhere other seen apart otherNet
      joined'
    by_contra different
    rcases cellOn?_cases later seen with still | lingers
    · exact different (quiet group grouped port shared net joined index listed elsewhere other still
        apart otherNet joined')
    · exact free ⟨group, grouped, port, shared, index, listed, other, net, otherNet, lingers, joined,
        joined', different⟩

/-- A multiplier that is linked with another one in the end is linked with it at first unless that
one still waits where there is no link. -/
theorem linked_early_iff (agree : plan.layout.BelsAgree) (own : (cell.name, bel) ∈ placed)
    {name : Name} {linked : BelId → Prop}
    (quiet : name ≠ cell.name → isMultiplier plan.layout name = true → ∀ place,
      (View.mk plan.layout (placed ++ later)).belOf? name = some place → linked place) :
    (name ≠ cell.name → isMultiplier plan.layout name = true → ∀ place,
      (View.mk plan.layout placed).belOf? name = some place → linked place) ↔
    ∀ other place, other.name = name → plan.Waits placed later other place → other.type = "DSP" →
      linked place := by
  have multiplier_iff : ∀ {other place}, plan.Waits placed later other place →
      (isMultiplier plan.layout other.name = true ↔ other.type = "DSP") := by
    intro other place waits
    simp only [isMultiplier, (agree.bound_iff.1 waits.bound).1, decide_eq_true_eq]
  constructor
  · rintro early other place rfl waits type
    have apart : other.name ≠ cell.name := fun itself =>
      waits.unplaced (List.mem_map.2 ⟨_, own, itself.symm⟩)
    exact early apart ((multiplier_iff waits).2 type) place (belOf?_of_waits agree waits)
  · intro free apart multiplier place seen
    rcases belOf?_cases agree later seen with still | ⟨other, rfl, waits⟩
    · exact quiet apart multiplier place still
    · exact free other place rfl waits ((multiplier_iff waits).1 multiplier)

theorem cascadeViolation?_early_iff (agree : plan.layout.BelsAgree)
    (own : (cell.name, bel) ∈ placed) (multiplier : cell.type = "DSP")
    (quiet : plan.cascadeViolation? ⟨plan.layout, placed ++ later⟩ cell bel = none) :
    plan.cascadeViolation? ⟨plan.layout, placed⟩ cell bel = none ↔
      ¬ plan.CascadeBlocked placed later cell bel := by
  simp only [cascadeViolation?_eq_none_iff_seen, cascadeInputViolation?_eq_none_iff,
    cascadeOutputViolation?_eq_none_iff] at quiet ⊢
  constructor
  · rintro early ⟨_, port, name, net, other, place, joined, known, waits, type, link⟩
    obtain ⟨inputs, outputs⟩ := quiet port name net joined known
    obtain ⟨inputs', outputs'⟩ := early port name net joined known
    rcases link with ⟨input, driven, unlinked⟩ | ⟨output, used, unlinked⟩
    · obtain ⟨driver, driven, same⟩ := Option.map_eq_some_iff.1 driven
      exact unlinked ((linked_early_iff agree own (inputs input driver driven)).1
        (inputs' input driver driven) other place same.symm waits type)
    · obtain ⟨user, used, same⟩ := List.mem_map.1 used
      exact unlinked ((linked_early_iff agree own (outputs output user used)).1
        (outputs' output user used) other place same.symm waits type)
  · intro free port name net joined known
    obtain ⟨inputs, outputs⟩ := quiet port name net joined known
    constructor
    · intro input driver driven
      refine (linked_early_iff agree own (inputs input driver driven)).2
        fun other place same waits type => ?_
      by_contra unlinked
      exact free ⟨multiplier, port, name, net, other, place, joined, known, waits, type,
        .inl ⟨input, by rw [driven, same]; rfl, unlinked⟩⟩
    · intro output user used
      refine (linked_early_iff agree own (outputs output user used)).2
        fun other place same waits type => ?_
      by_contra unlinked
      exact free ⟨multiplier, port, name, net, other, place, joined, known, waits, type,
        .inr ⟨output, List.mem_map.2 ⟨user, used, same.symm⟩, unlinked⟩⟩

/-- Fewer moves ask for fewer buffers. -/
theorem clockViolation?_early (there : ClockBuffer.OnDevice plan.device plan.fabric.tables.buffers)
    (served : plan.clockViolation? (placed ++ later) cell bel = .ok none) :
    plan.clockViolation? placed cell bel = .ok none := by
  rw [clockViolation?_eq_ok_none_iff_assigned] at served ⊢
  intro clocked lobe here buffers known
  obtain ⟨served, assigned⟩ := served clocked lobe here buffers known
  have fewer : (plan.lobeNets placed cell lobe).Sublist
      (plan.lobeNets (placed ++ later) cell lobe) := by
    refine lobeNets_sublist_of_subset rfl fun net asked => ?_
    rw [mem_lobeNets_iff] at asked ⊢
    rcases asked with own | counted | moved
    · exact .inl own
    · exact .inr (.inl counted)
    · right
      right
      rw [movedNets, List.flatMap_append]
      exact List.mem_append_left _ moved
  exact ClockBuffer.assigned_of_sublists (fun _ => there lobe buffers known) (.refl buffers)
    (fewer.map _) assigned

/-- **A member that fits at the end fits at first unless somebody is in the way who will not be
there.** Voltages and settings do not depend on moves, and the clock nets only become more. -/
theorem memberFits_early_iff (agree : plan.layout.BelsAgree)
    (there : ClockBuffer.OnDevice plan.device plan.fabric.tables.buffers)
    (own : (cell.name, bel) ∈ placed)
    (fits : plan.memberFits cell bel (placed ++ later) = .ok true) :
    plan.memberFits cell bel placed = .ok true ↔ ¬ plan.Blocked placed later cell bel := by
  obtain ⟨suits, quiet⟩ := memberFits_eq_ok_true_iff.1 fits
  have isBel := isBel_of_fits suits
  obtain ⟨voltage, group, setting, cascade, clock⟩ := (violation?_eq_ok_none_iff isBel _).1 quiet
  rw [memberFits_eq_ok_true_iff, and_iff_right suits, violation?_eq_ok_none_iff isBel,
    and_iff_right voltage, groupViolation?_early_iff own group, and_iff_right setting,
    and_iff_left (clockViolation?_early there clock), Blocked, not_or]
  refine and_congr_right fun _ => ⟨fun linked blocked => ?_, fun free multiplier => ?_⟩
  · exact (cascadeViolation?_early_iff agree own blocked.1 (cascade blocked.1)).1
      (linked blocked.1) blocked
  · exact (cascadeViolation?_early_iff agree own multiplier (cascade multiplier)).2 free

end OneMember

/-! ### Whole families -/

theorem forall_split_cons_iff {α : Type} {P : List α → α → List α → Prop} {first : α}
    {rest : List α} :
    (∀ before entry later, first :: rest = before ++ entry :: later → P before entry later) ↔
      P [] first rest ∧
        ∀ before entry later, rest = before ++ entry :: later → P (first :: before) entry later := by
  constructor
  · intro all
    exact ⟨all [] first rest rfl, fun before entry later split =>
      all (first :: before) entry later (congrArg (first :: ·) split)⟩
  · rintro ⟨head, tail⟩ before entry later split
    cases before with
    | nil =>
        obtain ⟨rfl, rfl⟩ := List.cons.inj split
        exact head
    | cons other before =>
        obtain ⟨rfl, same⟩ := List.cons.inj split
        exact tail before entry later same

section Families

variable {plan : Plan}

/-- A family unfolds in one way only. -/
theorem Unfolds.unique {waiting : List Waiting} {placement others : Placement}
    (unfolds : plan.Unfolds waiting placement) (unfolds' : plan.Unfolds waiting others) :
    placement = others := by
  induction unfolds generalizing others with
  | done =>
      cases unfolds'
      rfl
  | next found there later ih =>
      cases unfolds' with
      | next found' there' later' =>
          cases found.symm.trans found'
          cases there.symm.trans there'
          rw [ih later']

/-- **A family is placed when each of its members fits at first.** -/
theorem placeWaiting_eq_iff (named : plan.layout.netlist.Named) {waiting : List Waiting}
    {more : Placement} (unfolds : plan.Unfolds waiting more) :
    ∀ placement, ((placement ++ more).map Prod.snd).Nodup →
      (plan.placeWaiting plan.memberFits waiting placement = .ok (true, placement ++ more) ↔
        ∀ before entry later, more = before ++ entry :: later → ∃ cell,
          plan.cell? entry.1 = some cell ∧
            plan.memberFits cell entry.2 (placement ++ before ++ [entry]) = .ok true) := by
  induction unfolds with
  | done =>
      intro placement _
      simp [placeWaiting]
  | @next next rest cell bel more found there later ih =>
      intro placement apart
      have known : plan.cell? cell.name = some cell := by
        rw [named next.name cell found]
        exact found
      have unused : ¬ placement.any (·.2 = bel) = true := by
        rw [List.any_eq_true]
        rintro ⟨entry, member, same⟩
        rw [List.map_append, List.nodup_append] at apart
        exact apart.2.2 _ (List.mem_map_of_mem member) bel List.mem_cons_self
          (of_decide_eq_true same)
      rw [List.append_cons] at apart ⊢
      rw [placeWaiting_of_there found there, if_neg unused, forall_split_cons_iff]
      simp only [List.append_nil, known, Option.some.injEq, exists_eq_left']
      have step := ih (placement ++ [(cell.name, bel)]) apart
      simp only [List.append_assoc, List.singleton_append] at step ⊢
      cases answer : plan.memberFits cell bel (placement ++ [(cell.name, bel)]) with
      | error fault => simp
      | ok fits =>
          cases fits with
          | false => simp
          | true => simpa using step

theorem allFit_of_fits {placement : Placement} (entries : Placement)
    (fits : ∀ entry ∈ entries, ∃ cell, plan.cell? entry.1 = some cell ∧
      plan.memberFits cell entry.2 placement = .ok true) :
    plan.allFit plan.memberFits placement entries = .ok true := by
  induction entries with
  | nil => rfl
  | cons entry rest ih =>
      obtain ⟨⟨cell, found, here⟩, others⟩ := List.forall_mem_cons.1 fits
      simp only [allFit, found, here, ih others]

/-- Somebody stands in the way of a member, below the first one, and will not be there in
the end. -/
def Obstructed (plan : Plan) (placement : Placement) : Prop :=
  ∃ before entry later cell, placement = before ++ entry :: later ∧ before ≠ [] ∧
    plan.cell? entry.1 = some cell ∧ plan.Blocked (before ++ [entry]) later cell entry.2

variable {cluster : Name} {root : Cell} {bel own : BelId} {location : Loc} {more : Placement}

/-- The last check is passed by a placement that is admitted, so it is up to the first one. -/
theorem place?_eq_some_iff_placeWaiting (found : plan.cell? cluster = some root)
    (unlinked : ¬ IsLinked root) (rooted : plan.rootPlace? root bel = some (own, location))
    (admitted : plan.Admitted ((root.name, own) :: more)) :
    plan.place? cluster bel = .ok (some ((root.name, own) :: more)) ↔
      plan.placeWaiting plan.memberFits (root.waitingChildren location) [(root.name, own)] =
        .ok (true, [(root.name, own)] ++ more) := by
  have all := allFit_of_fits _ admitted.fits
  have members : plan.clusterMembers? plan.memberFits root own location =
        .ok (some ((root.name, own) :: more)) ↔
      plan.placeWaiting plan.memberFits (root.waitingChildren location) [(root.name, own)] =
        .ok (true, [(root.name, own)] ++ more) := by
    rw [clusterMembers?, if_neg (show ¬ (root.type = "DSP" ∧ root.children ≠ []) from unlinked)]
    constructor
    · intro answer
      split at answer <;> cases answer
      rename_i done
      exact done
    · intro done
      simp only [done, List.singleton_append]
  rw [place?_eq_some_iff, ← members]
  constructor
  · rintro ⟨root', own', location', found', rooted', answer, _⟩
    cases found.symm.trans found'
    cases rooted.symm.trans rooted'
    exact answer
  · intro answer
    exact ⟨root, own, location, found, rooted, answer, all⟩

theorem place?_eq_some_iff_not_obstructed (agree : plan.layout.BelsAgree)
    (there : ClockBuffer.OnDevice plan.device plan.fabric.tables.buffers)
    (found : plan.cell? cluster = some root) (unlinked : ¬ IsLinked root)
    (rooted : plan.rootPlace? root bel = some (own, location))
    (unfolds : plan.Unfolds (root.waitingChildren location) more)
    (admitted : plan.Admitted ((root.name, own) :: more)) :
    plan.place? cluster bel = .ok (some ((root.name, own) :: more)) ↔
      ¬ plan.Obstructed ((root.name, own) :: more) := by
  rw [place?_eq_some_iff_placeWaiting found unlinked rooted admitted,
    placeWaiting_eq_iff agree.named unfolds _ admitted.apart]
  -- Each member fits at the end, so it fits at first unless somebody stands in the way.
  have each : ∀ before entry later, more = before ++ entry :: later → ∃ cell,
      plan.cell? entry.1 = some cell ∧
        (plan.memberFits cell entry.2 ([(root.name, own)] ++ before ++ [entry]) = .ok true ↔
          ¬ plan.Blocked ([(root.name, own)] ++ before ++ [entry]) later cell entry.2) := by
    rintro before entry later rfl
    obtain ⟨cell, known, fits⟩ := admitted.fits entry
      (List.mem_cons_of_mem _ (List.mem_append_right _ List.mem_cons_self))
    have whole : (root.name, own) :: (before ++ entry :: later) =
        ([(root.name, own)] ++ before ++ [entry]) ++ later := by simp
    rw [whole] at fits
    refine ⟨cell, known, memberFits_early_iff agree there ?_ fits⟩
    rw [agree.named entry.1 cell known]
    simp
  constructor
  · rintro fit ⟨_ | ⟨first, before⟩, entry, later, cell, split, below, known, blocked⟩
    · exact below rfl
    · obtain ⟨rfl, same⟩ := List.cons.inj split
      obtain ⟨cell', known', iff⟩ := each before entry later same
      obtain ⟨cell'', known'', fits⟩ := fit before entry later same
      cases known.symm.trans known'
      cases known.symm.trans known''
      exact iff.1 fits blocked
  · intro free before entry later split
    obtain ⟨cell, known, iff⟩ := each before entry later split
    refine ⟨cell, known, iff.2 fun blocked => free ?_⟩
    exact ⟨(root.name, own) :: before, entry, later, cell, congrArg (_ :: ·) split, by simp, known,
      blocked⟩

/-- In a placement each bel shows the member that it is given to. -/
theorem cellOn?_of_mem {placement : Placement} (apart : (placement.map Prod.snd).Nodup)
    {entry : Name × BelId} (member : entry ∈ placement) :
    (View.mk plan.layout placement).cellOn? entry.2 = plan.layout.cell? entry.1 := by
  cases first : placement.find? (·.2 = entry.2) with
  | none => exact absurd (decide_eq_true rfl) (List.find?_eq_none.1 first entry member)
  | some other =>
      have same := List.find?_some first
      simp only [decide_eq_true_eq] at same
      have itself := List.inj_on_of_nodup_map apart (List.mem_of_find?_eq_some first) member same
      simp only [View.cellOn?, first, itself]

/-- Every member of a placement is where it belongs, or nowhere, and nobody else is on a bel of
theirs. -/
structure InPlace (plan : Plan) (placement : Placement) : Prop where
  home : ∀ entry ∈ placement, ∀ place, plan.layout.belOf? entry.1 = some place → place = entry.2
  vacant : ∀ entry ∈ placement, ∀ name, plan.layout.cellOn[entry.2]? = some name → name = entry.1

section InPlace

variable {placed later : Placement} {cell other : Cell} {place bel : BelId}

/-- A cell that lingers is then a later member on its own bel, and is seen there in the end. -/
theorem Lingers.seen (lingers : plan.Lingers placed later other place)
    (agree : plan.layout.BelsAgree)
    (inPlace : plan.InPlace (placed ++ later)) (apart : ((placed ++ later).map Prod.snd).Nodup) :
    (View.mk plan.layout (placed ++ later)).cellOn? place = some other := by
  obtain ⟨found, lies⟩ := agree.bound_iff.1 lingers.bound
  have there := Layout.belOf?_eq_some_iff.2 ⟨other, found, lies⟩
  have occupied := (agree.placed_iff place other.name).2 there
  have within : ∀ entry ∈ later, entry ∈ placed ++ later := fun _ => List.mem_append_right placed
  suffices member : (other.name, place) ∈ placed ++ later from
    (cellOn?_of_mem apart member).trans found
  rcases lingers.moves with moves | moves
  · obtain ⟨⟨_, goal⟩, member, rfl⟩ := List.mem_map.1 moves
    cases inPlace.home _ (within _ member) place there
    exact within _ member
  · obtain ⟨⟨name, _⟩, member, rfl⟩ := List.mem_map.1 moves
    cases inPlace.vacant _ (within _ member) other.name occupied
    exact within _ member

/-- A member that waits is then seen there in the end. -/
theorem Waits.seen (waits : plan.Waits placed later other place) (agree : plan.layout.BelsAgree)
    (inPlace : plan.InPlace (placed ++ later)) :
    (View.mk plan.layout (placed ++ later)).belOf? other.name = some place := by
  have there := Layout.belOf?_eq_some_iff.2 ⟨other, agree.bound_iff.1 waits.bound⟩
  simp only [View.belOf?]
  split
  · rename_i own goal first
    have same := List.find?_some first
    simp only [decide_eq_true_eq] at same
    cases same
    rw [inPlace.home _ (List.mem_of_find?_eq_some first) place there]
  · exact there

theorem not_blocked_of_inPlace (agree : plan.layout.BelsAgree)
    (inPlace : plan.InPlace (placed ++ later)) (apart : ((placed ++ later).map Prod.snd).Nodup)
    (own : (cell.name, bel) ∈ placed)
    (fits : plan.memberFits cell bel (placed ++ later) = .ok true) :
    ¬ plan.Blocked placed later cell bel := by
  obtain ⟨suits, quiet⟩ := memberFits_eq_ok_true_iff.1 fits
  obtain ⟨_, group, _, cascade, _⟩ := (violation?_eq_ok_none_iff (isBel_of_fits suits) _).1 quiet
  rintro (⟨info, grouped, port, shared, index, listed, other, net, otherNet, lingers, joined, joined',
    different⟩ | ⟨multiplier, port, name, net, other, place, joined, known, waits, type, link⟩)
  · refine different (groupViolation?_eq_none_iff_seen.1 group info grouped port shared net joined
      index listed ?_ other (lingers.seen agree inPlace apart) ?_ otherNet joined')
    · exact fun here => lingers.untaken (List.mem_map.2 ⟨_, own, here.symm⟩)
    · exact fun itself => lingers.unplaced (List.mem_map.2 ⟨_, own, itself.symm⟩)
  · have different : other.name ≠ cell.name := fun itself =>
      waits.unplaced (List.mem_map.2 ⟨_, own, itself.symm⟩)
    have isMultiplier : isMultiplier plan.layout other.name = true := by
      simp only [isMultiplier, (agree.bound_iff.1 waits.bound).1, type, decide_true]
    have seen := waits.seen agree inPlace
    obtain ⟨inputs, outputs⟩ :=
      cascadeViolation?_eq_none_iff_seen.1 (cascade multiplier) port name net joined known
    rcases link with ⟨input, driven, unlinked⟩ | ⟨output, used, unlinked⟩
    · obtain ⟨driver, driven, same⟩ := Option.map_eq_some_iff.1 driven
      rw [← same] at different isMultiplier seen
      exact unlinked (cascadeInputViolation?_eq_none_iff.1 (inputs input) driver driven different
        isMultiplier place seen)
    · obtain ⟨user, used, same⟩ := List.mem_map.1 used
      rw [← same] at different isMultiplier seen
      exact unlinked (cascadeOutputViolation?_eq_none_iff.1 (outputs output) user used different
        isMultiplier place seen)

end InPlace

/-- Whoever is where it belongs, or nowhere, is in nobody's way. -/
theorem not_obstructed_of_inPlace {placement : Placement} (agree : plan.layout.BelsAgree)
    (admitted : plan.Admitted placement) (inPlace : plan.InPlace placement) :
    ¬ plan.Obstructed placement := by
  rintro ⟨before, entry, later, cell, rfl, _, known, blocked⟩
  obtain ⟨cell', known', fits⟩ := admitted.fits entry
    (List.mem_append_right _ List.mem_cons_self)
  cases known.symm.trans known'
  have apart := admitted.apart
  rw [List.append_cons] at fits apart inPlace
  refine not_blocked_of_inPlace agree inPlace apart ?_ fits blocked
  rw [agree.named entry.1 cell known]
  exact List.mem_append_right _ List.mem_cons_self

end Families

/-- **A placement that the last check accepts is refused when somebody stands in the way at first,
and only then.**  `placement` is the first cell of a family and all who descend from it, each from
its parent on, where the device has bels for them; the bels are different, and every member fits on
its own with the others on theirs.  Then the cluster is placed so, unless some member was asked
about while a cell was still in its way that will not be there in the end.  Nobody is in the way
when every member is where it belongs or nowhere, and nobody else is on the bels of members. -/
theorem place?_admitted_iff {device : Device} {netlist : Netlist} {plan : Plan}
    (reachable : Reachable device netlist plan) {cluster : Name} {root : Cell} {bel own : BelId}
    {location : Loc} {more : Placement} (found : plan.cell? cluster = some root)
    (unlinked : ¬ IsLinked root) (rooted : plan.rootPlace? root bel = some (own, location))
    (unfolds : plan.Unfolds (root.waitingChildren location) more)
    (admitted : plan.Admitted ((root.name, own) :: more)) :
    let placement := (root.name, own) :: more
    (plan.place? cluster bel = .ok (some placement) ↔ ¬ plan.Obstructed placement) ∧
      (plan.place? cluster bel = .ok none ↔ plan.Obstructed placement) ∧
      (plan.InPlace placement → plan.place? cluster bel = .ok (some placement)) := by
  obtain ⟨agree, prepared⟩ := reachable.invariant
  have accepted := place?_eq_some_iff_not_obstructed agree prepared.onDevice found unlinked rooted
    unfolds admitted
  refine ⟨accepted, ?_, fun inPlace =>
    accepted.2 (not_obstructed_of_inPlace agree admitted inPlace)⟩
  rw [← not_iff_not, ← accepted]
  -- There is an answer, and only one placement that it can be.
  obtain ⟨answer, decided⟩ := place?_total prepared.onDevice cluster bel
  rw [decided]
  cases answer with
  | none => simp
  | some other =>
      obtain ⟨root', own', location', found', rooted', ⟨linked, _⟩ | ⟨_, more', rfl, unfolds'⟩⟩ :=
        place?_cases decided
      · cases found.symm.trans found'
        exact absurd linked unlinked
      · cases found.symm.trans found'
        cases rooted.symm.trans rooted'
        simp [unfolds.unique unfolds']

end Plan

/-! ### A sample: two flip-flops that may not share a group, and one of them leaves it -/

namespace GroupSample

/-- Four flip-flops, of which the first two share the multiplexer of a reset. -/
def tileType : TileType :=
  ⟨"T", #[⟨"F0", "BEYOND_FE", 0, 0, [], some 0, none⟩, ⟨"F1", "BEYOND_FE", 1, 0, [], some 0, none⟩,
      ⟨"F2", "BEYOND_FE", 2, 0, [], none, none⟩, ⟨"F3", "BEYOND_FE", 3, 0, [], none, none⟩],
    #[⟨"w0", "", 0⟩], #[], #[⟨[0, 1], ["R"]⟩]⟩

def chip : Chip :=
  ⟨"groups", 1, 1, #[tileType], #[⟨0, some ⟨"T0", some 0⟩⟩], [], []⟩

def device : Device :=
  ⟨chip, by decide, Indexes.ofChip chip, rfl⟩

/-- A flip-flop at some way from its parent, with a reset of its own. -/
def member (name net : Name) (above : Int) (bel : Option BelId) : Cell :=
  { Cell.bare name "BEYOND_FE" with
    ports := (∅ : Std.ExtTreeMap Name Port).insert "R" ⟨.input, some net⟩
    offset := ⟨0, 0, above⟩
    bel }

def root (children : List Name) : Cell :=
  { Cell.bare "root" "BEYOND_FE" with children }

/-- One child goes to the group, and the other one leaves it. -/
def netlist (children : List Name) : Netlist :=
  ((((Netlist.empty.setCell (root children)).setCell (member "a" "x" (-2) none)).setCell
    (member "b" "y" 1 (some ⟨0, 1⟩))).setNet ⟨"x", none, [⟨"a", "R"⟩], ∅⟩).setNet
      ⟨"y", none, [⟨"b", "R"⟩], ∅⟩

theorem named (children : List Name) : (netlist children).Named :=
  ((((Netlist.named_empty.setCell (root children)).setCell (member "a" "x" (-2) none)).setCell
    (member "b" "y" 1 (some ⟨0, 1⟩))).setNet _).setNet _

def layout (children : List Name) : Layout :=
  match Layout.ofNetlist device (netlist children) with
  | .ok layout => layout
  | .error _ => ⟨device, netlist children, ∅, ∅, ∅⟩

def plan (children : List Name) : Plan :=
  (Plan.mk .fresh Sample.fabric (layout children)).setUp.1

theorem built : ClockBuffer.byLobe device (TileNames.ofChip chip) = .ok ∅ := by
  with_unfolding_all rfl

theorem started : Plan.Started device (netlist ["a", "b"]) (plan ["a", "b"]) :=
  .of_built (named _) (by rfl) built .fresh Sample.fabric

def placement : Placement :=
  [("root", ⟨0, 2⟩), ("a", ⟨0, 0⟩), ("b", ⟨0, 3⟩)]

theorem root_found : (plan ["a", "b"]).cell? "root" = some (root ["a", "b"]) := by
  with_unfolding_all rfl

theorem unlinked : ¬ Plan.IsLinked (root ["a", "b"]) := by
  rintro ⟨multiplier, _⟩
  revert multiplier
  decide

theorem rooted : (plan ["a", "b"]).rootPlace? (root ["a", "b"]) ⟨0, 2⟩ =
    some (⟨0, 2⟩, ⟨0, 0, 2⟩) := by
  decide +kernel

theorem unfolds : (plan ["a", "b"]).Unfolds ((root ["a", "b"]).waitingChildren ⟨0, 0, 2⟩)
    [("a", ⟨0, 0⟩), ("b", ⟨0, 3⟩)] := by
  have first : (plan ["a", "b"]).cell? "a" = some (member "a" "x" (-2) none) := by
    with_unfolding_all rfl
  have second : (plan ["a", "b"]).cell? "b" = some (member "b" "y" 1 (some ⟨0, 1⟩)) := by
    with_unfolding_all rfl
  have lower : (plan ["a", "b"]).device.belAt?
      ((member "a" "x" (-2) none).locationFrom ⟨0, 0, 2⟩) = some ⟨0, 0⟩ := by
    with_unfolding_all rfl
  have upper : (plan ["a", "b"]).device.belAt?
      ((member "b" "y" 1 (some ⟨0, 1⟩)).locationFrom ⟨0, 0, 2⟩) = some ⟨0, 3⟩ := by
    with_unfolding_all rfl
  change (plan ["a", "b"]).Unfolds [⟨"a", ⟨0, 0, 2⟩⟩, ⟨"b", ⟨0, 0, 2⟩⟩]
    [((member "a" "x" (-2) none).name, ⟨0, 0⟩), ((member "b" "y" 1 (some ⟨0, 1⟩)).name, ⟨0, 3⟩)]
  exact .next first lower (.next second upper .done)

theorem admitted : (plan ["a", "b"]).Admitted placement := by
  have all : (plan ["a", "b"]).allFit (plan ["a", "b"]).memberFits placement placement = .ok true := by
    with_unfolding_all rfl
  exact ⟨by decide, Plan.fits_of_allFit placement all⟩

theorem refused : (plan ["a", "b"]).place? "root" ⟨0, 2⟩ = .ok none := by
  with_unfolding_all rfl

theorem accepted : (plan ["b", "a"]).place? "root" ⟨0, 2⟩ =
    .ok (some [("root", ⟨0, 2⟩), ("b", ⟨0, 3⟩), ("a", ⟨0, 0⟩)]) := by
  with_unfolding_all rfl

theorem isFamilyTree : (plan ["a", "b"]).IsFamilyTree "root" := by
  obtain ⟨roster, family⟩ :=
    Plan.roster_of_unfolds started.consistent.agree.named ⟨0, 2⟩ root_found unfolds
  exact (roster.nodup_iff family).1 (by decide)

/-- The sample is refused, so somebody is in the way. -/
theorem refused_obstructed :
    Plan.Reachable device (netlist ["a", "b"]) (plan ["a", "b"]) ∧
      (plan ["a", "b"]).Admitted placement ∧ (plan ["a", "b"]).Obstructed placement ∧
      (plan ["a", "b"]).place? "root" ⟨0, 2⟩ ≠ .ok (some placement) := by
  obtain ⟨accepted_iff, refused_iff, _⟩ :=
    Plan.place?_admitted_iff (.started started) root_found unlinked rooted unfolds admitted
  have obstructed := refused_iff.1 refused
  exact ⟨.started started, admitted, obstructed, fun placed => accepted_iff.1 placed obstructed⟩

/-- **A legal place for a tree is refused for the order of its children.**  All places are there and
different, and every member fits on its own with the others on theirs; yet the answer is no, and
with the children the other way round it is yes. -/
theorem legal_refused :
    Plan.Reachable device (netlist ["a", "b"]) (plan ["a", "b"]) ∧
      (plan ["a", "b"]).IsFamilyTree "root" ∧ (root ["a", "b"]).type ≠ "DSP" ∧
      (plan ["a", "b"]).rootPlace? (root ["a", "b"]) ⟨0, 2⟩ = some (⟨0, 2⟩, ⟨0, 0, 2⟩) ∧
      (plan ["a", "b"]).Unfolds ((root ["a", "b"]).waitingChildren ⟨0, 0, 2⟩)
        [("a", ⟨0, 0⟩), ("b", ⟨0, 3⟩)] ∧
      (plan ["a", "b"]).Admitted [("root", ⟨0, 2⟩), ("a", ⟨0, 0⟩), ("b", ⟨0, 3⟩)] ∧
      (plan ["a", "b"]).place? "root" ⟨0, 2⟩ = .ok none ∧
      (plan ["b", "a"]).place? "root" ⟨0, 2⟩ =
        .ok (some [("root", ⟨0, 2⟩), ("b", ⟨0, 3⟩), ("a", ⟨0, 0⟩)]) :=
  ⟨.started started, isFamilyTree, by decide, rooted, unfolds, admitted, refused, accepted⟩

end GroupSample

end UltraFabric
