/-
# UltraFabric.Proofs.Requirements — cells that are required somewhere

One after the other, in the order of their names, cells are put where they are required.  Each of
them gets one turn: it stays if it is there already, and else it is put there if the bel suits it
and is free then (`placed_putRequired_iff`).  A turn moves nobody else, so whoever has had no turn
yet is where it was (`Tried`).

* `placeRequiredFrom_eq`: what is counted and noted during the turns is what is true after them;
* `placeRequired_exact`: so the number says how many cells are not where they are required;
* `belOf?_settled_iff`: who gets there, when nobody is required where somebody else is.

A bel that is held by a cell which is itself to leave it is free in time only if that cell has its
turn first.  So the names decide whether a chain of moves can be made, and an exchange never can
(`placeRequired_meets_iff`).
-/
import Mathlib.Data.Set.Finite.Lemmas
import Mathlib.Data.String.Basic
import UltraFabric.Flow
import UltraFabric.Proofs.Census
import UltraFabric.Proofs.Clusters
import UltraFabric.Proofs.Reachable
import UltraFabric.Proofs.RollCall

namespace UltraFabric.Plan

set_option autoImplicit false

/-- A cell has to be on a bel. -/
def Required (plan : Plan) (name : Name) (bel : BelId) : Prop :=
  ∃ cell, plan.cell? name = some cell ∧ cell.required = some bel

/-- A cell has to be on a bel and is not there. -/
def Unmet (plan : Plan) (name : Name) : Prop :=
  ∃ bel, plan.Required name bel ∧ plan.layout.belOf? name ≠ some bel

/-- A cell that has to be somewhere gets its turn. -/
def putRequired (plan : Plan) (want : Name × Name × BelId) : Plan :=
  if plan.layout.belOf? want.1 = some want.2.2 then plan
  else if plan.fits want.2.1 want.2.2 then plan.putOn (want.1, want.2.2)
  else plan

/-- A cell is not where it has to be. -/
def misses (plan : Plan) (want : Name × Name × BelId) : Bool :=
  plan.layout.belOf? want.1 ≠ some want.2.2

/-- What is noted of a cell that could not be put where it is required. -/
def complaint (plan : Plan) (want : Name × Name × BelId) : Notice :=
  if plan.fits want.2.1 want.2.2 then .requirementTaken want.1 else .requirementUnfit want.1

theorem misses_iff {plan : Plan} {want : Name × Name × BelId} :
    plan.misses want = true ↔ plan.layout.belOf? want.1 ≠ some want.2.2 :=
  decide_eq_true_iff

/-! ### Who has to be where -/

section Requirements

variable {plan : Plan}

theorem mem_requirements_iff (named : plan.layout.netlist.Named) {name type : Name} {bel : BelId} :
    (name, type, bel) ∈ plan.requirements ↔
      ∃ cell, plan.cell? name = some cell ∧ cell.type = type ∧ cell.required = some bel := by
  simp only [requirements, List.mem_filterMap, Option.map_eq_some_iff, Prod.mk.injEq,
    named.mem_cellList_iff]
  constructor
  · rintro ⟨cell, found, _, required, rfl, rfl, rfl⟩
    exact ⟨cell, found, rfl, required⟩
  · rintro ⟨cell, found, rfl, required⟩
    have own := named name cell found
    exact ⟨cell, by rwa [own], bel, required, own, rfl, rfl⟩

theorem required_iff (named : plan.layout.netlist.Named) {name : Name} {bel : BelId} :
    plan.Required name bel ↔ ∃ type, (name, type, bel) ∈ plan.requirements := by
  simp only [mem_requirements_iff named]
  constructor
  · rintro ⟨cell, found, required⟩
    exact ⟨cell.type, cell, found, rfl, required⟩
  · rintro ⟨_, cell, found, _, required⟩
    exact ⟨cell, found, required⟩

/-- Cells have their turns in the order of their names. -/
theorem pairwise_requirements (named : plan.layout.netlist.Named) :
    plan.requirements.Pairwise fun a b => compare a.1 b.1 = .lt := by
  have cells : plan.layout.netlist.cellList.Pairwise fun a b => compare a.name b.name = .lt := by
    rw [Netlist.cellList, Entries.values_eq_map_toList, List.pairwise_map]
    refine plan.layout.netlist.cells.ordered_keys_toList.imp_of_mem ?_
    rintro ⟨key, cell⟩ ⟨key', cell'⟩ member member' before
    rw [named key cell (Std.ExtTreeMap.mem_toList_iff_getElem?_eq_some.1 member),
      named key' cell' (Std.ExtTreeMap.mem_toList_iff_getElem?_eq_some.1 member')]
    exact before
  rw [requirements, List.pairwise_filterMap]
  refine cells.imp fun before a mine b theirs => ?_
  obtain ⟨_, _, rfl⟩ := Option.map_eq_some_iff.1 mine
  obtain ⟨_, _, rfl⟩ := Option.map_eq_some_iff.1 theirs
  exact before

theorem nodup_requirements (named : plan.layout.netlist.Named) :
    (plan.requirements.map Prod.fst).Nodup := by
  refine List.pairwise_map.2 ((pairwise_requirements named).imp fun {_ b} before same => ?_)
  have equal : compare b.1 b.1 = .eq := Std.ReflCmp.compare_self
  rw [same, equal] at before
  cases before

end Requirements

/-! ### One turn -/

/-- Some cells have had a turn: each of them is where it was or where it is required, and nobody
else has moved. -/
structure Tried (before : Plan) (wanted : List (Name × Name × BelId)) (after : Plan) : Prop where
  agree : after.layout.BelsAgree
  moves : before.OnlyMoves after
  counted : before.Counted → after.Counted
  place : ∀ name, after.layout.belOf? name = before.layout.belOf? name ∨
    ∃ want ∈ wanted, want.1 = name ∧ after.layout.belOf? name = some want.2.2

theorem Tried.refl {plan : Plan} (agree : plan.layout.BelsAgree)
    (wanted : List (Name × Name × BelId)) : plan.Tried wanted plan :=
  ⟨agree, .refl plan, id, fun _ => .inl rfl⟩

theorem Tried.trans {before between after : Plan} {wanted more : List (Name × Name × BelId)}
    (first : before.Tried wanted between) (second : between.Tried more after) :
    before.Tried (wanted ++ more) after where
  agree := second.agree
  moves := first.moves.trans second.moves
  counted counted := second.counted (first.counted counted)
  place name := by
    rcases second.place name with same | ⟨want, member, own, there⟩
    · rw [same]
      rcases first.place name with same | ⟨want, member, own, there⟩
      · exact .inl same
      · exact .inr ⟨want, List.mem_append_left _ member, own, there⟩
    · exact .inr ⟨want, List.mem_append_right _ member, own, there⟩

/-- Whoever has had no turn is where it was. -/
theorem Tried.belOf?_eq {before after : Plan} {wanted : List (Name × Name × BelId)}
    (tried : before.Tried wanted after) {name : Name} (waits : name ∉ wanted.map Prod.fst) :
    after.layout.belOf? name = before.layout.belOf? name := by
  rcases tried.place name with same | ⟨want, member, own, _⟩
  · exact same
  · exact absurd (List.mem_map.2 ⟨want, member, own⟩) waits

/-- Moves do not change which bels suit a cell. -/
theorem OnlyMoves.fits {before after : Plan} (moves : before.OnlyMoves after) :
    after.fits = before.fits := by
  funext type bel
  unfold Plan.fits fitsAs
  rw [moves.fabric, Plan.device, moves.device, ← Plan.device]

theorem OnlyMoves.required_iff {before after : Plan} (moves : before.OnlyMoves after) {name : Name}
    {bel : BelId} : after.Required name bel ↔ before.Required name bel := by
  simp only [Required, cell?, moves.cells name, Option.map_eq_some_iff]
  constructor
  · rintro ⟨_, ⟨cell, found, rfl⟩, required⟩
    exact ⟨cell, found, required⟩
  · rintro ⟨cell, found, required⟩
    exact ⟨_, ⟨cell, found, rfl⟩, required⟩

section Turn

variable {plan : Plan} {bel : BelId}

/-- A cell is put on a bel of the device, and nobody else moves, when the bel is free and there is
such a cell; otherwise nothing happens. -/
theorem bind_exact (agree : plan.layout.BelsAgree) (isBel : plan.layout.device.isBel bel = true)
    (name : Name) :
    ((plan.layout.isFree bel = false ∨ plan.layout.cell? name = none) ∧
        plan.bind bel name = (false, plan)) ∨
      plan.layout.isFree bel = true ∧ (plan.bind bel name).1 = true ∧
        plan.OnlyMoves (plan.bind bel name).2 ∧
        ∀ other, (plan.bind bel name).2.layout.belOf? other =
          if name = other then some bel else plan.layout.belOf? other := by
  rcases bind_cases agree isBel name with
    same | ⟨free, cell, rfl, found, unplaced, same⟩ | ⟨free, old, cell, rfl, bound, same⟩
  · left
    refine ⟨?_, same⟩
    by_contra possible
    rw [not_or, Bool.not_eq_false] at possible
    obtain ⟨free, known⟩ := possible
    obtain ⟨cell, found⟩ := Option.ne_none_iff_exists'.1 known
    cases agree.named name cell found
    cases place : cell.bel with
    | none => cases same.symm.trans (bind_unplaced isBel free found place)
    | some old =>
        cases same.symm.trans
          (bind_placed agree (agree.bound_iff.2 ⟨found, place⟩) isBel free)
  · right
    rw [same]
    refine ⟨free, rfl, onlyMoves_arrive found, fun other => ?_⟩
    rw [arrive, Layout.occupy, Layout.belOf?_withCellAt]
  · right
    have left : (plan.leave old cell).layout.cell? cell.name = some { cell with bel := none } :=
      (Layout.cell?_vacate cell.name).trans (if_pos rfl)
    rw [same]
    refine ⟨free, rfl, (onlyMoves_leave (agree.bound_iff.1 bound).1).trans (onlyMoves_arrive left),
      fun other => ?_⟩
    rw [arrive, Layout.occupy, Layout.belOf?_withCellAt, leave, Layout.vacate,
      Layout.belOf?_withCellAt]
    split <;> rfl

theorem tried_putRequired (agree : plan.layout.BelsAgree) (want : Name × Name × BelId) :
    plan.Tried [want] (plan.putRequired want) := by
  rw [putRequired]
  split
  · exact .refl agree _
  split
  · rename_i suits
    have isBel := isBel_of_fits suits
    rcases bind_exact agree isBel want.1 with ⟨_, same⟩ | ⟨_, _, moves, place⟩
    · rw [putOn, same]
      exact .refl agree _
    · refine ⟨(sound_bind agree want.2.2 want.1).agree, moves, fun counted => ?_, fun other => ?_⟩
      · exact (Consistent.bind ⟨agree, counted⟩ isBel want.1).counted
      · rw [putOn, place]
        split
        · rename_i own
          exact .inr ⟨want, List.mem_singleton_self _, own, rfl⟩
        · exact .inl rfl
  · exact .refl agree _

/-- **A cell gets where it is required when it is there already, or when the bel suits it and is
free at its turn.** -/
theorem placed_putRequired_iff (agree : plan.layout.BelsAgree) {want : Name × Name × BelId}
    (known : ∃ cell, plan.layout.cell? want.1 = some cell) :
    (plan.putRequired want).layout.belOf? want.1 = some want.2.2 ↔
      plan.layout.belOf? want.1 = some want.2.2 ∨
        plan.fits want.2.1 want.2.2 = true ∧ plan.layout.isFree want.2.2 = true := by
  obtain ⟨cell, found⟩ := known
  rw [putRequired]
  split
  · rename_i already
    exact ⟨fun _ => .inl already, fun _ => already⟩
  rename_i elsewhere
  simp only [elsewhere, false_or]
  split
  · rename_i suits
    rw [putOn]
    rcases bind_exact agree (isBel_of_fits suits) want.1 with
      ⟨taken | missing, same⟩ | ⟨free, _, _, place⟩
    · simp [same, elsewhere, taken]
    · rw [found] at missing
      cases missing
    · simp [place, suits, free]
  · rename_i unfit
    simp [elsewhere, unfit]

end Turn

/-! ### All turns -/

/-- Turns move nobody but those who have them. -/
theorem tried_putRequireds (wanted : List (Name × Name × BelId)) :
    ∀ {plan : Plan}, plan.layout.BelsAgree → plan.Tried wanted (wanted.foldl putRequired plan) := by
  induction wanted with
  | nil =>
      intro plan agree
      exact .refl agree _
  | cons want rest ih =>
      intro plan agree
      have first := tried_putRequired agree want
      exact first.trans (ih first.agree)

/-- What is counted, what is left and what is noted. -/
theorem placeRequiredFrom_cons {plan : Plan} (agree : plan.layout.BelsAgree)
    (want : Name × Name × BelId) (rest : List (Name × Name × BelId)) :
    plan.placeRequiredFrom (want :: rest) =
      let (failed, last, notices) := (plan.putRequired want).placeRequiredFrom rest
      if (plan.putRequired want).misses want then
        (failed + 1, last, plan.complaint want :: notices)
      else (failed, last, notices) := by
  obtain ⟨name, type, bel⟩ := want
  simp only [placeRequiredFrom, putRequired, complaint, misses]
  by_cases already : plan.layout.belOf? name = some bel
  · simp [already]
  by_cases suits : plan.fits type bel = true
  · rcases bind_exact agree (isBel_of_fits suits) name with ⟨_, same⟩ | ⟨_, done, _, place⟩
    · simp [already, suits, putOn, same]
    · have there := place name
      rw [if_pos rfl] at there
      simp only [already, suits, putOn, there, if_true, if_false, Bool.not_true,
        Bool.false_eq_true]
      split
      · rename_i next bound
        simp [bound]
      · rename_i next bound
        rw [bound] at done
        cases done
  · simp [already, suits]

/-- **What is counted and noted during the turns is what is true after them**, when nobody
has two. -/
theorem placeRequiredFrom_eq (wanted : List (Name × Name × BelId)) :
    ∀ {plan : Plan}, plan.layout.BelsAgree → (wanted.map Prod.fst).Nodup →
      let after := wanted.foldl putRequired plan
      let unmet := wanted.filter after.misses
      plan.placeRequiredFrom wanted = (unmet.length, after, unmet.map plan.complaint) := by
  induction wanted with
  | nil =>
      intro plan _ _
      rfl
  | cons want rest ih =>
      intro plan agree names
      rw [List.map_cons, List.nodup_cons] at names
      have first := tried_putRequired agree want
      have later := tried_putRequireds rest first.agree
      have complaints : (plan.putRequired want).complaint = plan.complaint := by
        funext want
        rw [complaint, complaint, first.moves.fits]
      -- The head has had its turn, so it stays where it is then.
      have stays : (rest.foldl putRequired (plan.putRequired want)).misses want =
          (plan.putRequired want).misses want := by
        rw [misses, misses, later.belOf?_eq names.1]
      simp only [placeRequiredFrom_cons agree, ih first.agree names.2, List.foldl_cons,
        List.filter_cons, stays, complaints]
      split <;> rfl

/-- The counts are those of a new count. -/
theorem counted_iff {plan : Plan} : plan.Counted ↔ plan.fabric.occupancy = plan.recount := by
  refine ⟨Counted.eq_recount, fun same => ?_⟩
  obtain ⟨clocks, voltages⟩ := plan.holds_recount
  rw [← same] at clocks voltages
  exact ⟨clocks, voltages⟩

section Outcome

variable {plan : Plan}

/-- The plan after everybody has had a turn. -/
def settled (plan : Plan) : Plan :=
  plan.requirements.foldl putRequired plan

theorem placeRequired_eq (agree : plan.layout.BelsAgree) :
    plan.placeRequired = ((plan.requirements.filter plan.settled.misses).length, plan.settled,
      (plan.requirements.filter plan.settled.misses).map plan.complaint) :=
  placeRequiredFrom_eq plan.requirements agree (nodup_requirements agree.named)

theorem tried_settled (agree : plan.layout.BelsAgree) :
    plan.Tried plan.requirements plan.settled :=
  tried_putRequireds plan.requirements agree

theorem Required.unique {name : Name} {bel other : BelId} (required : plan.Required name bel)
    (required' : plan.Required name other) : bel = other := by
  obtain ⟨cell, found, bel₁⟩ := required
  obtain ⟨cell', found', bel₂⟩ := required'
  cases found.symm.trans found'
  exact Option.some.inj (bel₁.symm.trans bel₂)

/-- Requirements that are not met are those of cells that are not there. -/
theorem unmet_settled_iff (agree : plan.layout.BelsAgree) {name : Name} :
    plan.settled.Unmet name ↔
      ∃ want ∈ plan.requirements, want.1 = name ∧ plan.settled.misses want = true := by
  simp only [Unmet, (tried_settled agree).moves.required_iff, required_iff agree.named, misses_iff]
  constructor
  · rintro ⟨bel, ⟨type, member⟩, elsewhere⟩
    exact ⟨(name, type, bel), member, rfl, elsewhere⟩
  · rintro ⟨⟨_, type, bel⟩, member, rfl, elsewhere⟩
    exact ⟨bel, ⟨type, member⟩, elsewhere⟩

end Outcome

/-- **Requirements are reported exactly, and nobody is displaced.**  The number that comes out is
that of the cells that are not where they are required afterwards, and each of them is noted once,
by name.  These cells and those that are required nowhere are where they were before, nothing but
places has changed, and the counts are still right. -/
theorem placeRequired_exact {device : Device} {netlist : Netlist} {plan : Plan}
    (reachable : Reachable device netlist plan) (counted : plan.fabric.occupancy = plan.recount) :
    let (failed, after, notices) := plan.placeRequired
    failed = {name | after.Unmet name}.ncard ∧
      notices = (plan.requirements.filter after.misses).map plan.complaint ∧
      (∀ name, after.Unmet name ∨ (¬ ∃ bel, plan.Required name bel) →
        after.layout.belOf? name = plan.layout.belOf? name) ∧
      plan.OnlyMoves after ∧ after.fabric.occupancy = after.recount := by
  obtain ⟨agree, _⟩ := reachable.invariant
  have tried := tried_settled agree
  rw [placeRequired_eq agree]
  refine ⟨?_, rfl, ?_, tried.moves, counted_iff.1 (tried.counted (counted_iff.2 counted))⟩
  · rw [← List.length_map (f := Prod.fst)]
    refine (ncard_eq_length _ ((nodup_requirements agree.named).sublist
      (List.filter_sublist.map _)) fun name => ?_).symm
    simp only [List.mem_map, List.mem_filter, Set.mem_ofPred_eq, unmet_settled_iff agree]
    constructor
    · rintro ⟨want, ⟨member, elsewhere⟩, own⟩
      exact ⟨want, member, own, elsewhere⟩
    · rintro ⟨want, member, own, elsewhere⟩
      exact ⟨want, ⟨member, elsewhere⟩, own⟩
  · intro name left
    rcases tried.place name with same | ⟨want, member, rfl, there⟩
    · exact same
    · have required : plan.Required want.1 want.2.2 :=
        (required_iff agree.named).2 ⟨want.2.1, member⟩
      rcases left with ⟨bel, required', elsewhere⟩ | nowhere
      · rw [(tried.moves.required_iff.1 required').unique required] at elsewhere
        exact absurd there elsewhere
      · exact absurd ⟨want.2.2, required⟩ nowhere

/-! ### Who gets there -/

/-- Every bel suits the cell that is required on it, and no two cells are required on one. -/
structure Compatible (plan : Plan) : Prop where
  apart : ∀ name other bel, plan.Required name bel → plan.Required other bel → name = other
  suits : ∀ name cell bel, plan.cell? name = some cell → cell.required = some bel →
    plan.fits cell.type bel = true

theorem compatible_of_requirements {plan : Plan} (named : plan.layout.netlist.Named)
    {wanted : List (Name × Name × BelId)} (listed : plan.requirements = wanted)
    (apart : ∀ a ∈ wanted, ∀ b ∈ wanted, a.2.2 = b.2.2 → a.1 = b.1)
    (suits : ∀ want ∈ wanted, plan.fits want.2.1 want.2.2 = true) : plan.Compatible where
  apart name other bel required required' := by
    obtain ⟨_, member⟩ := (required_iff named).1 required
    obtain ⟨_, member'⟩ := (required_iff named).1 required'
    rw [listed] at member member'
    exact apart _ member _ member' rfl
  suits name cell bel found required :=
    suits _ (listed ▸ (mem_requirements_iff named).2 ⟨cell, found, rfl, required⟩)

/-- Whoever is on the bel has its turn in time: it is the cell itself, or one that is required
somewhere and comes before it by name. -/
def ClearsInTime (plan : Plan) (name : Name) (bel : BelId) : Prop :=
  ∀ holder, plan.layout.cellOn[bel]? = some holder →
    holder = name ∨ holder < name ∧ ∃ place, plan.Required holder place

/-- The plan at the turn of a cell: those that come before it by name have had theirs, and neither
they nor the cell itself get another one. -/
structure AtTurn (plan : Plan) (want : Name × Name × BelId) (now : Plan) : Prop where
  agree : now.layout.BelsAgree
  moves : plan.OnlyMoves now
  place : ∀ name, now.layout.belOf? name = plan.layout.belOf? name ∨
    name < want.1 ∧ ∃ bel, plan.Required name bel ∧ now.layout.belOf? name = some bel
  own : now.layout.belOf? want.1 = plan.layout.belOf? want.1
  settled : plan.settled.layout.belOf? want.1 = (now.putRequired want).layout.belOf? want.1
  before : ∀ name, name < want.1 → plan.settled.layout.belOf? name = now.layout.belOf? name

section Precedence

variable {plan now : Plan} {want : Name × Name × BelId} {name holder : Name} {bel : BelId}

theorem exists_atTurn (agree : plan.layout.BelsAgree) (member : want ∈ plan.requirements) :
    ∃ now, plan.AtTurn want now := by
  have names := nodup_requirements agree.named
  have order := pairwise_requirements agree.named
  obtain ⟨earlier, later, split⟩ := List.append_of_mem member
  rw [split, List.map_append, List.nodup_append, List.map_cons, List.nodup_cons] at names
  rw [split, List.pairwise_append, List.pairwise_cons] at order
  obtain ⟨_, ⟨once, _⟩, apart⟩ := names
  obtain ⟨_, ⟨after, _⟩, first⟩ := order
  have tried := tried_putRequireds earlier agree
  have turn := tried_putRequired tried.agree want
  have rest := tried_putRequireds later turn.agree
  have whole : plan.settled =
      later.foldl putRequired ((earlier.foldl putRequired plan).putRequired want) := by
    rw [Plan.settled, split, List.foldl_append, List.foldl_cons]
  refine ⟨earlier.foldl putRequired plan, tried.agree, tried.moves, fun name => ?_,
    tried.belOf?_eq fun listed => apart _ listed _ List.mem_cons_self rfl, ?_, fun name before => ?_⟩
  · rcases tried.place name with same | ⟨other, listed, rfl, there⟩
    · exact .inl same
    · refine .inr ⟨compare_lt_iff_lt.1 (first other listed want List.mem_cons_self), other.2.2,
        (required_iff agree.named).2 ⟨other.2.1, ?_⟩, there⟩
      rw [split]
      exact List.mem_append_left _ listed
  · rw [whole, rest.belOf?_eq once]
  · rw [whole]
    refine (turn.trans rest).belOf?_eq fun waits => ?_
    obtain ⟨late, listed, rfl⟩ := List.mem_map.1 waits
    rcases List.mem_cons.1 listed with rfl | listed
    · exact lt_irrefl _ before
    · exact lt_asymm before (compare_lt_iff_lt.1 (after late listed))

theorem met_of_not_unmet (agree : plan.layout.BelsAgree) (required : plan.Required name bel)
    (met : ¬ plan.settled.Unmet name) : plan.settled.layout.belOf? name = some bel := by
  by_contra elsewhere
  exact met ⟨bel, (tried_settled agree).moves.required_iff.2 required, elsewhere⟩

/-- Who held a bel that is free at a later turn has gone where it is required. -/
theorem AtTurn.gone (turn : plan.AtTurn want now) (agree : plan.layout.BelsAgree)
    (free : now.layout.isFree bel = true) (held : plan.layout.cellOn[bel]? = some holder) :
    holder < want.1 ∧ (∃ place, plan.Required holder place) ∧ ¬ plan.settled.Unmet holder := by
  have left : now.layout.belOf? holder ≠ plan.layout.belOf? holder := by
    rw [(agree.placed_iff bel holder).1 held]
    intro stays
    rw [Layout.isFree_iff, (turn.agree.placed_iff bel holder).2 stays] at free
    cases free
  obtain ⟨earlier, place, required, there⟩ := (turn.place holder).resolve_left left
  refine ⟨earlier, ⟨place, required⟩, fun ⟨other, required', misses⟩ => misses ?_⟩
  rw [((tried_settled agree).moves.required_iff.1 required').unique required,
    turn.before holder earlier, there]

/-- A bel is free at a turn when its holder has gone by then: nobody else is required on it. -/
theorem AtTurn.isFree (turn : plan.AtTurn want now) (agree : plan.layout.BelsAgree)
    (compatible : plan.Compatible) (required : plan.Required want.1 bel)
    (gone : ∀ holder, plan.layout.cellOn[bel]? = some holder →
      holder < want.1 ∧ (∃ place, plan.Required holder place) ∧ ¬ plan.settled.Unmet holder) :
    now.layout.isFree bel = true := by
  -- Nobody can have come: whoever is required on the bel is the cell whose turn it is.
  have alone : ∀ {other}, other < want.1 → ¬ plan.Required other bel := fun earlier required' =>
    ne_of_lt earlier (compatible.apart _ _ _ required' required)
  rw [Layout.isFree_iff, Option.eq_none_iff_forall_ne_some]
  intro other held
  have here := (turn.agree.placed_iff bel other).1 held
  rcases turn.place other with same | ⟨earlier, place, required', there⟩
  · rw [same] at here
    obtain ⟨earlier, ⟨place, required'⟩, met⟩ := gone other ((agree.placed_iff bel other).2 here)
    have there := met_of_not_unmet agree required' met
    rw [turn.before other earlier, same, here] at there
    cases there
    exact alone earlier required'
  · cases here.symm.trans there
    exact alone earlier required'

/-- **A cell gets where it is required exactly when the bel is empty, or held by the cell itself, or
by one that has its turn before and gets where that one is required.** -/
theorem belOf?_settled_iff (agree : plan.layout.BelsAgree) (compatible : plan.Compatible)
    (required : plan.Required name bel) :
    plan.settled.layout.belOf? name = some bel ↔
      ∀ holder, plan.layout.cellOn[bel]? = some holder → holder = name ∨
        holder < name ∧ (∃ place, plan.Required holder place) ∧ ¬ plan.settled.Unmet holder := by
  obtain ⟨cell, found, asked⟩ := id required
  obtain ⟨now, turn⟩ := exists_atTurn agree
    ((mem_requirements_iff agree.named).2 ⟨cell, found, rfl, asked⟩)
  have known : ∃ cell, now.layout.cell? name = some cell := by
    have found : plan.layout.cell? name = some cell := found
    rw [turn.moves.cells, found]
    exact ⟨_, rfl⟩
  rw [turn.settled, placed_putRequired_iff turn.agree known, turn.moves.fits,
    and_iff_right (compatible.suits name cell bel found asked), turn.own]
  constructor
  · rintro (already | free) holder held
    · rw [(agree.placed_iff bel name).2 already] at held
      exact .inl (Option.some.inj held).symm
    · exact .inr (turn.gone agree free held)
  · intro clears
    refine or_iff_not_imp_left.2 fun elsewhere =>
      turn.isFree agree compatible required fun holder held => (clears holder held).resolve_left ?_
    rintro rfl
    exact elsewhere ((agree.placed_iff bel holder).1 held)

/-- Where all bels are cleared in time, everybody gets where it is required: the first one by name
that did not would have been kept out by somebody before it. -/
theorem met_of_clearsInTime (agree : plan.layout.BelsAgree) (compatible : plan.Compatible)
    (clears : ∀ name bel, plan.Required name bel → plan.ClearsInTime name bel) (name : Name) :
    ¬ plan.settled.Unmet name := by
  intro unmet
  have finite : {name | plan.settled.Unmet name}.Finite := by
    refine (List.finite_toSet (plan.requirements.map Prod.fst)).subset fun other unmet => ?_
    obtain ⟨want, member, own, _⟩ := (unmet_settled_iff agree).1 unmet
    exact List.mem_map.2 ⟨want, member, own⟩
  obtain ⟨first, ⟨bel, required, elsewhere⟩, least⟩ :=
    Set.exists_min_image _ id finite ⟨name, unmet⟩
  have required := (tried_settled agree).moves.required_iff.1 required
  refine elsewhere ((belOf?_settled_iff agree compatible required).2 fun holder held => ?_)
  rcases clears first bel required holder held with own | ⟨earlier, wanted⟩
  · exact .inl own
  · exact .inr ⟨earlier, wanted, fun unmet => not_lt_of_ge (least holder unmet) earlier⟩

end Precedence

/-- **Compatible requirements are all met when every bel is cleared in time, and only then.**  A
cell gets where it is required exactly when the bel is empty, or held by the cell itself, or by a
cell that comes before it by name and gets where that one is required.  So nothing is reported
exactly when nobody is on a bel whose turn is yet to come, or who is required nowhere; and then
every cell is where it is required. -/
theorem placeRequired_meets_iff {device : Device} {netlist : Netlist} {plan : Plan}
    (reachable : Reachable device netlist plan) (compatible : plan.Compatible) :
    let (failed, after, _) := plan.placeRequired
    (failed = 0 ↔ ∀ name bel, plan.Required name bel → plan.ClearsInTime name bel) ∧
      (failed = 0 → ∀ name bel, plan.Required name bel →
        after.layout.belOf? name = some bel) ∧
      ∀ name bel, plan.Required name bel → (after.layout.belOf? name = some bel ↔
        ∀ holder, plan.layout.cellOn[bel]? = some holder → holder = name ∨
          holder < name ∧ (∃ place, plan.Required holder place) ∧ ¬ after.Unmet holder) := by
  obtain ⟨agree, _⟩ := reachable.invariant
  rw [placeRequired_eq agree]
  have none_iff : (plan.requirements.filter plan.settled.misses).length = 0 ↔
      ∀ name, ¬ plan.settled.Unmet name := by
    rw [List.length_eq_zero_iff, List.filter_eq_nil_iff]
    simp only [unmet_settled_iff agree]
    constructor
    · rintro quiet name ⟨want, member, _, misses⟩
      exact quiet want member misses
    · intro met want member misses
      exact met want.1 ⟨want, member, rfl, misses⟩
  have exact_iff := fun name bel (required : plan.Required name bel) =>
    belOf?_settled_iff agree compatible required
  refine ⟨?_, fun quiet name bel required => ?_, exact_iff⟩
  · rw [none_iff]
    refine ⟨fun met name bel required holder held => ?_, met_of_clearsInTime agree compatible⟩
    have there := met_of_not_unmet agree required (met name)
    rcases (exact_iff name bel required).1 there holder held with own | ⟨earlier, wanted, _⟩
    · exact .inl own
    · exact .inr ⟨earlier, wanted⟩
  · exact met_of_not_unmet agree required (none_iff.1 quiet name)

end UltraFabric.Plan

/-! ### A sample: two lookup tables, one of them where the other is required -/

namespace UltraFabric.RequiredSample

open FamilySample (device)

/-- The first makes room for the second. -/
def chain : List Cell :=
  [{ Cell.bare "a" "XLUT" with
      bel := some ⟨0, 1⟩
      required := some ⟨0, 0⟩ },
    { Cell.bare "b" "XLUT" with required := some ⟨0, 1⟩ }]

/-- The second makes room for the first, when that has had its turn. -/
def late : List Cell :=
  [{ Cell.bare "a" "XLUT" with required := some ⟨0, 1⟩ },
    { Cell.bare "b" "XLUT" with
      bel := some ⟨0, 1⟩
      required := some ⟨0, 0⟩ }]

def netlist (cells : List Cell) : Netlist :=
  cells.foldl Netlist.setCell .empty

theorem named (cells : List Cell) : (netlist cells).Named := by
  refine List.foldlRecOn (motive := Netlist.Named) _ _ Netlist.named_empty ?_
  exact fun netlist named cell _ => named.setCell cell

def layout (cells : List Cell) : Layout :=
  match Layout.ofNetlist device (netlist cells) with
  | .ok layout => layout
  | .error _ => ⟨device, netlist cells, ∅, ∅, ∅⟩

def plan (cells : List Cell) : Plan :=
  (Plan.mk .fresh Sample.fabric (layout cells)).setUp.1

theorem started {cells : List Cell}
    (placed : Layout.ofNetlist device (netlist cells) = .ok (layout cells)) :
    Plan.Started device (netlist cells) (plan cells) :=
  .of_built (named cells) placed FamilySample.built .fresh Sample.fabric

theorem started_chain : Plan.Started device (netlist chain) (plan chain) :=
  started (by rfl)

theorem started_late : Plan.Started device (netlist late) (plan late) :=
  started (by rfl)

theorem requirements_chain :
    (plan chain).requirements = [("a", "XLUT", ⟨0, 0⟩), ("b", "XLUT", ⟨0, 1⟩)] := by
  with_unfolding_all rfl

theorem requirements_late :
    (plan late).requirements = [("a", "XLUT", ⟨0, 1⟩), ("b", "XLUT", ⟨0, 0⟩)] := by
  with_unfolding_all rfl

theorem compatible_chain : (plan chain).Compatible :=
  Plan.compatible_of_requirements started_chain.consistent.agree.named requirements_chain
    (by decide) (by decide +kernel)

theorem compatible_late : (plan late).Compatible :=
  Plan.compatible_of_requirements started_late.consistent.agree.named requirements_late
    (by decide) (by decide +kernel)

theorem failed_chain : (plan chain).placeRequired.1 = 0 := by
  with_unfolding_all rfl

theorem failed_late : (plan late).placeRequired.1 = 1 := by
  with_unfolding_all rfl

/-- One cell of the late pair is not where it is required, and the count says so; it is nowhere, as
before. -/
theorem late_reported :
    Plan.Reachable device (netlist late) (plan late) ∧
      (plan late).fabric.occupancy = (plan late).recount ∧
      {name | (plan late).placeRequired.2.1.Unmet name}.ncard = 1 ∧
      (plan late).placeRequired.2.1.fabric.occupancy = (plan late).placeRequired.2.1.recount := by
  have counted := started_late.consistent.counted.eq_recount
  obtain ⟨failed, _, _, _, counted'⟩ := Plan.placeRequired_exact (.started started_late) counted
  exact ⟨.started started_late, counted, failed.symm.trans failed_late, counted'⟩

/-- The chain is cleared in time, and both cells get where they are required. -/
theorem chain_met :
    Plan.Reachable device (netlist chain) (plan chain) ∧ (plan chain).Compatible ∧
      (∀ name bel, (plan chain).Required name bel → (plan chain).ClearsInTime name bel) ∧
      ∀ name bel, (plan chain).Required name bel →
        (plan chain).placeRequired.2.1.layout.belOf? name = some bel := by
  obtain ⟨quiet, met, _⟩ := Plan.placeRequired_meets_iff (.started started_chain) compatible_chain
  exact ⟨.started started_chain, compatible_chain, quiet.1 failed_chain, met failed_chain⟩

/-- The late pair is compatible, and the bels are empty or held by cells that are required
elsewhere.  Yet one of them is refused, for nothing but its name. -/
theorem late_unmet :
    Plan.Reachable device (netlist late) (plan late) ∧ (plan late).Compatible ∧
      (∀ name bel, (plan late).Required name bel → ∀ holder,
        (plan late).layout.cellOn[bel]? = some holder →
          ∃ place, (plan late).Required holder place) ∧
      (plan late).placeRequired.1 ≠ 0 ∧ (plan late).Required "a" ⟨0, 1⟩ ∧
      (plan late).placeRequired.2.1.layout.belOf? "a" = none ∧
      (plan late).placeRequired.2.1.layout.belOf? "b" = some ⟨0, 0⟩ := by
  have listed : ∀ {name bel}, (plan late).Required name bel ↔
      ∃ type, (name, type, bel) ∈ (plan late).requirements :=
    Plan.required_iff started_late.consistent.agree.named
  have second : (plan late).Required "b" ⟨0, 0⟩ := by
    rw [listed, requirements_late]
    exact ⟨"XLUT", by simp⟩
  have here : (plan late).layout.cellOn[(⟨0, 1⟩ : BelId)]? = some "b" := by
    with_unfolding_all rfl
  have empty : (plan late).layout.cellOn[(⟨0, 0⟩ : BelId)]? = none := by
    with_unfolding_all rfl
  refine ⟨.started started_late, compatible_late, fun name bel required holder held => ?_, ?_, ?_,
    ?_, ?_⟩
  · obtain ⟨_, member⟩ := listed.1 required
    rw [requirements_late] at member
    simp only [List.mem_cons, Prod.mk.injEq, List.not_mem_nil, or_false] at member
    rcases member with ⟨_, _, rfl⟩ | ⟨_, _, rfl⟩
    · rw [here] at held
      cases held
      exact ⟨⟨0, 0⟩, second⟩
    · rw [empty] at held
      cases held
  · rw [failed_late]
    decide
  · rw [listed, requirements_late]
    exact ⟨"XLUT", by simp⟩
  · with_unfolding_all rfl
  · with_unfolding_all rfl

end UltraFabric.RequiredSample
