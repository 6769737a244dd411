/-
# UltraFabric.Proofs.Crossings — generators and loops that clock paths lead through

A clock path may lead through a free generator or loop.  Such a bel has to be configured so that it
passes the clock on, so it is reserved, under a name that is made from the net and a suffix, and the
image enters an instance for it under that name.

A net that crosses two generators gives both the same name, and so do two nets whose names differ in a
dollar sign.  Then the image configures only one of the bels.

* `NamesCrossed`: a reserved bel is crossed by a pip of the net from which its name is made.  What the
  two functions that take wires keep, the whole pass keeps (`LowSkewPass.keeps_reserveLowSkew`).
* `configured_of_passes_iff`: all reserved bels are configured exactly when no two of one kind that lie
  in different places have names of one plain form.
* `second_crossed_lost`: one net through two generators.
-/
import UltraFabric.Proofs.Entered
import UltraFabric.Proofs.Trees

namespace UltraFabric

set_option autoImplicit false

/-- The kinds of bels that a clock path may lead through. -/
inductive Bypass where
  | generator
  | loop

namespace Bypass

def type : Bypass → Name
  | .generator => "WFG"
  | .loop => "PLL"

/-- What the name of a net is followed by in the name of a bel. -/
def suffix : Bypass → String
  | .generator => "$wfg_bypass"
  | .loop => "$pll_bypass"

def config : Bypass → Std.ExtTreeMap String Document
  | .generator => Image.unusedGenerator
  | .loop => Image.unusedLoop

end Bypass

namespace Plan

/-- The reserved bels of a kind, with their names. -/
def crossed (plan : Plan) : Bypass → Std.ExtTreeMap BelId Name
  | .generator => plan.fabric.reserved.generators
  | .loop => plan.fabric.reserved.loops

/-- The instance that lets a bel pass a clock on. -/
def bypassOf (plan : Plan) (kind : Bypass) (bel : BelId) : Instance :=
  ⟨plan.imageLocation bel none, kind.type, kind.config⟩

/-- A net has a pip that leads through a bel of some kind. -/
def Crosses (plan : Plan) (kind : Bypass) (net : Name) (bel : BelId) : Prop :=
  (plan.device.bel? bel).map BelInfo.type = some kind.type ∧
    ∃ arc, plan.device.arc? arc.pip = some arc ∧ arc.crossedBel? = some bel ∧
      plan.layout.pipNet? arc.pip = some net

/-- Every reserved bel is crossed by a net, and goes by the name of that net and a suffix. -/
def NamesCrossed (plan : Plan) : Prop :=
  ∀ kind bel name, (plan.crossed kind)[bel]? = some name →
    ∃ net, name = net ++ kind.suffix ∧ plan.Crosses kind net bel

/-! ### What one taking reserves -/

theorem crossed_nameCrossed (plan : Plan) (net : Name) (arc : Arc) (kind : Bypass) :
    (plan.nameCrossed net arc).crossed kind = plan.crossed kind ∨
      ∃ bel, arc.crossedBel? = some bel ∧
        (plan.device.bel? bel).map BelInfo.type = some kind.type ∧
        (plan.nameCrossed net arc).crossed kind =
          (plan.crossed kind).insert bel (net ++ kind.suffix) := by
  unfold nameCrossed
  split
  · exact Or.inl rfl
  · rename_i bel crosses
    simp only
    split
    · rename_i type
      split
      · exact Or.inl rfl
      · cases kind with
        | generator => exact Or.inr ⟨bel, crosses, type, rfl⟩
        | loop => exact Or.inl rfl
    · rename_i type
      split
      · exact Or.inl rfl
      · cases kind with
        | generator => exact Or.inl rfl
        | loop => exact Or.inr ⟨bel, crosses, type, rfl⟩
    · exact Or.inl rfl

/-- All pips of a trail are pips of the device. -/
theorem Trail.mem_arcs {device : Device} {tree : List WireId} {wire : WireId} {path : List Arc}
    (leads : Trail device tree wire path) {arc : Arc} (member : arc ∈ path) : arc ∈ device.arcs := by
  induction leads with
  | start _ => cases member
  | step there _ ih =>
      rcases List.mem_cons.1 member with rfl | member
      · exact there
      · exact ih member

theorem device_reserveArc? {before after : Plan} {net : Name} {arc : Arc}
    (reserved : before.reserveArc? net arc = some after) : after.device = before.device :=
  (Layout.sameDesign_bindArc? (notes_reserveArc? reserved).1).device

/-- A pip is taken first, and then the bel that it crosses gets a name. -/
theorem reserveArc?_cases {before after : Plan} {net : Name} {arc : Arc}
    (reserved : before.reserveArc? net arc = some after) :
    ∃ between : Plan, between.device = before.device ∧
      (∀ kind, between.crossed kind = before.crossed kind) ∧ after = between.nameCrossed net arc := by
  obtain ⟨layout, bound, rfl⟩ := Option.map_eq_some_iff.1 reserved
  refine ⟨_, ?_, fun kind => ?_, rfl⟩
  · exact (Layout.sameDesign_bindArc? bound).device
  · cases kind with
    | generator => rfl
    | loop => rfl

theorem crossed_reserveArc? {before after : Plan} {net : Name} {arc : Arc}
    (reserved : before.reserveArc? net arc = some after) (kind : Bypass) :
    after.crossed kind = before.crossed kind ∨
      ∃ bel, arc.crossedBel? = some bel ∧
        (before.device.bel? bel).map BelInfo.type = some kind.type ∧
        after.crossed kind = (before.crossed kind).insert bel (net ++ kind.suffix) := by
  obtain ⟨between, device, crossed, rfl⟩ := reserveArc?_cases reserved
  rw [← device, ← crossed]
  exact between.crossed_nameCrossed net arc kind

/-- Pips that are in use stay in use. -/
theorem Crosses.reserveArc? {before after : Plan} {net other : Name} {arc : Arc} {kind : Bypass}
    {bel : BelId} (crosses : before.Crosses kind other bel)
    (reserved : before.reserveArc? net arc = some after) : after.Crosses kind other bel := by
  obtain ⟨type, own, there, through, used⟩ := crosses
  obtain ⟨unused, _, found, _, layout⟩ :=
    Layout.bindArc?_eq_some_iff.1 (notes_reserveArc? reserved).1
  refine ⟨device_reserveArc? reserved ▸ type, own, device_reserveArc? reserved ▸ there, through, ?_⟩
  rw [Layout.pipNet?, layout, Layout.netOnPip_take, if_neg]
  · exact used
  · intro same
    rw [Layout.pipNet?, ← Option.some.inj same, unused] at used
    cases used

/-- **Taking a pip names the bel that it crosses.** -/
theorem NamesCrossed.reserveArc? {before after : Plan} {net : Name} {arc : Arc}
    (named : before.NamesCrossed) (there : arc ∈ before.device.arcs)
    (reserved : before.reserveArc? net arc = some after) : after.NamesCrossed := by
  intro kind bel name found
  have old : (before.crossed kind)[bel]? = some name →
      ∃ net, name = net ++ kind.suffix ∧ after.Crosses kind net bel := by
    intro known
    obtain ⟨own, same, crosses⟩ := named kind bel name known
    exact ⟨own, same, crosses.reserveArc? reserved⟩
  -- The new name may stand for the same bel as the old one; then it is the new pip that crosses it.
  rcases crossed_reserveArc? reserved kind with same | ⟨place, crosses, type, same⟩
  · exact old (same ▸ found)
  · rw [same, Std.ExtTreeMap.getElem?_insert] at found
    split at found
    · rename_i here
      rw [Std.LawfulEqCmp.compare_eq_iff_eq] at here
      cases here
      cases found
      refine ⟨net, rfl, device_reserveArc? reserved ▸ type, arc, ?_, crosses, ?_⟩
      · rw [device_reserveArc? reserved]
        exact Device.mem_arcs_iff.1 there
      · obtain ⟨_, _, _, _, layout⟩ := Layout.bindArc?_eq_some_iff.1 (notes_reserveArc? reserved).1
        rw [Layout.pipNet?, layout, Layout.netOnPip_take, if_pos rfl]
    · exact old found

/-! ### What does not touch crossings -/

/-- Pips belong to the same nets, and the same bels are reserved. -/
structure SameCrossings (before after : Plan) : Prop where
  device : after.device = before.device
  pips : after.layout.netOnPip = before.layout.netOnPip
  crossed : ∀ kind, after.crossed kind = before.crossed kind

theorem SameCrossings.crosses_iff {before after : Plan} (same : before.SameCrossings after)
    {kind : Bypass} {net : Name} {bel : BelId} :
    after.Crosses kind net bel ↔ before.Crosses kind net bel := by
  simp only [Crosses, Layout.pipNet?, same.device, same.pips]

theorem NamesCrossed.of_same {before after : Plan} (named : before.NamesCrossed)
    (same : before.SameCrossings after) : after.NamesCrossed := by
  intro kind bel name found
  rw [same.crossed] at found
  simp only [same.crosses_iff]
  exact named kind bel name found

/-- The wire of a driver is taken without a pip. -/
theorem sameCrossings_reserveSource? {before after : Plan} {net : Name} {wire : WireId}
    (reserved : before.reserveSource? net wire = some after) : before.SameCrossings after := by
  obtain ⟨layout, bound, rfl⟩ := Option.map_eq_some_iff.1 reserved
  refine ⟨(Layout.sameDesign_bindWire? bound).device, ?_, fun kind => by cases kind <;> rfl⟩
  rcases Layout.bindWire?_cases bound with ⟨_, rfl⟩ | ⟨_, _, _, rfl⟩
  · rfl
  · rfl

theorem sameCrossings_unblock (plan : Plan) : plan.SameCrossings plan.unblock :=
  ⟨rfl, rfl, fun kind => by cases kind <;> rfl⟩

/-! ### What the search admits -/

section Search

variable {plan : Plan} {net : Name} {target : WireId}

/-- Everything that has been reached is reached over pips that the net may use. -/
def AdmittedPaths (plan : Plan) (net : Name) (target : WireId) (reached : List Reached) : Prop :=
  ∀ one ∈ reached, ∀ arc ∈ one.path, plan.admits net target arc = true

theorem admitted_explore {path : List Arc} (admitted : ∀ arc ∈ path, plan.admits net target arc = true)
    (arcs : List Arc) :
    ∀ round : Round, plan.AdmittedPaths net target round.found →
      plan.AdmittedPaths net target (plan.explore net target path arcs round).found := by
  induction arcs with
  | nil => exact fun _ found => found
  | cons arc rest ih =>
      intro round found
      rw [explore_cons]
      refine ih _ ?_
      split
      · rename_i new
        rw [Bool.and_eq_true] at new
        intro one member
        rcases List.mem_append.1 member with old | new'
        · exact found one old
        · cases List.mem_singleton.1 new'
          exact List.forall_mem_cons.2 ⟨new.1, admitted⟩
      · exact found

theorem admitted_exploreAll (reached : List Reached) :
    ∀ round : Round, plan.AdmittedPaths net target reached → plan.AdmittedPaths net target round.found →
      plan.AdmittedPaths net target (plan.exploreAll net target reached round).found := by
  induction reached with
  | nil => exact fun _ _ found => found
  | cons first rest ih =>
      intro round admitted found
      obtain ⟨own, others⟩ := List.forall_mem_cons.1 admitted
      exact ih _ others (admitted_explore own _ round found)

theorem admitted_searchFrom (reached : List Reached) (seen : Std.ExtTreeSet WireId)
    {path : List Arc} (admitted : plan.AdmittedPaths net target reached)
    (found : plan.searchFrom net target reached seen = some path) :
    ∀ arc ∈ path, plan.admits net target arc = true := by
  induction reached, seen using searchFrom.induct plan net target with
  | case1 reached seen goal reaches =>
      rw [searchFrom, reaches] at found
      cases found
      intro arc member
      exact admitted goal (List.mem_of_find?_eq_some reaches) arc (List.mem_reverse.1 member)
  | case2 reached seen nowhere stuck =>
      rw [searchFrom, nowhere] at found
      simp only [stuck, dif_pos] at found
      cases found
  | case3 reached seen nowhere stuck ih =>
      rw [searchFrom, nowhere] at found
      simp only [stuck, dif_neg, not_false_eq_true] at found
      exact ih (admitted_exploreAll reached ⟨[], seen⟩ admitted fun _ impossible => by
        cases impossible) found

/-- **A path that is found leads over pips that the net may use.** -/
theorem admitted_searchPath? {path : List Arc} (found : plan.searchPath? net target = some path) :
    ∀ arc ∈ path, plan.admits net target arc = true := by
  refine admitted_searchFrom _ _ (fun one member => ?_) found
  obtain ⟨wire, _, rfl⟩ := List.mem_map.1 member
  exact fun _ impossible => by cases impossible

theorem crossingFree_of_admits {arc : Arc} (admitted : plan.admits net target arc = true) :
    plan.crossingFree arc = true := by
  rw [admits, admitsAs, Bool.and_eq_true] at admitted
  exact admitted.2

/-- No cell moves when a pip is taken. -/
theorem crossingFree_reserveArc? {after : Plan} {arc : Arc}
    (reserved : plan.reserveArc? net arc = some after) (other : Arc) :
    after.crossingFree other = plan.crossingFree other := by
  have same := (Layout.sameDesign_bindArc? (notes_reserveArc? reserved).1).cellOn
  simp only [crossingFree, Layout.isFree, same]

end Search

end Plan

/-! ### What the pass keeps -/

namespace LowSkewPass

section Kept

variable {Kept : Plan → Prop}
  (sources : ∀ {before after : Plan} {net : Name} {driver : PortRef} {wire : WireId},
    before.portWire? driver = some wire → before.reserveSource? net wire = some after →
      Kept before → Kept after)
  (arcs : ∀ {before after : Plan} {net : Name} {arc : Arc}, arc ∈ before.device.arcs →
    before.crossingFree arc = true → before.reserveArc? net arc = some after →
      Kept before → Kept after)

include arcs in
theorem keeps_reservePath (net : Name) (path : List Arc) :
    ∀ {plan : Plan}, (∀ arc ∈ path, arc ∈ plan.device.arcs ∧ plan.crossingFree arc = true) →
      Kept plan → Kept (plan.reservePath net path).2 := by
  induction path with
  | nil => exact fun _ kept => kept
  | cons arc rest ih =>
      intro plan free kept
      obtain ⟨first, others⟩ := List.forall_mem_cons.1 free
      simp only [Plan.reservePath_cons]
      split
      · exact kept
      · rename_i after reserved
        refine ih (fun other member => ?_) (arcs first.1 first.2 reserved kept)
        rw [Plan.device_reserveArc? reserved, Plan.crossingFree_reserveArc? reserved]
        exact others other member

include arcs in
theorem keeps_serveSinks (net : Name) (sinks : List PortRef) :
    ∀ (routed : Bool) (pass : LowSkewPass), Kept pass.plan →
      Kept (serveSinks net sinks routed pass).1.plan := by
  induction sinks with
  | nil => exact fun _ _ kept => kept
  | cons sink rest ih =>
      intro routed pass kept
      simp only [serveSinks_cons]
      split
      · exact ih routed ((pass.note _).skip 1) kept
      · split
        · exact ih routed pass kept
        · split
          · exact kept
          · rename_i path found
            have free : ∀ arc ∈ path, arc ∈ pass.plan.device.arcs ∧
                pass.plan.crossingFree arc = true := fun arc member =>
              ⟨(Plan.trail_searchPath? found).mem_arcs (List.mem_reverse.2 member),
                Plan.crossingFree_of_admits (Plan.admitted_searchPath? found arc member)⟩
            have taken := keeps_reservePath arcs net path free kept
            split
            · rename_i plan answer
              rw [answer] at taken
              exact taken
            · rename_i plan answer
              rw [answer] at taken
              exact ih true { pass with plan, report := _ } taken

include sources arcs in
theorem keeps_serveNet (pass : LowSkewPass) (net : Name) (kept : Kept pass.plan) :
    Kept (pass.serveNet net).1.plan := by
  rw [serveNet_eq]
  split
  · exact kept
  · exact kept
  · rename_i driver sinks _
    split
    · exact kept
    · rename_i source drives
      split
      · exact kept
      · rename_i plan reserved
        have served := keeps_serveSinks arcs net sinks false { pass with plan }
          (sources drives reserved kept)
        split
        all_goals
          rename_i answer
          rw [answer] at served
          exact served

include sources arcs in
theorem keeps_serveNets (names : List Name) :
    ∀ pass : LowSkewPass, Kept pass.plan → Kept (serveNets names pass).1.plan := by
  induction names with
  | nil => exact fun _ kept => kept
  | cons net rest ih =>
      intro pass kept
      have first := keeps_serveNet sources arcs pass net kept
      simp only [serveNets_cons]
      split
      · rename_i served answer
        rw [answer] at first
        exact first
      · rename_i served answer
        rw [answer] at first
        exact ih served first

include sources arcs in
/-- **What is kept by taking the wire of a driver, and by taking a pip that leads through no occupied
bel, is kept by the pass.** -/
theorem keeps_reserveLowSkew {plan : Plan} (kept : Kept plan) :
    Kept plan.reserveLowSkew.1.plan := by
  have served := keeps_serveNets sources arcs (plan.layout.netlist.netList.map Net.name)
    ⟨plan, ⟨[], 0, 0⟩, []⟩ kept
  rw [Plan.reserveLowSkew_eq]
  split
  · rename_i pass answer
    rw [answer] at served
    exact served
  · rename_i pass answer
    rw [answer] at served
    exact served

end Kept

end LowSkewPass

namespace Plan

theorem namesCrossed_of_unreserved {plan : Plan} (unreserved : plan.fabric.reserved = .none) :
    plan.NamesCrossed := by
  intro kind bel name found
  cases kind with
  | generator => simp [crossed, unreserved, Reservations.none] at found
  | loop => simp [crossed, unreserved, Reservations.none] at found

theorem NamesCrossed.pass {plan : Plan} (named : plan.NamesCrossed) (pass : Pass) :
    (plan.pass pass).NamesCrossed := by
  cases pass with
  | reserve =>
      exact LowSkewPass.keeps_reserveLowSkew
        (fun _ reserved kept => kept.of_same (sameCrossings_reserveSource? reserved))
        (fun there _ reserved kept => kept.reserveArc? there reserved) named
  | release => exact namesCrossed_of_unreserved rfl
  | unblock => exact named.of_same plan.sameCrossings_unblock

/-- **Whatever is done about clock nets, reserved bels are crossed by the nets in their names.** -/
theorem NamesCrossed.passes (passes : List Pass) :
    ∀ {plan : Plan}, plan.NamesCrossed → (plan.passes passes).NamesCrossed := by
  induction passes with
  | nil => exact fun named => named
  | cons pass rest ih => exact fun named => ih (named.pass pass)

/-! ### What is configured -/

/-- Every reserved bel of a kind is configured to pass its clock on, under its own name. -/
def Configured (plan : Plan) (kind : Bypass) (image : Image) : Prop :=
  ∀ bel name, (plan.crossed kind)[bel]? = some name →
    image.instances[Image.plainName name]? = some (plan.bypassOf kind bel)

/-- Reserved bels of a kind in different places are named after nets with different plain names. -/
def CrossingsApart (plan : Plan) (kind : Bypass) : Prop :=
  ∀ bel other net net', (plan.crossed kind)[bel]? = some (net ++ kind.suffix) →
    (plan.crossed kind)[other]? = some (net' ++ kind.suffix) →
    Image.plainName net = Image.plainName net' →
    plan.imageLocation bel none = plan.imageLocation other none

/-- The instances of the reserved bels of a kind. -/
def crossedEntries (plan : Plan) (kind : Bypass) : List (String × Instance) :=
  (plan.crossed kind).toList.map fun (bel, name) => (name, plan.bypassOf kind bel)

theorem entries_eq_crossed (plan : Plan) : plan.entries =
    (plan.placedEntries ++ plan.layout.netlist.netList.flatMap plan.switchEntries) ++
      (plan.crossedEntries .generator ++ plan.crossedEntries .loop) := by
  rw [entries, laterEntries, List.append_assoc]
  rfl

theorem forall_mem_crossedEntries_iff {plan : Plan} {kind : Bypass} {P : String × Instance → Prop} :
    (∀ entry ∈ (plan.crossedEntries kind).map Image.plainEntry, P entry) ↔
      ∀ bel name, (plan.crossed kind)[bel]? = some name →
        P (Image.plainName name, plan.bypassOf kind bel) := by
  simp only [crossedEntries, List.map_map, List.forall_mem_map, Prod.forall,
    Std.ExtTreeMap.mem_toList_iff_getElem?_eq_some]
  rfl

/-- Generators and loops never share a name. -/
theorem plainName_suffix_ne (net other : String) :
    Image.plainName (net ++ Bypass.generator.suffix) ≠ Image.plainName (other ++ Bypass.loop.suffix) := by
  intro same
  rw [Image.plainName_append, Image.plainName_append, ← String.toList_inj, String.toList_append,
    String.toList_append] at same
  have ends := List.append_inj_right' same (by decide)
  exact absurd ends (by decide)

theorem bypassOf_eq_iff {plan : Plan} {kind : Bypass} {bel other : BelId} :
    plan.bypassOf kind bel = plan.bypassOf kind other ↔
      plan.imageLocation bel none = plan.imageLocation other none := by
  simp [bypassOf]

/-- Reserved bels of a kind have one instance for each plain name when they are apart. -/
theorem NamesCrossed.oneEach_iff {plan : Plan} (named : plan.NamesCrossed) (kind : Bypass) :
    Entries.OneEach ((plan.crossedEntries kind).map Image.plainEntry) ↔ plan.CrossingsApart kind := by
  simp only [Entries.OneEach, forall_mem_crossedEntries_iff, bypassOf_eq_iff]
  constructor
  · intro one bel other net net' found found' same
    refine one bel _ found other _ found' ?_
    rw [Image.plainName_append, Image.plainName_append, same]
  · intro apart bel name found other name' found' same
    obtain ⟨net, rfl, _⟩ := named kind bel name found
    obtain ⟨net', rfl, _⟩ := named kind other name' found'
    rw [Image.plainName_append, Image.plainName_append, String.append_left_inj] at same
    exact apart bel other net net' found found' same

theorem NamesCrossed.plainName_of_mem {plan : Plan} (named : plan.NamesCrossed) {kind : Bypass}
    {entry : String × Instance} (member : entry ∈ (plan.crossedEntries kind).map Image.plainEntry) :
    ∃ net, entry.1 = Image.plainName (net ++ kind.suffix) := by
  revert entry
  rw [forall_mem_crossedEntries_iff]
  intro bel name found
  obtain ⟨net, rfl, _⟩ := named kind bel name found
  exact ⟨net, rfl⟩

/-- **Reserved bels are configured exactly when they are apart**, as nothing is entered after them. -/
theorem NamesCrossed.configured_iff {plan : Plan} (named : plan.NamesCrossed) {image : Image}
    (shown : plan.ShownBy image) (kind : Bypass) :
    plan.Configured kind image ↔ plan.CrossingsApart kind := by
  have kept : plan.Configured kind image ↔
      ∀ entry ∈ (plan.crossedEntries kind).map Image.plainEntry,
        Entries.lastUnder? entry.1 (plan.entries.map Image.plainEntry) = some entry.2 := by
    simp only [Configured, forall_mem_crossedEntries_iff, shown.instance?]
  rw [kept, ← named.oneEach_iff, entries_eq_crossed, List.map_append]
  cases kind with
  | generator =>
      -- The loops are entered later, but never under the name of a generator.
      have later := Entries.all_last_append_iff
        ((plan.crossedEntries .generator).map Image.plainEntry)
        ((plan.crossedEntries .loop).map Image.plainEntry)
      rw [← List.map_append] at later
      refine Iff.trans ?_ (later.trans (and_iff_left ?_))
      · refine forall₂_congr fun entry member => ?_
        rw [Entries.lastUnder?_append_of_mem _
          (List.map_append ▸ List.mem_append_left _ member)]
      · rw [forall_mem_crossedEntries_iff]
        intro bel name found last entered
        obtain ⟨net, rfl, _⟩ := named .generator bel name found
        obtain ⟨net', same⟩ := named.plainName_of_mem (Entries.mem_of_lastUnder? entered)
        exact absurd same (plainName_suffix_ne net net')
  | loop =>
      rw [← Entries.all_last_iff]
      refine forall₂_congr fun entry member => ?_
      have inside : entry ∈
          (plan.crossedEntries .generator ++ plan.crossedEntries .loop).map Image.plainEntry := by
        rw [List.map_append]
        exact List.mem_append_right _ member
      rw [Entries.lastUnder?_append_of_mem _ inside, List.map_append,
        Entries.lastUnder?_append_of_mem _ member]

/-- **When every bel that a clock path leads through is configured.**  Nothing is reserved at first;
then clock paths are reserved and given back in any order, and each pass ends in any way.  In the end
every reserved bel is crossed by a pip of the net whose name it got.  If an image can be made, all
reserved bels of a kind are configured in it exactly when those in different places are named after
nets with different plain names. -/
theorem configured_of_passes_iff {plan : Plan} (unreserved : plan.fabric.reserved = .none)
    (passes : List Pass) {notices : List Notice} {image : Image}
    (made : (plan.passes passes).image = (notices, .ok (.ok image))) (kind : Bypass) :
    (∀ bel name, ((plan.passes passes).crossed kind)[bel]? = some name →
      ∃ net, name = net ++ kind.suffix ∧ (plan.passes passes).Crosses kind net bel) ∧
    ((plan.passes passes).Configured kind image ↔ (plan.passes passes).CrossingsApart kind) := by
  have named := (namesCrossed_of_unreserved unreserved).passes passes
  exact ⟨named kind, named.configured_iff (shownBy_of_image made) kind⟩

end Plan

/-! ### A sample: a clock that leads through two generators -/

namespace CrossingSample

/-- The output of the pad leads through the first generator to the ring, and from there through the
second to the loop. -/
def tileType : TileType :=
  ⟨"T", #[⟨"A", "IOP", 0, 0, [⟨"O", 0, .output⟩], none, none⟩, ⟨"W0", "WFG", 1, 0, [], none, none⟩,
      ⟨"W1", "WFG", 2, 0, [], none, none⟩, ⟨"P", "PLL", 3, 0, [⟨"REF", 2, .input⟩], none, none⟩],
    #[⟨"A.O", "", 0⟩, ⟨"ring", "", 1⟩, ⟨"P.REF", "", 0⟩],
    #[⟨0, 1, 0, some ⟨"W0.BYPASS", 0, .bypass, some 1⟩⟩,
      ⟨1, 2, 0, some ⟨"W1.BYPASS", 0, .bypass, some 2⟩⟩], #[]⟩

def chip : Chip :=
  ⟨"crossing", 1, 1, #[tileType], #[⟨0, some ⟨"IOB0", some 0⟩⟩], [], []⟩

def device : Device :=
  ⟨chip, by decide +kernel, Indexes.ofChip chip, rfl⟩

def netlist : Netlist :=
  ((Netlist.empty.setCell { Cell.bare "pad" "IOP" with
      ports := (∅ : Std.ExtTreeMap Name Port).insert "O" ⟨.output, some "clk"⟩
      bel := some ⟨0, 0⟩ }).setCell { Cell.bare "loop" "PLL" with
      ports := (∅ : Std.ExtTreeMap Name Port).insert "REF" ⟨.input, some "clk"⟩
      bel := some ⟨0, 3⟩ }).setNet ⟨"clk", some ⟨"pad", "O"⟩, [⟨"loop", "REF"⟩], ∅⟩

def layout : Layout :=
  (Layout.ofNetlist device netlist).toOption.getD ⟨device, netlist, ∅, ∅, ∅⟩

def fabric : Fabric :=
  { Fabric.ofOptions ⟨.firstFit, 8, 120, 18, 22, 40, 10, true⟩
      ⟨(∅ : Std.ExtTreeMap PrimitivePort SinkTier).insert ⟨"PLL", "REF"⟩ .ring, ∅⟩ with
    tables := { Tables.empty with tiles := TileNames.ofChip chip } }

def plan : Plan :=
  ⟨.fresh, fabric, layout⟩

/-- The plan after one pass. -/
def reserved : Plan :=
  plan.passes [.reserve]

theorem crossed_first : (reserved.crossed .generator)[(⟨0, 1⟩ : BelId)]? = some "clk$wfg_bypass" := by
  decide +kernel

theorem crossed_second :
    (reserved.crossed .generator)[(⟨0, 2⟩ : BelId)]? = some "clk$wfg_bypass" := by
  decide +kernel

theorem unswitched :
    ∀ net ∈ reserved.layout.netlist.netList, reserved.switchesOf net = [] := by
  have none : ∀ net ∈ reserved.layout.netlist.netList, ∀ pip ∈ net.wires.values.filterMap id,
      (reserved.device.pip? pip).all fun info => ! Plan.isSwitch info := by
    decide +kernel
  intro net member
  refine Plan.switchesOf_eq_nil fun pip inside info found => ?_
  have shown := none net member pip inside
  rw [found] at shown
  simpa using shown

theorem made : ∃ notices image, reserved.image = (notices, .ok (.ok image)) :=
  Plan.image_of_unswitched (by decide +kernel) (by decide +kernel) unswitched

/-- The sample after one pass. -/
theorem configured_of_reserved :
    ∃ notices image, plan.fabric.reserved = .none ∧ reserved.image = (notices, .ok (.ok image)) ∧
      (∀ bel name, (reserved.crossed .generator)[bel]? = some name →
        ∃ net, name = net ++ Bypass.generator.suffix ∧ reserved.Crosses .generator net bel) ∧
      (reserved.Configured .generator image ↔ reserved.CrossingsApart .generator) := by
  obtain ⟨notices, image, made⟩ := made
  exact ⟨notices, image, rfl, made, Plan.configured_of_passes_iff rfl [.reserve] made .generator⟩

/-- Both generators are reserved for the clock, and the image configures the second one only. -/
theorem second_crossed_lost :
    ∃ notices image, plan.fabric.reserved = .none ∧ reserved.image = (notices, .ok (.ok image)) ∧
      reserved.fabric.reserved.generators.toList =
        [(⟨0, 1⟩, "clk$wfg_bypass"), (⟨0, 2⟩, "clk$wfg_bypass")] ∧
      (image.instances.toList.map fun (name, entry) => (name, entry.type, entry.location)) =
        [("clk_wfg_bypass", "WFG", "IOB0:T:W1"), ("loop", "PLL", "IOB0:T:P"),
          ("pad", "IOP", "IOB0:T:A")] ∧
      reserved.imageLocation ⟨0, 1⟩ none = "IOB0:T:W0" ∧ ¬ reserved.Configured .generator image := by
  obtain ⟨notices, image, made⟩ := made
  have shown := Plan.shownBy_of_image made
  have entries : reserved.entries = reserved.placedEntries ++
      (reserved.crossedEntries .generator ++ reserved.crossedEntries .loop) := by
    have nothing : reserved.layout.netlist.netList.flatMap reserved.switchEntries = [] :=
      List.flatMap_eq_nil_iff.2 fun net member => by rw [Plan.switchEntries, unswitched net member]; rfl
    rw [Plan.entries_eq_crossed, nothing, List.append_nil]
  refine ⟨notices, image, rfl, made, by decide +kernel, ?_, by decide +kernel, fun all => ?_⟩
  · rw [shown.instances, entries]
    decide +kernel
  · have one := all ⟨0, 1⟩ _ crossed_first
    rw [all ⟨0, 2⟩ _ crossed_second] at one
    have same := congrArg Instance.location (Option.some.inj one)
    exact absurd same (by decide +kernel)

end CrossingSample

end UltraFabric
