/-
# UltraFabric.Proofs.Connections — the nets are what the ports say

`Netlist.ofCells` meets the ports one by one and gives up at the first second driver.  What comes
out depends on nothing of that.  It fails when two cells share a name or two outputs a net, and in
no other case; and otherwise every net is read off the ports (`Netlist.Joins`): who drives it, who
uses it, and in which order.

* `mem_endpoints_iff`, `pairwise_endpoints`: all connected ports are met, each once, in the order of
  the lexicon;
* `exists_attachAll_iff`: which ports can be joined to some nets one by one;
* `grown_attachAll`: what the nets are then, from what they were;
* `collectCells_perm`: the cells are stored the same in whatever order they come.
-/
import Mathlib.Data.Prod.Lex
import UltraFabric.Proofs.Assignment
import UltraFabric.Proofs.Bindings
import UltraFabric.Proofs.Interning

namespace UltraFabric

set_option autoImplicit false

/-! ### The order of ports -/

namespace Lexicon

/-- One name comes before another: it was mentioned earlier. -/
def Precedes (lexicon : Lexicon) (a b : Name) : Prop :=
  lexicon.compareNames a b = .lt

/-- All names of some cells and of their ports have numbers. -/
def Numbers (lexicon : Lexicon) (cells : List Cell) : Prop :=
  ∀ cell ∈ cells, (∃ number, lexicon.number? cell.name = some number) ∧
    ∀ port ∈ cell.ports, ∃ number, lexicon.number? port = some number

variable {lexicon : Lexicon} {a b : Name}

theorem not_precedes_self (lexicon : Lexicon) (a : Name) : ¬ lexicon.Precedes a a := by
  intro before
  have same : lexicon.compareNames a a = .eq := Std.ReflCmp.compare_self
  rw [Precedes, same] at before
  cases before

theorem precedes_of_isLE (le : (lexicon.compareNames a b).isLE = true) (apart : a ≠ b) :
    lexicon.Precedes a b := by
  rw [Precedes]
  cases answer : lexicon.compareNames a b with
  | lt => rfl
  | eq =>
      have swapped : lexicon.compareNames b a = (lexicon.compareNames a b).swap :=
        Std.OrientedCmp.eq_swap
      have back : (lexicon.compareNames b a).isLE = true := by
        rw [swapped, answer]
        rfl
      exact absurd (Std.Antisymm.antisymm (r := fun a b => (lexicon.compareNames a b).isLE = true)
        a b le back) apart
  | gt =>
      rw [answer] at le
      cases le

/-- Among names with numbers, the smaller number comes first. -/
theorem rank_lt_of_precedes {i j : Nat} (known : lexicon.number? a = some i)
    (known' : lexicon.number? b = some j) (before : lexicon.Precedes a b) :
    lexicon.rank a < lexicon.rank b := by
  rw [Precedes, compareNames, Ordering.then_eq_lt] at before
  rcases before with less | ⟨same, less⟩
  · exact Nat.compare_eq_lt.1 less
  · rw [rank, rank, known, known'] at same
    have numbers : i = j := Nat.compare_eq_eq.1 same
    subst numbers
    cases eq_of_number? known known'
    have equal : compare a a = .eq := Std.ReflCmp.compare_self
    rw [equal] at less
    cases less

/-- Mentioning all their names numbers some cells. -/
theorem numbers_mentionAll {cells : List Cell} {names : List Name}
    (mentioned : ∀ cell ∈ cells, cell.name ∈ names ∧ ∀ port ∈ cell.ports, port ∈ names) :
    (lexicon.mentionAll names).Numbers cells := by
  have known : ∀ name ∈ names, ∃ number, (lexicon.mentionAll names).number? name = some number := by
    intro name member
    refine ⟨_, number?_of_mem ?_⟩
    rw [names_mentionAll, List.mem_append, List.mem_eraseDups]
    exact or_iff_not_imp_left.2 fun new => by simpa [List.removeAll, member] using new
  exact fun cell member => ⟨known _ (mentioned cell member).1,
    fun port there => known port ((mentioned cell member).2 port there)⟩

/-- The keys of a map, each of them once. -/
theorem pairwise_sort_keys {ν : Type} (lexicon : Lexicon) (map : Std.ExtTreeMap Name ν) :
    (lexicon.sort map.keys).Pairwise lexicon.Precedes := by
  have once : (lexicon.sort map.keys).Nodup :=
    (List.mergeSort_perm _ _).nodup_iff.2 map.nodup_keys
  exact (lexicon.pairwise_sort map.keys).imp₂ (fun _ _ le apart => precedes_of_isLE le apart) once

end Lexicon

namespace PortRef

/-- Ports in the order of their cells, and those of one cell in their own order. -/
def Precedes (lexicon : Lexicon) (a b : PortRef) : Prop :=
  lexicon.Precedes a.cell b.cell ∨ a.cell = b.cell ∧ lexicon.Precedes a.port b.port

/-- The number of the cell and then that of the port. -/
def numbers (lexicon : Lexicon) (ref : PortRef) : Nat ×ₗ Nat :=
  toLex (lexicon.rank ref.cell, lexicon.rank ref.port)

theorem ne_of_precedes {lexicon : Lexicon} {a b : PortRef} (before : a.Precedes lexicon b) :
    a ≠ b := by
  rintro rfl
  rcases before with cells | ⟨_, ports⟩
  · exact lexicon.not_precedes_self _ cells
  · exact lexicon.not_precedes_self _ ports

end PortRef

namespace Netlist

/-! ### What the ports say -/

/-- A port of some cells that names a net in some direction. -/
def Names (cells : List Cell) (net : Name) (direction : PinDirection) (ref : PortRef) : Prop :=
  ∃ cell ∈ cells, cell.name = ref.cell ∧ cell.ports[ref.port]? = some ⟨direction, some net⟩

/-- An output that names the net. -/
def Drives (cells : List Cell) (net : Name) (ref : PortRef) : Prop :=
  Names cells net .output ref

/-- A port that names the net and is no output. -/
def Uses (cells : List Cell) (net : Name) (ref : PortRef) : Prop :=
  Names cells net .input ref ∨ Names cells net .inout ref

/-- Two outputs name one net. -/
def Contested (cells : List Cell) : Prop :=
  ∃ net first second, first ≠ second ∧ Drives cells net first ∧ Drives cells net second

/-- The netlist says what the ports of some cells say. -/
structure Joins (netlist : Netlist) (lexicon : Lexicon) (cells : List Cell) : Prop where
  stored : ∀ name cell, netlist.cell? name = some cell ↔ cell ∈ cells ∧ cell.name = name
  named : ∀ name, (∃ net, netlist.net? name = some net) ↔
    ∃ direction ref, Names cells name direction ref
  bare : ∀ name net, netlist.net? name = some net → net.name = name ∧ net.wires = ∅
  driver : ∀ name net, netlist.net? name = some net → ∀ ref,
    net.driver = some ref ↔ Drives cells name ref
  users : ∀ name net, netlist.net? name = some net → ∀ ref, ref ∈ net.users ↔ Uses cells name ref
  once : ∀ name net, netlist.net? name = some net → net.users.Nodup
  ordered : ∀ name net, netlist.net? name = some net →
    net.users.Pairwise (PortRef.Precedes lexicon)
  numbered : lexicon.Numbers cells → ∀ name net, netlist.net? name = some net →
    net.users.Pairwise fun a b => a.numbers lexicon < b.numbers lexicon

/-! ### The cells -/

theorem exists_collectCells_iff (cells : List Cell) :
    ∀ known : Std.ExtTreeMap Name Cell, (∃ all, collectCells known cells = .ok all) ↔
      (cells.map Cell.name).Nodup ∧ ∀ cell ∈ cells, cell.name ∉ known := by
  induction cells with
  | nil => simp [collectCells]
  | cons cell rest ih =>
      intro known
      simp only [collectCells, List.map_cons, List.nodup_cons, List.forall_mem_cons]
      by_cases there : cell.name ∈ known
      · simp [there]
      · simp only [there, if_false, ih, Std.ExtTreeMap.mem_insert,
          Std.LawfulEqCmp.compare_eq_iff_eq, not_or, not_false_eq_true, true_and, List.mem_map,
          not_exists, not_and]
        constructor
        · rintro ⟨once, fresh⟩
          exact ⟨⟨fun other member same => (fresh other member).1 same.symm, once⟩,
            fun other member => (fresh other member).2⟩
        · rintro ⟨⟨apart, once⟩, fresh⟩
          exact ⟨once, fun other member =>
            ⟨fun same => apart other member same.symm, fresh other member⟩⟩

theorem getElem?_collectCells (cells : List Cell) :
    ∀ {known all : Std.ExtTreeMap Name Cell}, collectCells known cells = .ok all →
      ∀ name cell, all[name]? = some cell ↔
        known[name]? = some cell ∨ cell ∈ cells ∧ cell.name = name := by
  induction cells with
  | nil =>
      intro known all collected name cell
      cases collected
      simp
  | cons first rest ih =>
      intro known all collected name cell
      simp only [collectCells] at collected
      split at collected
      · cases collected
      rename_i fresh
      rw [ih collected name cell, Std.ExtTreeMap.getElem?_insert, List.mem_cons]
      by_cases here : first.name = name
      · subst here
        have absent : known[first.name]? = none := Std.ExtTreeMap.getElem?_eq_none fresh
        simp only [Std.ReflCmp.compare_self, if_true, Option.some.injEq, absent, reduceCtorEq,
          false_or]
        constructor
        · rintro (rfl | ⟨member, own⟩)
          · exact ⟨.inl rfl, rfl⟩
          · exact ⟨.inr member, own⟩
        · rintro ⟨rfl | member, own⟩
          · exact .inl rfl
          · exact .inr ⟨member, own⟩
      · simp only [Std.LawfulEqCmp.compare_eq_iff_eq, here, if_false]
        constructor
        · rintro (found | ⟨member, own⟩)
          · exact .inl found
          · exact .inr ⟨.inr member, own⟩
        · rintro (found | ⟨rfl | member, own⟩)
          · exact .inl found
          · exact absurd own here
          · exact .inr ⟨member, own⟩

/-- The cells of a list are stored under their names. -/
theorem stored_iff {cells : List Cell} {all : Std.ExtTreeMap Name Cell}
    (collected : collectCells ∅ cells = .ok all) (name : Name) (cell : Cell) :
    all[name]? = some cell ↔ cell ∈ cells ∧ cell.name = name := by
  simp [getElem?_collectCells cells collected name cell]

/-- Cells of different names are stored the same in whatever order they come. -/
theorem collectCells_perm {cells others : List Cell} {all : Std.ExtTreeMap Name Cell}
    (perm : cells.Perm others) (collected : collectCells ∅ cells = .ok all) :
    collectCells ∅ others = .ok all := by
  have once := ((exists_collectCells_iff cells ∅).1 ⟨all, collected⟩).1
  obtain ⟨again, collected'⟩ := (exists_collectCells_iff others ∅).2
    ⟨(perm.map Cell.name).nodup_iff.1 once, by simp⟩
  suffices same : again = all by rw [collected', same]
  refine Std.ExtTreeMap.ext_getElem? fun name => Option.ext fun cell => ?_
  rw [stored_iff collected', stored_iff collected, perm.mem_iff]

/-! ### The ends in their order -/

variable {lexicon : Lexicon} {all : Std.ExtTreeMap Name Cell}

theorem mem_cellEndpoints_iff {cell : Cell} {endpoint : Endpoint} :
    endpoint ∈ cellEndpoints lexicon cell ↔ endpoint.ref.cell = cell.name ∧
      cell.ports[endpoint.ref.port]? = some ⟨endpoint.direction, some endpoint.net⟩ := by
  obtain ⟨net, direction, place, port⟩ := endpoint
  simp only [cellEndpoints, List.mem_filterMap, Lexicon.mem_sort_iff, Std.ExtTreeMap.mem_keys,
    Option.bind_eq_some_iff, Option.map_eq_some_iff, Endpoint.mk.injEq, PortRef.mk.injEq]
  constructor
  · rintro ⟨_, _, ⟨_, _⟩, found, _, joined, rfl, rfl, rfl, rfl⟩
    cases joined
    exact ⟨rfl, found⟩
  · rintro ⟨rfl, found⟩
    exact ⟨port, Std.ExtTreeMap.mem_iff_isSome_getElem?.2 (by rw [found]; rfl), ⟨direction, some net⟩,
      found, net, rfl, rfl, rfl, rfl, rfl⟩

/-- All connected ports of the cells are ends, and nothing else is. -/
theorem mem_endpoints_iff {cells : List Cell} (collected : collectCells ∅ cells = .ok all)
    {endpoint : Endpoint} :
    endpoint ∈ endpoints lexicon all ↔
      Names cells endpoint.net endpoint.direction endpoint.ref := by
  simp only [endpoints, List.mem_flatMap, Lexicon.mem_sort_iff, Std.ExtTreeMap.mem_keys]
  constructor
  · rintro ⟨name, _, member⟩
    cases found : all[name]? with
    | none => simp [found] at member
    | some cell =>
        simp only [found, mem_cellEndpoints_iff] at member
        exact ⟨cell, ((stored_iff collected name cell).1 found).1, member.1.symm, member.2⟩
  · rintro ⟨cell, member, own, port⟩
    have found := (stored_iff collected cell.name cell).2 ⟨member, rfl⟩
    refine ⟨cell.name, Std.ExtTreeMap.mem_iff_isSome_getElem?.2 (by rw [found]; rfl), ?_⟩
    rw [found]
    exact mem_cellEndpoints_iff.2 ⟨own.symm, port⟩

/-- The ends come in the order of their ports, so that none of them comes twice. -/
theorem pairwise_endpoints {cells : List Cell} (collected : collectCells ∅ cells = .ok all) :
    (endpoints lexicon all).Pairwise fun a b => a.ref.Precedes lexicon b.ref := by
  have own : ∀ {name cell endpoint}, all[name]? = some cell →
      endpoint ∈ cellEndpoints lexicon cell → endpoint.ref.cell = name := by
    intro name cell endpoint found member
    exact (mem_cellEndpoints_iff.1 member).1.trans ((stored_iff collected name cell).1 found).2
  rw [endpoints, List.pairwise_flatMap]
  refine ⟨fun name _ => ?_, (lexicon.pairwise_sort_keys all).imp fun before a mine b theirs => ?_⟩
  · cases all[name]? with
    | none => exact .nil
    | some cell =>
        simp only [cellEndpoints, List.pairwise_filterMap]
        refine (lexicon.pairwise_sort_keys cell.ports).imp fun before a mine b theirs => ?_
        simp only [Option.bind_eq_some_iff, Option.map_eq_some_iff] at mine theirs
        obtain ⟨_, _, _, _, rfl⟩ := mine
        obtain ⟨_, _, _, _, rfl⟩ := theirs
        exact .inr ⟨rfl, before⟩
  · split at mine
    · rename_i first
      split at theirs
      · rename_i second
        rw [← own first mine, ← own second theirs] at before
        exact .inl before
      · cases theirs
    · cases mine

/-! ### Joining ends to nets -/

/-- A net after some ends that name it have been joined to it. -/
structure Grown (name : Name) (ends : List Endpoint) (before after : Net) : Prop where
  driver : ∀ ref, after.driver = some ref ↔
    before.driver = some ref ∨ ∃ endpoint ∈ ends,
      endpoint.net = name ∧ endpoint.direction = .output ∧ endpoint.ref = ref
  users : after.users = before.users ++
    (ends.filter fun endpoint => endpoint.net = name ∧ endpoint.direction ≠ .output).map Endpoint.ref

theorem exists_attach_iff {net : Net} {endpoint : Endpoint} :
    (∃ after, attach net endpoint = .ok after) ↔
      (endpoint.direction = .output → net.driver = none) := by
  rw [attach]
  split <;> rename_i way
  · cases known : net.driver <;> simp [way]
  · simp [way]

theorem grown_attach {net after : Net} {endpoint : Endpoint}
    (attached : attach net endpoint = .ok after) : Grown endpoint.net [endpoint] net after := by
  rw [attach] at attached
  split at attached <;> rename_i way
  · split at attached <;> rename_i known
    · cases attached
    · cases attached
      exact ⟨fun ref => by simp [known, way], by simp [way]⟩
  · cases attached
    exact ⟨fun ref => by simp [way], by simp [way]⟩

theorem Grown.trans {name : Name} {ends more : List Endpoint} {before between after : Net}
    (first : Grown name ends before between) (second : Grown name more between after) :
    Grown name (ends ++ more) before after where
  driver ref := by
    rw [second.driver, first.driver, or_assoc]
    simp only [List.mem_append, or_and_right, exists_or]
  users := by
    rw [second.users, first.users, List.filter_append, List.map_append, List.append_assoc]

theorem grown_of_apart {name : Name} {endpoint : Endpoint} (apart : endpoint.net ≠ name)
    (net : Net) : Grown name [endpoint] net net :=
  ⟨fun ref => by simp [apart], by simp [apart]⟩

/-- **Ends can be joined one by one when no two of them drive one net and no net that they drive has
a driver already**, and in no other case. -/
theorem exists_attachAll_iff (ends : List Endpoint) :
    ∀ nets : Std.ExtTreeMap Name Net, (∃ joined, attachAll nets ends = .ok joined) ↔
      (∀ endpoint ∈ ends, endpoint.direction = .output →
        (nets.getD endpoint.net (Net.bare endpoint.net)).driver = none) ∧
      ends.Pairwise fun a b => a.direction = .output → b.direction = .output → a.net ≠ b.net := by
  induction ends with
  | nil => simp [attachAll]
  | cons endpoint rest ih =>
      intro nets
      rw [List.forall_mem_cons, List.pairwise_cons, ← exists_attach_iff]
      simp only [attachAll]
      cases attached : attach (nets.getD endpoint.net (Net.bare endpoint.net)) endpoint with
      | error error => simp
      | ok after =>
          simp only [ih, Except.ok.injEq, exists_eq', true_and]
          have grown := (grown_attach attached).driver
          -- The net has a driver now when this end is an output, and the other nets are as before.
          have later : (∀ other ∈ rest, other.direction = .output →
                ((nets.insert endpoint.net after).getD other.net (Net.bare other.net)).driver = none) ↔
              (∀ other ∈ rest, other.direction = .output →
                (nets.getD other.net (Net.bare other.net)).driver = none) ∧
              ∀ other ∈ rest, endpoint.direction = .output → other.direction = .output →
                endpoint.net ≠ other.net := by
            simp only [← forall_and]
            refine forall_congr' fun other => forall_congr' fun _ => ?_
            rw [Std.ExtTreeMap.getD_insert]
            by_cases here : endpoint.net = other.net
            · rw [if_pos (by rw [here]; exact Std.ReflCmp.compare_self), ← here]
              simp only [Option.eq_none_iff_forall_ne_some, ne_eq, grown]
              simp only [List.mem_singleton, exists_eq_left, true_and, not_or, not_and,
                not_true_eq_false, imp_false]
              grind
            · simp [here]
          rw [later, and_assoc]

/-- What the nets are when ends have been joined to them. -/
theorem grown_attachAll (ends : List Endpoint) :
    ∀ {nets joined : Std.ExtTreeMap Name Net}, attachAll nets ends = .ok joined → ∀ name,
      Grown name ends (nets.getD name (Net.bare name)) (joined.getD name (Net.bare name)) ∧
        (name ∈ joined ↔ name ∈ nets ∨ ∃ endpoint ∈ ends, endpoint.net = name) := by
  induction ends with
  | nil =>
      intro nets joined done name
      cases done
      exact ⟨⟨by simp, by simp⟩, by simp⟩
  | cons endpoint rest ih =>
      intro nets joined done name
      simp only [attachAll] at done
      split at done
      · cases done
      rename_i after attached
      obtain ⟨grown, there⟩ := ih done name
      have first : Grown name [endpoint] (nets.getD name (Net.bare name))
          ((nets.insert endpoint.net after).getD name (Net.bare name)) := by
        rw [Std.ExtTreeMap.getD_insert]
        by_cases here : endpoint.net = name
        · subst here
          rw [if_pos Std.ReflCmp.compare_self]
          exact grown_attach attached
        · rw [if_neg (by rwa [Std.LawfulEqCmp.compare_eq_iff_eq])]
          exact grown_of_apart here _
      refine ⟨first.trans grown, ?_⟩
      rw [there, Std.ExtTreeMap.mem_insert, Std.LawfulEqCmp.compare_eq_iff_eq]
      simp only [List.mem_cons, exists_eq_or_imp]
      tauto

/-! ### The netlist -/

/-- The ends of some cells can be joined unless two outputs name one net. -/
theorem exists_attachAll_endpoints_iff {cells : List Cell}
    (collected : collectCells ∅ cells = .ok all) :
    (∃ nets, attachAll ∅ (endpoints lexicon all) = .ok nets) ↔ ¬ Contested cells := by
  have fresh : ∀ endpoint ∈ endpoints lexicon all, endpoint.direction = .output →
      ((∅ : Std.ExtTreeMap Name Net).getD endpoint.net (Net.bare endpoint.net)).driver = none := by
    intro endpoint _ _
    rw [Std.ExtTreeMap.getD_empty]
    rfl
  rw [exists_attachAll_iff, and_iff_right fresh]
  constructor
  · rintro apart ⟨net, first, second, different, drives, drives'⟩
    have member : (⟨net, .output, first⟩ : Endpoint) ∈ endpoints lexicon all :=
      (mem_endpoints_iff collected).2 drives
    have member' : (⟨net, .output, second⟩ : Endpoint) ∈ endpoints lexicon all :=
      (mem_endpoints_iff collected).2 drives'
    have symmetric : Std.Symm fun a b : Endpoint =>
        a.direction = .output → b.direction = .output → a.net ≠ b.net :=
      ⟨fun _ _ apart way way' same => apart way' way same.symm⟩
    exact apart.forall member member' (fun same => different (congrArg Endpoint.ref same))
      rfl rfl rfl
  · intro uncontested
    refine (pairwise_endpoints collected).imp_of_mem
      fun {a b} member member' before way way' same => ?_
    have drives := (mem_endpoints_iff collected).1 member
    have drives' := (mem_endpoints_iff collected).1 member'
    rw [way] at drives
    rw [way', ← same] at drives'
    exact uncontested ⟨a.net, a.ref, b.ref, PortRef.ne_of_precedes before, drives, drives'⟩

/-- What making a netlist comes to once the cells are stored. -/
theorem ofCells_of_collected {cells : List Cell} (collected : collectCells ∅ cells = .ok all) :
    ofCells lexicon cells =
      (attachAll ∅ (endpoints lexicon all)).map fun nets => ⟨all, nets⟩ := by
  rw [ofCells, collected]
  simp only
  cases attachAll ∅ (endpoints lexicon all) <;> rfl

/-- Cells make a netlist when their names are different and no two outputs name one net. -/
theorem exists_ofCells_iff (lexicon : Lexicon) (cells : List Cell) :
    (∃ netlist, ofCells lexicon cells = .ok netlist) ↔
      (cells.map Cell.name).Nodup ∧ ¬ Contested cells := by
  constructor
  · rintro ⟨netlist, made⟩
    obtain ⟨collected, joined⟩ := ofCells_eq_ok_iff.1 made
    exact ⟨((exists_collectCells_iff cells ∅).1 ⟨_, collected⟩).1,
      (exists_attachAll_endpoints_iff collected).1 ⟨_, joined⟩⟩
  · rintro ⟨once, uncontested⟩
    obtain ⟨all, collected⟩ := (exists_collectCells_iff cells ∅).2 ⟨once, by simp⟩
    obtain ⟨nets, joined⟩ : ∃ nets, attachAll ∅ (endpoints lexicon all) = .ok nets :=
      (exists_attachAll_endpoints_iff collected).2 uncontested
    exact ⟨⟨all, nets⟩, ofCells_eq_ok_iff.2 ⟨collected, joined⟩⟩

/-- Where everything has a number, the order of ports is that of their numbers. -/
theorem numbers_lt_of_precedes {cells : List Cell} (numbered : lexicon.Numbers cells) {net : Name}
    {way way' : PinDirection} {a b : PortRef} (joined : Names cells net way a)
    (joined' : Names cells net way' b) (before : a.Precedes lexicon b) :
    a.numbers lexicon < b.numbers lexicon := by
  obtain ⟨cell, member, own, port⟩ := joined
  obtain ⟨cell', member', own', port'⟩ := joined'
  obtain ⟨⟨i, known⟩, ports⟩ := numbered cell member
  obtain ⟨⟨j, known'⟩, ports'⟩ := numbered cell' member'
  rw [PortRef.numbers, PortRef.numbers, Prod.Lex.toLex_lt_toLex]
  rcases before with earlier | ⟨same, earlier⟩
  · left
    rw [own] at known
    rw [own'] at known'
    exact Lexicon.rank_lt_of_precedes known known' earlier
  · right
    obtain ⟨_, first⟩ := ports a.port
      (Std.ExtTreeMap.mem_iff_isSome_getElem?.2 (by rw [port]; rfl))
    obtain ⟨_, second⟩ := ports' b.port
      (Std.ExtTreeMap.mem_iff_isSome_getElem?.2 (by rw [port']; rfl))
    exact ⟨congrArg lexicon.rank same, Lexicon.rank_lt_of_precedes first second earlier⟩

section Made

variable {cells : List Cell} {netlist : Netlist} {name : Name} {net : Net}

/-- Every net has grown from nothing by the ends that name it. -/
theorem grown_of_found (made : ofCells lexicon cells = .ok netlist)
    (found : netlist.net? name = some net) :
    Grown name (endpoints lexicon netlist.cells) (Net.bare name) net := by
  have grown := (grown_attachAll _ (ofCells_eq_ok_iff.1 made).2 name).1
  rw [net?] at found
  rwa [Std.ExtTreeMap.getD_empty, Std.ExtTreeMap.getD_eq_getD_getElem?, found] at grown

theorem exists_net?_iff (made : ofCells lexicon cells = .ok netlist) :
    (∃ net, netlist.net? name = some net) ↔ ∃ direction ref, Names cells name direction ref := by
  obtain ⟨collected, joined⟩ := ofCells_eq_ok_iff.1 made
  rw [← Option.isSome_iff_exists, net?, ← Std.ExtTreeMap.mem_iff_isSome_getElem?,
    (grown_attachAll _ joined name).2]
  constructor
  · rintro (empty | ⟨endpoint, member, rfl⟩)
    · exact absurd empty Std.ExtTreeMap.not_mem_empty
    · exact ⟨_, _, (mem_endpoints_iff collected).1 member⟩
  · rintro ⟨direction, ref, named⟩
    exact .inr ⟨⟨name, direction, ref⟩, (mem_endpoints_iff collected).2 named, rfl⟩

theorem driver_iff (made : ofCells lexicon cells = .ok netlist)
    (found : netlist.net? name = some net) (ref : PortRef) :
    net.driver = some ref ↔ Drives cells name ref := by
  have collected := (ofCells_eq_ok_iff.1 made).1
  rw [(grown_of_found made found).driver]
  constructor
  · rintro (before | ⟨⟨_, _, _⟩, member, rfl, rfl, rfl⟩)
    · cases before
    · exact (mem_endpoints_iff collected).1 member
  · intro drives
    exact .inr ⟨⟨name, .output, ref⟩, (mem_endpoints_iff collected).2 drives, rfl, rfl, rfl⟩

theorem mem_users_iff (made : ofCells lexicon cells = .ok netlist)
    (found : netlist.net? name = some net) (ref : PortRef) :
    ref ∈ net.users ↔ Uses cells name ref := by
  have collected := (ofCells_eq_ok_iff.1 made).1
  rw [(grown_of_found made found).users]
  simp only [Net.bare, List.nil_append, List.mem_map, List.mem_filter, decide_eq_true_eq,
    mem_endpoints_iff collected]
  constructor
  · rintro ⟨⟨_, way, _⟩, ⟨named, rfl, other⟩, rfl⟩
    cases way with
    | input => exact .inl named
    | inout => exact .inr named
    | output => exact absurd rfl other
  · rintro (named | named)
    · exact ⟨⟨name, .input, ref⟩, ⟨named, rfl, by simp⟩, rfl⟩
    · exact ⟨⟨name, .inout, ref⟩, ⟨named, rfl, by simp⟩, rfl⟩

/-- The users of a net stand in the order of their ports. -/
theorem pairwise_users (made : ofCells lexicon cells = .ok netlist)
    (found : netlist.net? name = some net) : net.users.Pairwise (PortRef.Precedes lexicon) := by
  rw [(grown_of_found made found).users]
  exact List.pairwise_map.2 ((pairwise_endpoints (ofCells_eq_ok_iff.1 made).1).filter _)

theorem joins_ofCells (made : ofCells lexicon cells = .ok netlist) :
    netlist.Joins lexicon cells where
  stored := stored_iff (ofCells_eq_ok_iff.1 made).1
  named _ := exists_net?_iff made
  bare := unrouted_ofCells made
  driver _ _ := driver_iff made
  users _ _ := mem_users_iff made
  once _ _ found := (pairwise_users made found).imp PortRef.ne_of_precedes
  ordered _ _ := pairwise_users made
  numbered numbered _ _ found := by
    refine (pairwise_users made found).imp_of_mem fun {a b} member member' before => ?_
    obtain named | named := (mem_users_iff made found a).1 member <;>
      obtain named' | named' := (mem_users_iff made found b).1 member' <;>
        exact numbers_lt_of_precedes numbered named named' before

end Made

/-- Cells of different names make the same of it in whatever order they come, and be it an error. -/
theorem ofCells_perm {cells others : List Cell} (perm : cells.Perm others)
    (once : (cells.map Cell.name).Nodup) : ofCells lexicon others = ofCells lexicon cells := by
  obtain ⟨all, collected⟩ := (exists_collectCells_iff cells ∅).2 ⟨once, by simp⟩
  rw [ofCells_of_collected collected, ofCells_of_collected (collectCells_perm perm collected)]

/-- **The nets are exactly what the ports say.**  A list of cells is refused when two cells share a
name or two outputs name one net, and only then.  In the netlist that comes out otherwise every cell
is stored under its name; there is a net of every name that a port names and no other; it is driven
by the output that names it, if there is one, and used by the other ports that name it, each of them
once and in the order of their numbers.  The order of the cells makes no difference to it. -/
theorem ofCells_exact (lexicon : Lexicon) (cells : List Cell) :
    ((∃ error, ofCells lexicon cells = .error error) ↔
      ¬ (cells.map Cell.name).Nodup ∨ Contested cells) ∧
    (∀ netlist, ofCells lexicon cells = .ok netlist → netlist.Joins lexicon cells) ∧
    ∀ others, cells.Perm others →
      (ofCells lexicon others).toOption = (ofCells lexicon cells).toOption ∧
      ((cells.map Cell.name).Nodup → ofCells lexicon others = ofCells lexicon cells) := by
  have refused : ∀ cells : List Cell, (∃ error, ofCells lexicon cells = .error error) ↔
      ¬ (cells.map Cell.name).Nodup ∨ Contested cells := by
    intro cells
    rw [← not_not (a := Contested cells), ← not_and_or, ← exists_ofCells_iff lexicon cells]
    cases ofCells lexicon cells <;> simp
  refine ⟨refused cells, fun netlist made => joins_ofCells made, fun others perm => ?_⟩
  refine ⟨?_, ofCells_perm perm⟩
  by_cases once : (cells.map Cell.name).Nodup
  · rw [ofCells_perm perm once]
  · obtain ⟨error, failed⟩ := (refused cells).2 (.inl once)
    obtain ⟨error', failed'⟩ := (refused others).2
      (.inl fun once' => once ((perm.map Cell.name).nodup_iff.2 once'))
    rw [failed, failed']
    rfl

end Netlist

/-! ### A sample: a clock that an element uses at one of its inputs -/

namespace JoinSample

def source : Cell :=
  { Cell.bare "gck0" "GCK" with
    ports := (∅ : Std.ExtTreeMap Name Port).insert "SO" ⟨.output, some "clk"⟩ }

def element : Cell :=
  { Cell.bare "ff0" "BEYOND_FE" with
    ports := ((∅ : Std.ExtTreeMap Name Port).insert "CK" ⟨.input, some "clk"⟩).insert "I1"
      ⟨.input, none⟩ }

/-- Another source, that drives the clock as well. -/
def rival : Cell :=
  { source with name := "gck1" }

def names : List Name :=
  ["gck0", "SO", "clk", "ff0", "CK", "I1"]

def lexicon : Lexicon :=
  Lexicon.fresh.mentionAll names

theorem numbered : lexicon.Numbers [source, element] := by
  refine Lexicon.numbers_mentionAll ?_
  simp only [List.forall_mem_cons, ← Std.ExtTreeMap.mem_keys]
  have ports : source.ports.keys = ["SO"] := by decide +kernel
  have ports' : element.ports.keys = ["CK", "I1"] := by decide +kernel
  rw [ports, ports']
  exact ⟨by decide, by decide, by simp⟩

/-- Only the source has an output. -/
theorem eq_of_drives {net : Name} {ref : PortRef}
    (drives : Netlist.Drives [source, element] net ref) : ref = ⟨"gck0", "SO"⟩ := by
  obtain ⟨place, port⟩ := ref
  obtain ⟨cell, member, own, named⟩ := drives
  simp only [List.mem_cons, List.not_mem_nil, or_false] at member
  rcases member with rfl | rfl
  · simp only [source, Std.ExtTreeMap.getElem?_insert, Std.LawfulEqCmp.compare_eq_iff_eq] at named
    split at named
    · rename_i port
      cases own
      cases port
      rfl
    · simp at named
  · simp only [element, Std.ExtTreeMap.getElem?_insert] at named
    split at named
    · cases named
    · split at named
      · cases named
      · simp at named

theorem uncontested : ¬ Netlist.Contested [source, element] := by
  rintro ⟨net, first, second, different, drives, drives'⟩
  exact different ((eq_of_drives drives).trans (eq_of_drives drives').symm)

/-- The sample is joined as its ports say, either way round, and with the rival it is refused. -/
theorem joins_sample :
    (∃ netlist, Netlist.ofCells lexicon [source, element] = .ok netlist ∧
      netlist.Joins lexicon [source, element] ∧ lexicon.Numbers [source, element] ∧
      Netlist.ofCells lexicon [element, source] = .ok netlist) ∧
    ∃ error, Netlist.ofCells lexicon [source, element, rival] = .error error := by
  have once : ([source, element].map Cell.name).Nodup := by decide
  have swapped : [source, element].Perm [element, source] := .swap _ _ _
  obtain ⟨-, joins, perm⟩ := Netlist.ofCells_exact lexicon [source, element]
  obtain ⟨netlist, made⟩ := (Netlist.exists_ofCells_iff lexicon _).2 ⟨once, uncontested⟩
  refine ⟨⟨netlist, made, joins netlist made, numbered, ?_⟩, ?_⟩
  · rw [(perm _ swapped).2 once, made]
  · refine (Netlist.ofCells_exact lexicon [source, element, rival]).1.2 (.inr ?_)
    refine ⟨"clk", ⟨"gck0", "SO"⟩, ⟨"gck1", "SO"⟩, by decide, ?_, ?_⟩
    · exact ⟨source, by simp, rfl, by decide +kernel⟩
    · exact ⟨rival, by simp, rfl, by decide +kernel⟩

end JoinSample

end UltraFabric
