/-
# UltraFabric.Proofs.Entries — the entries of a map, one change at a time

What is placed on a device is read off the entries of a map, in the order of their keys, and maps are
filled item by item:

* `mem_values_iff`: the values of a map are the values of its keys;
* `getElem?_foldl_of_untouched`, `getElem?_foldl_of_touched`: what a map that is filled item by item has
  under a key, when one item at most touches that key.
-/
import Std.Data.ExtTreeMap

namespace UltraFabric.Entries

set_option autoImplicit false

variable {κ ν : Type} [Ord κ] [Std.TransOrd κ]

/-- The values stand in the order of their keys. -/
theorem values_eq_map_toList (map : Std.ExtTreeMap κ ν) :
    map.values = map.toList.map Prod.snd := by
  obtain ⟨⟨tree⟩⟩ := map
  induction tree using Quotient.ind with
  | _ tree =>
      show tree.inner.values = (Std.DTreeMap.Internal.Impl.Const.toList tree.inner).map Prod.snd
      rw [Std.DTreeMap.Internal.Impl.values_eq_map_snd,
        Std.DTreeMap.Internal.Impl.Const.toList_eq_toListModel_map]
      simp

/-! ### Filling a map item by item -/

section Filling

variable {α : Type} {step : Std.ExtTreeMap κ ν → α → Std.ExtTreeMap κ ν} {key : κ}
  {Touches : α → Prop} {items : List α}

/-- Under a key that no item touches there is what was there before. -/
theorem getElem?_foldl_of_untouched
    (frame : ∀ map item, ¬ Touches item → (step map item)[key]? = map[key]?)
    (untouched : ∀ item ∈ items, ¬ Touches item) (map : Std.ExtTreeMap κ ν) :
    (items.foldl step map)[key]? = map[key]? := by
  induction items generalizing map with
  | nil => rfl
  | cons item rest ih =>
      obtain ⟨here, later⟩ := List.forall_mem_cons.1 untouched
      rw [List.foldl_cons, ih later, frame map item here]

/-- What the only item that touches a key enters is there in the end. -/
theorem getElem?_foldl_of_touched
    (frame : ∀ map item, ¬ Touches item → (step map item)[key]? = map[key]?)
    (apart : items.Pairwise fun item other => Touches item → ¬ Touches other) {item : α}
    (there : item ∈ items) (touches : Touches item) {value : ν}
    (enters : ∀ map, (step map item)[key]? = some value) (map : Std.ExtTreeMap κ ν) :
    (items.foldl step map)[key]? = some value := by
  induction items generalizing map with
  | nil => cases there
  | cons first rest ih =>
      obtain ⟨fromFirst, apart⟩ := List.pairwise_cons.1 apart
      rcases List.mem_cons.1 there with rfl | later
      · have untouched : ∀ other ∈ rest, ¬ Touches other := fun other member =>
          fromFirst other member touches
        rw [List.foldl_cons, getElem?_foldl_of_untouched frame untouched, enters]
      · exact ih apart later _

end Filling

section Lawful

variable [Std.LawfulEqOrd κ]

theorem mem_values_iff {map : Std.ExtTreeMap κ ν} {value : ν} :
    value ∈ map.values ↔ ∃ key : κ, map[key]? = some value := by
  rw [values_eq_map_toList, List.mem_map]
  constructor
  · rintro ⟨⟨key, _⟩, member, rfl⟩
    exact ⟨key, Std.ExtTreeMap.mem_toList_iff_getElem?_eq_some.1 member⟩
  · rintro ⟨key, found⟩
    exact ⟨(key, value), Std.ExtTreeMap.mem_toList_iff_getElem?_eq_some.2 found, rfl⟩

end Lawful

end UltraFabric.Entries
