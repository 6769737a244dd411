/-
# UltraFabric.Proofs.Members — what an accepted placement has been asked

The members of a cluster get their places in two ways, one after the other from their parents
(`placeWaiting`) or along dedicated links (`placeLinked`), and both give a bel only once.  Whatever way
was taken, the whole placement is asked about at the end: each member has to fit on its bel with all
others where the placement puts them.  `admitted_of_place?` says what an accepted placement is then
known to be.
-/
import UltraFabric.Cluster

namespace UltraFabric.Plan

set_option autoImplicit false

/-- Each member has a cell that fits on its bel with the others in their places, and no bel is given
twice. -/
structure Admitted (plan : Plan) (placement : Placement) : Prop where
  apart : (placement.map Prod.snd).Nodup
  fits : ∀ entry ∈ placement, ∃ cell, plan.cell? entry.1 = some cell ∧
    plan.memberFits cell entry.2 placement = .ok true

section Bels

variable {plan : Plan}

theorem nodup_append_of_unused {placement : Placement} {name : Name} {bel : BelId}
    (apart : (placement.map Prod.snd).Nodup)
    (unused : ¬ placement.any (fun entry => entry.2 = bel) = true) :
    ((placement ++ [(name, bel)]).map Prod.snd).Nodup := by
  rw [List.map_append, List.nodup_append]
  refine ⟨apart, by simp, fun own member other single => ?_⟩
  obtain ⟨entry, there, rfl⟩ := List.mem_map.1 member
  cases List.mem_singleton.1 single
  rintro rfl
  exact unused (List.any_eq_true.2 ⟨entry, there, by simp⟩)

/-- Members that wait are given bels that nobody has. -/
theorem nodup_placeWaiting {suits : Suits} (waiting : List Waiting) (placement : Placement)
    (apart : (placement.map Prod.snd).Nodup) {done : Bool} {after : Placement}
    (placed : plan.placeWaiting suits waiting placement = .ok (done, after)) :
    (after.map Prod.snd).Nodup := by
  fun_induction placeWaiting plan suits waiting placement with
  | case1 placement =>
      cases placed
      exact apart
  | case2 placement next rest unknown =>
      cases placed
      exact apart
  | case3 placement next rest cell found nowhere =>
      cases placed
      exact apart
  | case4 placement next rest cell found bel there taken =>
      cases placed
      exact apart
  | case5 placement next rest cell found bel there unused fault undecided => cases placed
  | case6 placement next rest cell found bel there unused unfit =>
      cases placed
      exact nodup_append_of_unused apart unused
  | case7 placement next rest cell found bel there unused fits ih =>
      exact ih (nodup_append_of_unused apart unused) placed

/-- Along the links no bel is given twice either. -/
theorem nodup_placeLinked (bel : BelId) (names : List Name) (placement : Placement)
    (apart : (placement.map Prod.snd).Nodup) {after : Placement}
    (placed : plan.placeLinked bel names placement = some after) :
    (after.map Prod.snd).Nodup := by
  fun_induction placeLinked plan bel names placement with
  | case1 bel placement =>
      cases placed
      exact apart
  | case2 bel child rest placement unlinked => cases placed
  | case3 bel child rest placement next linked taken => cases placed
  | case4 bel child rest placement next linked unused ih =>
      exact ih (nodup_append_of_unused apart unused) placed

theorem nodup_clusterMembers? {suits : Suits} {root : Cell} {bel : BelId} {location : Loc}
    {placement : Placement} (placed : plan.clusterMembers? suits root bel location = .ok (some placement)) :
    (placement.map Prod.snd).Nodup := by
  have single : (([(root.name, bel)] : Placement).map Prod.snd).Nodup := by simp
  unfold clusterMembers? at placed
  split at placed
  · simp only [Except.ok.injEq] at placed
    exact nodup_placeLinked bel root.children _ single placed
  · split at placed
    · cases placed
    · rename_i answer
      cases placed
      exact nodup_placeWaiting _ _ single answer
    · cases placed

end Bels

/-- Whoever passes the last check fits with the whole placement. -/
theorem fits_of_allFit {plan : Plan} {suits : Suits} {placement : Placement} (entries : Placement)
    (all : plan.allFit suits placement entries = .ok true) :
    ∀ entry ∈ entries, ∃ cell, plan.cell? entry.1 = some cell ∧
      suits cell entry.2 placement = .ok true := by
  fun_induction allFit plan suits placement entries with
  | case1 => simp
  | case2 name bel rest unknown => cases all
  | case3 name bel rest cell found fault undecided => cases all
  | case4 name bel rest cell found unfit => cases all
  | case5 name bel rest cell found fits ih =>
      intro entry member
      rcases List.mem_cons.1 member with rfl | later
      · exact ⟨cell, found, fits⟩
      · exact ih all entry later

/-- All that has been done for a placement that is accepted. -/
theorem place?_eq_some_iff {plan : Plan} {cluster : Name} {bel : BelId} {placement : Placement} :
    plan.place? cluster bel = .ok (some placement) ↔
      ∃ root own location, plan.cell? cluster = some root ∧
        plan.rootPlace? root bel = some (own, location) ∧
          plan.clusterMembers? plan.memberFits root own location = .ok (some placement) ∧
            plan.allFit plan.memberFits placement placement = .ok true := by
  simp only [place?, placeBy]
  constructor
  · intro placed
    split at placed
    · cases placed
    rename_i root found
    split at placed
    · cases placed
    · cases placed
    rename_i own location rooted
    split at placed
    · cases placed
    · cases placed
    rename_i members answer
    split at placed <;> cases placed
    rename_i all
    exact ⟨root, own, location, found, Except.ok.inj rooted, answer, all⟩
  · rintro ⟨root, own, location, found, rooted, answer, all⟩
    simp only [found, rooted, answer, all]

/-- **An accepted placement is admitted as a whole.** -/
theorem admitted_of_place? {plan : Plan} {cluster : Name} {bel : BelId} {placement : Placement}
    (placed : plan.place? cluster bel = .ok (some placement)) : plan.Admitted placement := by
  obtain ⟨root, own, location, _, _, members, all⟩ := place?_eq_some_iff.1 placed
  exact ⟨nodup_clusterMembers? members, fits_of_allFit placement all⟩

end UltraFabric.Plan
