/-
# UltraFabric.Proofs.Tiers — clock tables have exactly what is listed

A port may be listed any number of times under one tier, and under one tier only.  What a list of ports
leaves in a table is therefore a matter of membership, whatever the order of the list: a port has a tier
exactly when it had it before or is listed under it (`addTiers_cases`), and the list is refused when that
gives some port two tiers.

* `ofEntries_cases`: entries make tables that have exactly what they list, or a port that they list under
  two tiers is reported;
* `ofEntries_eq_ok_iff`, `exists_ofEntries_error_iff`: which of the two it is;
* `toOption_ofEntries_perm`: the order of the entries does not matter, except for which port is reported.
-/
import UltraFabric.Clock.Tier

namespace UltraFabric

set_option autoImplicit false

section Filling

variable {Tier : Type} {tiers : Std.ExtTreeMap PrimitivePort Tier} {tier tier' : Tier}
  {port other : PrimitivePort}

/-! ### Ports in a table -/

/-- A port is not in a table under another tier. -/
def FitsTier (tiers : Std.ExtTreeMap PrimitivePort Tier) (tier : Tier) (port : PrimitivePort) : Prop :=
  ∀ known, tiers[port]? = some known → known = tier

theorem getElem?_insert_port : (tiers.insert port tier)[other]? =
    if port = other then some tier else tiers[other]? := by
  rw [Std.ExtTreeMap.getElem?_insert]
  simp only [Std.LawfulEqCmp.compare_eq_iff_eq]

/-- A port is in a table under a tier, or listed under it. -/
def Assigned (tiers : Std.ExtTreeMap PrimitivePort Tier) (listed : List (Tier × PrimitivePort))
    (tier : Tier) (port : PrimitivePort) : Prop :=
  tiers[port]? = some tier ∨ (tier, port) ∈ listed

theorem assigned_insert_iff {rest : List (Tier × PrimitivePort)} (fits : FitsTier tiers tier port) :
    Assigned (tiers.insert port tier) rest tier' other ↔
      Assigned tiers ((tier, port) :: rest) tier' other := by
  unfold Assigned
  rw [getElem?_insert_port, List.mem_cons, Prod.mk.injEq]
  by_cases here : port = other
  · subst here
    rw [if_pos rfl, Option.some.injEq]
    constructor
    · rintro (rfl | later)
      · exact Or.inr (Or.inl ⟨rfl, rfl⟩)
      · exact Or.inr (Or.inr later)
    · rintro (known | ⟨rfl, _⟩ | later)
      · exact Or.inl (fits _ known).symm
      · exact Or.inl rfl
      · exact Or.inr later
  · simp [here, Ne.symm here]

theorem assigned_empty_iff {listed : List (Tier × PrimitivePort)} :
    Assigned (∅ : Std.ExtTreeMap PrimitivePort Tier) listed tier port ↔ (tier, port) ∈ listed := by
  simp [Assigned]

variable [DecidableEq Tier]

/-- All that adding a port does: it is refused, or it is in the table afterwards. -/
theorem addTier_cases (tiers : Std.ExtTreeMap PrimitivePort Tier) (tier : Tier) (port : PrimitivePort) :
    (FitsTier tiers tier port ∧ addTier tiers tier port = .ok (tiers.insert port tier)) ∨
      ∃ known, tiers[port]? = some known ∧ known ≠ tier ∧ addTier tiers tier port = .error ⟨port⟩ := by
  unfold addTier
  cases found : tiers[port]? with
  | none =>
      refine Or.inl ⟨fun known own => ?_, rfl⟩
      rw [found] at own
      cases own
  | some known =>
      by_cases same : known = tier
      · subst same
        have unchanged : tiers = tiers.insert port known := by
          apply Std.ExtTreeMap.ext_getElem?
          intro other
          rw [getElem?_insert_port]
          split
          · rename_i here
            rw [← here, found]
          · rfl
        refine Or.inl ⟨fun other own => ?_, ?_⟩
        · exact Option.some.inj (own.symm.trans found)
        · rw [← unchanged]
          exact if_pos rfl
      · exact Or.inr ⟨known, rfl, same, if_neg same⟩

/-- **What a list of ports leaves in a table.**  Either the table then has exactly the ports that it had or
that are listed, or some port is there under two tiers, and it is reported. -/
theorem addTiers_cases (listed : List (Tier × PrimitivePort)) :
    ∀ tiers : Std.ExtTreeMap PrimitivePort Tier,
      (∃ after, addTiers tiers listed = .ok after ∧
        ∀ tier (port : PrimitivePort), after[port]? = some tier ↔ Assigned tiers listed tier port) ∨
      ∃ conflict tier tier', addTiers tiers listed = .error conflict ∧ tier ≠ tier' ∧
        Assigned tiers listed tier conflict.port ∧ Assigned tiers listed tier' conflict.port := by
  induction listed with
  | nil =>
      intro tiers
      exact Or.inl ⟨tiers, rfl, fun tier port => by simp [Assigned]⟩
  | cons entry rest ih =>
      obtain ⟨tier, port⟩ := entry
      intro tiers
      rw [addTiers]
      rcases addTier_cases tiers tier port with ⟨fits, added⟩ | ⟨known, found, different, refused⟩
      · simp only [added, ← assigned_insert_iff fits]
        exact ih (tiers.insert port tier)
      · refine Or.inr ⟨⟨port⟩, known, tier, by rw [refused], different, Or.inl found, Or.inr ?_⟩
        exact List.mem_cons_self

end Filling

/-! ### Entries -/

namespace TierEntry

variable {Tier : Type} {entries entries' : List (TierEntry Tier)} {tier : Tier} {port : PrimitivePort}
  {tiers other : Std.ExtTreeMap PrimitivePort Tier}

/-- A port is listed under a tier. -/
def Lists (entries : List (TierEntry Tier)) (tier : Tier) (port : PrimitivePort) : Prop :=
  ∃ entry ∈ entries, entry.tier = tier ∧ entry.type = port.type ∧ port.port ∈ entry.ports

/-- A port is listed under two tiers. -/
def Contested (entries : List (TierEntry Tier)) (port : PrimitivePort) : Prop :=
  ∃ tier tier', tier ≠ tier' ∧ Lists entries tier port ∧ Lists entries tier' port

theorem mem_flatten_iff : (tier, port) ∈ flatten entries ↔ Lists entries tier port := by
  obtain ⟨type, name⟩ := port
  simp only [flatten, Lists, List.mem_flatMap, List.mem_map, Prod.mk.injEq, PrimitivePort.mk.injEq]
  constructor
  · rintro ⟨entry, there, own, listed, rfl, rfl, rfl⟩
    exact ⟨entry, there, rfl, rfl, listed⟩
  · rintro ⟨entry, there, rfl, rfl, listed⟩
    exact ⟨entry, there, name, listed, rfl, rfl, rfl⟩

theorem lists_perm (perm : entries.Perm entries') : Lists entries tier port ↔ Lists entries' tier port := by
  simp only [Lists, perm.mem_iff]

/-- A table has exactly the ports that some entries list. -/
def Fills (entries : List (TierEntry Tier)) (tiers : Std.ExtTreeMap PrimitivePort Tier) : Prop :=
  ∀ tier (port : PrimitivePort), tiers[port]? = some tier ↔ Lists entries tier port

theorem Fills.unique (fills : Fills entries tiers) (fills' : Fills entries other) : tiers = other :=
  Std.ExtTreeMap.ext_getElem? fun port => Option.ext fun tier =>
    (fills tier port).trans (fills' tier port).symm

theorem Fills.uncontested (fills : Fills entries tiers) (port : PrimitivePort) :
    ¬ Contested entries port := by
  rintro ⟨tier, tier', different, first, second⟩
  have found := (fills tier port).2 first
  have found' := (fills tier' port).2 second
  exact different (Option.some.inj (found.symm.trans found'))

/-- **A table of entries has exactly what they list**, or a port that they list under two tiers is
reported. -/
theorem addTiers_flatten_cases [DecidableEq Tier] (entries : List (TierEntry Tier)) :
    (∃ tiers, addTiers ∅ (flatten entries) = .ok tiers ∧ Fills entries tiers) ∨
    ∃ conflict, addTiers ∅ (flatten entries) = .error conflict ∧ Contested entries conflict.port := by
  rcases addTiers_cases (flatten entries) ∅ with
    ⟨tiers, filled, holds⟩ | ⟨conflict, tier, tier', refused, different, first, second⟩
  · simp only [assigned_empty_iff, mem_flatten_iff] at holds
    exact Or.inl ⟨tiers, filled, holds⟩
  · rw [assigned_empty_iff, mem_flatten_iff] at first second
    exact Or.inr ⟨conflict, refused, tier, tier', different, first, second⟩

end TierEntry

/-! ### Tables -/

namespace ClockTables

/-- The tables have exactly the ports that some entries list, under the tiers under which they do. -/
structure HoldsExactly (tables : ClockTables) (sinks : List (TierEntry SinkTier))
    (sources : List (TierEntry SourceTier)) : Prop where
  sink_iff : ∀ type port tier,
    tables.sinkTier? type port = some tier ↔ TierEntry.Lists sinks tier ⟨type, port⟩
  source_iff : ∀ type port tier,
    tables.sourceTier? type port = some tier ↔ TierEntry.Lists sources tier ⟨type, port⟩

variable {sinks sinks' : List (TierEntry SinkTier)} {sources sources' : List (TierEntry SourceTier)}
  {tables other : ClockTables}

theorem HoldsExactly.fills (holds : tables.HoldsExactly sinks sources) :
    TierEntry.Fills sinks tables.sinks ∧ TierEntry.Fills sources tables.sources :=
  ⟨fun tier port => holds.sink_iff port.type port.port tier,
    fun tier port => holds.source_iff port.type port.port tier⟩

theorem HoldsExactly.unique (holds : tables.HoldsExactly sinks sources)
    (holds' : other.HoldsExactly sinks sources) : tables = other := by
  obtain ⟨ownSinks, ownSources⟩ := tables
  obtain ⟨otherSinks, otherSources⟩ := other
  cases holds.fills.1.unique holds'.fills.1
  cases holds.fills.2.unique holds'.fills.2
  rfl

theorem HoldsExactly.uncontested (holds : tables.HoldsExactly sinks sources) (port : PrimitivePort) :
    ¬ (TierEntry.Contested sinks port ∨ TierEntry.Contested sources port) :=
  not_or_intro (holds.fills.1.uncontested port) (holds.fills.2.uncontested port)

theorem HoldsExactly.perm (holds : tables.HoldsExactly sinks sources) (sinks_perm : sinks.Perm sinks')
    (sources_perm : sources.Perm sources') : tables.HoldsExactly sinks' sources' := by
  refine ⟨fun type port tier => ?_, fun type port tier => ?_⟩
  · rw [holds.sink_iff, TierEntry.lists_perm sinks_perm]
  · rw [holds.source_iff, TierEntry.lists_perm sources_perm]

/-- **What becomes of entries**: tables with exactly the ports that are listed, or a port that is listed
under two tiers is reported. -/
theorem ofEntries_cases (sinks : List (TierEntry SinkTier)) (sources : List (TierEntry SourceTier)) :
    (∃ tables, ofEntries sinks sources = .ok tables ∧ tables.HoldsExactly sinks sources) ∨
      ∃ conflict, ofEntries sinks sources = .error conflict ∧
        (TierEntry.Contested sinks conflict.port ∨ TierEntry.Contested sources conflict.port) := by
  unfold ofEntries
  rcases TierEntry.addTiers_flatten_cases sinks with
    ⟨table, filled, listed⟩ | ⟨conflict, refused, contested⟩
  · rcases TierEntry.addTiers_flatten_cases sources with
      ⟨table', filled', listed'⟩ | ⟨conflict, refused, contested⟩
    · rw [filled, filled']
      exact Or.inl ⟨⟨table, table'⟩, rfl, fun _ _ tier => listed tier _, fun _ _ tier => listed' tier _⟩
    · rw [filled, refused]
      exact Or.inr ⟨conflict, rfl, Or.inr contested⟩
  · rw [refused]
    exact Or.inr ⟨conflict, rfl, Or.inl contested⟩

/-- Tables are made of entries exactly when they have what the entries list and nothing else. -/
theorem ofEntries_eq_ok_iff :
    ofEntries sinks sources = .ok tables ↔ tables.HoldsExactly sinks sources := by
  rcases ofEntries_cases sinks sources with ⟨own, made, holds⟩ | ⟨conflict, refused, contested⟩
  · rw [made, Except.ok.injEq]
    exact ⟨fun same => same ▸ holds, fun holds' => holds.unique holds'⟩
  · rw [refused]
    refine ⟨nofun, fun holds => ?_⟩
    exact absurd contested (holds.uncontested conflict.port)

/-- **Entries are refused exactly when they list some port under two tiers.** -/
theorem exists_ofEntries_error_iff : (∃ conflict, ofEntries sinks sources = .error conflict) ↔
    ∃ port, TierEntry.Contested sinks port ∨ TierEntry.Contested sources port := by
  rcases ofEntries_cases sinks sources with ⟨tables, made, holds⟩ | ⟨conflict, refused, contested⟩
  · constructor
    · rintro ⟨conflict, refused⟩
      rw [made] at refused
      cases refused
    · rintro ⟨port, contested⟩
      exact absurd contested (holds.uncontested port)
  · exact ⟨fun _ => ⟨conflict.port, contested⟩, fun _ => ⟨conflict, refused⟩⟩

example : (ofEntries [⟨.fabric, "BUF", ["CK", "CK"]⟩, ⟨.fabric, "BUF", ["CK"]⟩] []).isOk = true := by
  decide +kernel

/-- The order of the entries does not matter. -/
theorem toOption_ofEntries_perm (sinks_perm : sinks.Perm sinks') (sources_perm : sources.Perm sources') :
    (ofEntries sinks' sources').toOption = (ofEntries sinks sources).toOption := by
  have made_iff : ∀ tables,
      ofEntries sinks' sources' = .ok tables ↔ ofEntries sinks sources = .ok tables := by
    intro tables
    rw [ofEntries_eq_ok_iff, ofEntries_eq_ok_iff]
    exact ⟨fun holds => holds.perm sinks_perm.symm sources_perm.symm,
      fun holds => holds.perm sinks_perm sources_perm⟩
  cases made : ofEntries sinks sources with
  | ok tables => rw [(made_iff tables).2 made]
  | error conflict =>
      cases made' : ofEntries sinks' sources' with
      | ok tables =>
          rw [(made_iff tables).1 made'] at made
          cases made
      | error conflict' => rfl

end ClockTables

end UltraFabric
