/-
# UltraFabric.Proofs.Switches — which switches are lost in an image

A pip that leads into an interconnection is configured by a switch: an instance at a site of the tile of
the pip.  The site is part of the name of a wire, and the instance is called after the net and the end of
the site.  The tile is part of the location, and not of the name; so two switches of one net may have one
name although they are in different places, and then the image has only the later one.

`image_switches_iff` says when that happens.  Every switch in use is in the image under its own name exactly
when switches of one plain name are in one place, and no generator and no loop that is entered after them
has such a name.  `Plan.not_switchesApart_of_tiles` is the way it comes about between tiles, and
`SiteSample.one_switch_left` is a plan with one net in two tiles whose image has one switch.
-/
import UltraFabric.Proofs.Bindings
import UltraFabric.Proofs.Entered
import UltraFabric.Proofs.Run

namespace UltraFabric

set_option autoImplicit false

/-- The types of switches. -/
def switchTypes : List String :=
  ["ITC", "OTC", "ITS", "OTS"]

namespace Image

/-- Under a name an image has a switch at a location. -/
def SwitchUnder (image : Image) (name location : String) : Prop :=
  ∃ entry, image.instances[name]? = some entry ∧ entry.location = location ∧ entry.type ∈ switchTypes

/-- The site that the name of a wire begins with: all but the last two bytes. -/
def site? (wire : String) : Option (List Char) :=
  Text.takeBytes (Text.byteCount wire.toList - 2) wire.toList

/-- The end of a site, by which its switches are called. -/
def siteEnd (site : List Char) : String :=
  String.ofList ((Text.dropBytes 4 site).getD [])

theorem mem_map_plainEntry_iff {β : Type} {entries : List (String × β)} {key : String} {value : β} :
    (key, value) ∈ entries.map plainEntry ↔ ∃ name, (name, value) ∈ entries ∧ plainName name = key := by
  simp [plainEntry]

end Image

namespace Plan

variable {plan : Plan} {image : Image}

/-! ### Switches in use -/

/-- A pip that a net uses, and that is a switch. -/
structure UsesSwitch (plan : Plan) (net : Net) (pip : PipId) (info : PipInfo) : Prop where
  stored : net ∈ plan.layout.netlist.netList
  bound : ∃ wire : WireId, net.wires[wire]? = some (some pip)
  known : plan.device.pip? pip = some info
  switch : isSwitch info = true

/-- What is entered for a switch in use. -/
def EntersSwitch (plan : Plan) (net : Net) (pip : PipId) (name : String) (entry : Instance) : Prop :=
  ∃ info, plan.UsesSwitch net pip info ∧ plan.switchInstance net.name pip info = .ok (name, entry)

theorem mem_switchesOf_iff {net : Net} {pip : PipId} {info : PipInfo} :
    (pip, info) ∈ plan.switchesOf net ↔ (∃ wire : WireId, net.wires[wire]? = some (some pip)) ∧
      plan.device.pip? pip = some info ∧ isSwitch info = true := by
  have values : pip ∈ net.wires.values.filterMap id ↔
      ∃ wire : WireId, net.wires[wire]? = some (some pip) := by
    rw [List.mem_filterMap, ← Entries.mem_values_iff]
    simp
  rw [← values, switchesOf, List.mem_filterMap]
  simp only [List.mem_mergeSort]
  constructor
  · rintro ⟨other, member, found⟩
    split at found
    · rename_i known
      split at found
      · rename_i switch
        cases found
        exact ⟨member, known, switch⟩
      · cases found
    · cases found
  · rintro ⟨member, known, switch⟩
    exact ⟨pip, member, by rw [known]; exact if_pos switch⟩

theorem usesSwitch_iff {net : Net} {pip : PipId} {info : PipInfo} :
    plan.UsesSwitch net pip info ↔
      net ∈ plan.layout.netlist.netList ∧ (pip, info) ∈ plan.switchesOf net := by
  rw [mem_switchesOf_iff]
  constructor
  · rintro ⟨stored, bound, known, switch⟩
    exact ⟨stored, bound, known, switch⟩
  · rintro ⟨stored, bound, known, switch⟩
    exact ⟨stored, bound, known, switch⟩

theorem mem_switchEntries_iff {name : String} {entry : Instance} :
    (name, entry) ∈ plan.layout.netlist.netList.flatMap plan.switchEntries ↔
      ∃ net pip, plan.EntersSwitch net pip name entry := by
  have entered : ∀ net pip info,
      (name, entry) ∈ (plan.switchInstance net pip info).toOption.toList ↔
        plan.switchInstance net pip info = .ok (name, entry) := by
    intro net pip info
    cases plan.switchInstance net pip info with
    | error fault => simp [Except.toOption]
    | ok other => simp [Except.toOption, eq_comm]
  simp only [switchEntries, List.mem_flatMap, EntersSwitch, usesSwitch_iff, entered]
  constructor
  · rintro ⟨net, stored, ⟨pip, info⟩, used, made⟩
    exact ⟨net, pip, info, ⟨stored, used⟩, made⟩
  · rintro ⟨net, pip, info, ⟨stored, used⟩, made⟩
    exact ⟨net, stored, (pip, info), used, made⟩

/-- The instances of the switches among some pips, in this order. -/
def pipEntries (plan : Plan) (net : Name) (pips : List PipId) : List (String × Instance) :=
  pips.flatMap fun pip =>
    match plan.device.pip? pip with
    | some info => if isSwitch info then (plan.switchInstance net pip info).toOption.toList else []
    | none => []

/-- When the pips of a net are in order already, its switches are entered in this order. -/
theorem switchEntries_of_ordered {net : Net} {pips : List PipId}
    (values : net.wires.values.filterMap id = pips)
    (ordered : pips.Pairwise fun pip other => (compare pip other).isLE = true) :
    plan.switchEntries net = plan.pipEntries net.name pips := by
  rw [switchEntries, switchesOf, values, List.mergeSort_of_pairwise ordered, pipEntries,
    List.filterMap_eq_flatMap_toList, List.flatMap_assoc]
  refine List.flatMap_congr fun pip _ => ?_
  cases plan.device.pip? pip with
  | none => rfl
  | some info => cases switch : isSwitch info <;> simp [switch]

/-- Every switch of a net can be entered when each of its pips is no switch or can be entered. -/
theorem switchable_of_all {net : Net}
    (all : (net.wires.values.filterMap id).all fun pip => (plan.device.pip? pip).all fun info =>
      ! isSwitch info || (plan.switchInstance net.name pip info).toOption.isSome) :
    plan.Switchable net := by
  rintro ⟨pip, info⟩ used
  obtain ⟨⟨wire, bound⟩, known, switch⟩ := mem_switchesOf_iff.1 used
  have member : pip ∈ net.wires.values.filterMap id :=
    List.mem_filterMap.2 ⟨some pip, Entries.mem_values_iff.2 ⟨wire, bound⟩, rfl⟩
  have possible := List.all_eq_true.1 all pip member
  rw [known, Option.all_some, switch] at possible
  exact Collecting.exists_ok_of_isSome possible

/-! ### Names and places -/

/-- What is entered for a switch follows from its net, its tile and its wire. -/
theorem switchInstance_eq {pip : PipId} {info : PipInfo} {wire : WireInfo}
    (known : plan.device.wire? ⟨pip.tile, info.source⟩ = some wire) (net : Name) :
    plan.switchInstance net pip info =
      (Fault.splitCharacter.unless
        (Image.site? (Image.wireName (plan.tileName pip.tile) wire.name))).map fun site =>
          (net ++ "_" ++ Image.siteEnd site,
            ⟨plan.tileName pip.tile ++ ":" ++ String.ofList site, switchType wire.name, ∅⟩) := by
  have found : plan.wireEnd pip.tile ⟨pip.tile, info.source⟩ =
      .ok ⟨plan.tileName pip.tile, wire.name, wire.type⟩ := by
    rw [wireEnd, known]
  simp only [switchInstance, Image.Reader.switchInstance, reader, found, Bind.bind, Except.bind, pure,
    Except.pure, Image.site?, Image.siteEnd]
  generalize Image.wireName (plan.tileName pip.tile) wire.name = name
  cases Text.takeBytes (Text.byteCount name.toList - 2) name.toList with
  | none => simp only [Fault.unless, Except.map]
  | some site => simp only [Fault.unless, Except.map]

theorem switchInstance_eq_ok_iff {net : Name} {pip : PipId} {info : PipInfo} {name : String}
    {entry : Instance} : plan.switchInstance net pip info = .ok (name, entry) ↔
      ∃ wire site, plan.device.wire? ⟨pip.tile, info.source⟩ = some wire ∧
        Image.site? (Image.wireName (plan.tileName pip.tile) wire.name) = some site ∧
        name = net ++ "_" ++ Image.siteEnd site ∧
        entry = ⟨plan.tileName pip.tile ++ ":" ++ String.ofList site, switchType wire.name, ∅⟩ := by
  cases known : plan.device.wire? ⟨pip.tile, info.source⟩ with
  | none =>
      have nowhere : plan.switchInstance net pip info = .error .outOfRange := by
        simp only [switchInstance, Image.Reader.switchInstance, wireEnd, known]
        rfl
      simp [nowhere]
  | some wire =>
      rw [switchInstance_eq known]
      cases cut : Image.site? (Image.wireName (plan.tileName pip.tile) wire.name) with
      | none => simp [Fault.unless, Except.map, cut]
      | some site => simp [Fault.unless, Except.map, cut, eq_comm]

theorem switchType_mem (wire : String) : switchType wire ∈ switchTypes := by
  unfold switchType
  split
  · simp [switchTypes]
  split
  · simp [switchTypes]
  split <;> simp [switchTypes]

theorem EntersSwitch.type_mem {net : Net} {pip : PipId} {name : String} {entry : Instance}
    (enters : plan.EntersSwitch net pip name entry) : entry.type ∈ switchTypes := by
  obtain ⟨info, -, made⟩ := enters
  obtain ⟨wire, site, -, -, -, rfl⟩ := switchInstance_eq_ok_iff.1 made
  exact switchType_mem wire.name

/-! ### What stays -/

/-- Every switch in use is in an image, under its own name. -/
def KeepsSwitches (plan : Plan) (image : Image) : Prop :=
  ∀ net pip info, plan.UsesSwitch net pip info → ∃ name entry,
    plan.switchInstance net.name pip info = .ok (name, entry) ∧
      image.SwitchUnder (Image.plainName name) entry.location

/-- Where a switch is in use, an image has a switch, under whatever name. -/
def ConfiguresSwitches (plan : Plan) (image : Image) : Prop :=
  ∀ net pip info, plan.UsesSwitch net pip info → ∃ name entry,
    plan.switchInstance net.name pip info = .ok (name, entry) ∧
      ∃ key, image.SwitchUnder key entry.location

/-- Switches in different places have different plain names. -/
def SwitchesApart (plan : Plan) : Prop :=
  ∀ net pip name entry, plan.EntersSwitch net pip name entry →
    ∀ net' pip' name' entry', plan.EntersSwitch net' pip' name' entry' →
      Image.plainName name = Image.plainName name' → entry.location = entry'.location

/-- No generator and no loop that a clock path leads through has the plain name of a switch. -/
def ReservedApart (plan : Plan) : Prop :=
  ∀ net pip name entry, plan.EntersSwitch net pip name entry → ∀ (bel : BelId) reserved,
    plan.fabric.reserved.generators[bel]? = some reserved ∨
      plan.fabric.reserved.loops[bel]? = some reserved →
    Image.plainName reserved ≠ Image.plainName name

/-- What is entered after the switches is reserved, and of other types. -/
theorem mem_reservedEntries {entry : String × Instance}
    (member : entry ∈ plan.generatorEntries ++ plan.loopEntries) :
    entry.2.type ∉ switchTypes ∧ ∃ bel : BelId,
      plan.fabric.reserved.generators[bel]? = some entry.1 ∨
        plan.fabric.reserved.loops[bel]? = some entry.1 := by
  rcases List.mem_append.1 member with generator | loop
  · obtain ⟨⟨bel, name⟩, reserved, rfl⟩ := List.mem_map.1 generator
    rw [Std.ExtTreeMap.mem_toList_iff_getElem?_eq_some] at reserved
    exact ⟨by simp [switchTypes], bel, Or.inl reserved⟩
  · obtain ⟨⟨bel, name⟩, reserved, rfl⟩ := List.mem_map.1 loop
    rw [Std.ExtTreeMap.mem_toList_iff_getElem?_eq_some] at reserved
    exact ⟨by simp [switchTypes], bel, Or.inr reserved⟩

theorem exists_reservedEntry {bel : BelId} {name : Name}
    (reserved : plan.fabric.reserved.generators[bel]? = some name ∨
      plan.fabric.reserved.loops[bel]? = some name) :
    ∃ entry, (name, entry) ∈ plan.generatorEntries ++ plan.loopEntries := by
  rcases reserved with generator | loop
  · rw [← Std.ExtTreeMap.mem_toList_iff_getElem?_eq_some] at generator
    exact ⟨_, List.mem_append_left _ (List.mem_map.2 ⟨_, generator, rfl⟩)⟩
  · rw [← Std.ExtTreeMap.mem_toList_iff_getElem?_eq_some] at loop
    exact ⟨_, List.mem_append_right _ (List.mem_map.2 ⟨_, loop, rfl⟩)⟩

/-- Under the name of a switch there is what was reserved last under it, or else the last switch of
this name. -/
theorem ShownBy.switch? (shown : plan.ShownBy image) {net : Net} {pip : PipId} {name : String}
    {entry : Instance} (enters : plan.EntersSwitch net pip name entry) :
    ∃ net' pip' name' last, plan.EntersSwitch net' pip' name' last ∧
      Image.plainName name' = Image.plainName name ∧
      image.instances[Image.plainName name]? =
        (Entries.lastUnder? (Image.plainName name)
          ((plan.generatorEntries ++ plan.loopEntries).map Image.plainEntry)).or (some last) := by
  have entered : (Image.plainName name, entry) ∈
      (plan.layout.netlist.netList.flatMap plan.switchEntries).map Image.plainEntry :=
    Image.mem_map_plainEntry_iff.2 ⟨name, mem_switchEntries_iff.2 ⟨net, pip, enters⟩, rfl⟩
  obtain ⟨last, found⟩ := Entries.exists_lastUnder? entered
  obtain ⟨name', member, same⟩ :=
    Image.mem_map_plainEntry_iff.1 (Entries.mem_of_lastUnder? found)
  obtain ⟨net', pip', enters'⟩ := mem_switchEntries_iff.1 member
  refine ⟨net', pip', name', last, enters', same, ?_⟩
  rw [shown.instance?, Plan.entries, laterEntries, List.map_append, List.map_append,
    Entries.lastUnder?_append, Entries.lastUnder?_append, found, Option.or_assoc, Option.some_or]

/-- **When no switch is lost.**  An image that could be made has all switches in use, each under its own
name, exactly when switches in different places have different plain names and no generator or loop that
is entered later has one of these.  Then there is a switch wherever one is in use. -/
theorem image_switches_iff {notices : List Notice}
    (made : plan.image = (notices, .ok (.ok image))) :
    (plan.KeepsSwitches image ↔ plan.SwitchesApart ∧ plan.ReservedApart) ∧
    (plan.KeepsSwitches image → plan.ConfiguresSwitches image) := by
  have shown := shownBy_of_image made
  refine ⟨⟨fun keeps => ?_, fun ⟨apart, reservedApart⟩ => ?_⟩, fun keeps net pip info uses => ?_⟩
  · -- What is under the name of a switch is a switch, so that nothing reserved is.
    have kept : ∀ net pip name entry, plan.EntersSwitch net pip name entry →
        image.SwitchUnder (Image.plainName name) entry.location := by
      rintro net pip name entry ⟨info, uses, enters⟩
      obtain ⟨name', entry', enters', under⟩ := keeps net pip info uses
      rw [enters] at enters'
      cases enters'
      exact under
    constructor
    · intro net pip name entry enters net' pip' name' entry' enters' same
      obtain ⟨one, found, here, -⟩ := kept net pip name entry enters
      obtain ⟨other, found', there, -⟩ := kept net' pip' name' entry' enters'
      rw [same, found'] at found
      cases found
      rw [← here, ← there]
    · intro net pip name entry enters bel reserved known same
      obtain ⟨under, found, -, type⟩ := kept net pip name entry enters
      obtain ⟨other, member⟩ := exists_reservedEntry known
      have entered : (Image.plainName name, other) ∈
          (plan.generatorEntries ++ plan.loopEntries).map Image.plainEntry :=
        Image.mem_map_plainEntry_iff.2 ⟨reserved, member, same⟩
      obtain ⟨last, lastFound⟩ := Entries.exists_lastUnder? entered
      obtain ⟨name', member', -⟩ :=
        Image.mem_map_plainEntry_iff.1 (Entries.mem_of_lastUnder? lastFound)
      obtain ⟨_, _, _, _, _, _, there⟩ := shown.switch? enters
      rw [there, lastFound, Option.some_or] at found
      cases found
      exact (mem_reservedEntries member').1 type
  · intro net pip info uses
    obtain ⟨⟨name, entry⟩, enters⟩ := shown.switchable net uses.stored (pip, info)
      (usesSwitch_iff.1 uses).2
    have entersSwitch : plan.EntersSwitch net pip name entry := ⟨info, uses, enters⟩
    refine ⟨name, entry, enters, ?_⟩
    obtain ⟨net', pip', name', last, enters', same, there⟩ := shown.switch? entersSwitch
    cases found : Entries.lastUnder? (Image.plainName name)
        ((plan.generatorEntries ++ plan.loopEntries).map Image.plainEntry) with
    | none =>
        rw [found, Option.none_or] at there
        exact ⟨last, there, apart _ _ _ _ enters' _ _ _ _ entersSwitch same, enters'.type_mem⟩
    | some reserved =>
        obtain ⟨name'', member, same'⟩ :=
          Image.mem_map_plainEntry_iff.1 (Entries.mem_of_lastUnder? found)
        obtain ⟨-, bel, known⟩ := mem_reservedEntries member
        exact absurd same' (reservedApart net pip name entry entersSwitch bel name'' known)
  · obtain ⟨name, entry, enters, under⟩ := keeps net pip info uses
    exact ⟨name, entry, enters, _, under⟩

/-- **The same wire in two tiles.**  Switches that one net uses at wires of one name in tiles of different
names are called the same. -/
theorem not_switchesApart_of_tiles {net : Net} {pip pip' : PipId} {info info' : PipInfo}
    {wire wire' : WireInfo} (uses : plan.UsesSwitch net pip info)
    (uses' : plan.UsesSwitch net pip' info')
    (known : plan.device.wire? ⟨pip.tile, info.source⟩ = some wire)
    (known' : plan.device.wire? ⟨pip'.tile, info'.source⟩ = some wire')
    (same : Image.wireName (plan.tileName pip.tile) wire.name =
      Image.wireName (plan.tileName pip'.tile) wire'.name)
    {site : List Char}
    (cut : Image.site? (Image.wireName (plan.tileName pip.tile) wire.name) = some site)
    (tiles : plan.tileName pip.tile ≠ plan.tileName pip'.tile) : ¬ plan.SwitchesApart := by
  intro apart
  have enters : plan.EntersSwitch net pip _ _ :=
    ⟨info, uses, switchInstance_eq_ok_iff.2 ⟨wire, site, known, cut, rfl, rfl⟩⟩
  have enters' : plan.EntersSwitch net pip' _ _ :=
    ⟨info', uses', switchInstance_eq_ok_iff.2 ⟨wire', site, known', same ▸ cut, rfl, rfl⟩⟩
  have located := apart _ _ _ _ enters _ _ _ _ enters' rfl
  have named : plan.tileName pip.tile ++ ":" = plan.tileName pip'.tile ++ ":" :=
    (String.append_left_inj _).1 located
  exact tiles ((String.append_left_inj _).1 named)

end Plan

/-! ### A sample: one net in two tiles of a kind -/

namespace SiteSample

/-- Two switches for one wire; the name of the other source ends with a character of three bytes. -/
def tileType : TileType :=
  ⟨"T", #[], #[⟨"SI1.N00", "", 0⟩, ⟨"N€", "", 0⟩, ⟨"w", "", 0⟩],
    #[⟨0, 2, 0, some ⟨"S.0", 0, .interconnect, none⟩⟩, ⟨1, 2, 0, some ⟨"S.1", 1, .interconnect, none⟩⟩],
    #[]⟩

def chip : Chip :=
  ⟨"sites", 2, 1, #[tileType], #[⟨0, some ⟨"A", none⟩⟩, ⟨0, some ⟨"B", none⟩⟩], [], []⟩

def device : Device :=
  ⟨chip, by decide +kernel, Indexes.ofChip chip, rfl⟩

def cell : Cell :=
  { Cell.bare "c" "XLUT" with
    ports := (∅ : Std.ExtTreeMap Name Port).insert "O" ⟨.output, some "n"⟩ }

def netlist : Netlist :=
  (Netlist.empty.setCell cell).setNet ⟨"n", some ⟨"c", "O"⟩, [], ∅⟩

def layout : Layout :=
  (Layout.ofNetlist device netlist).toOption.getD ⟨device, netlist, ∅, ∅, ∅⟩

def fabric : Fabric :=
  Fabric.ofOptions ⟨.firstFit, 8, 120, 18, 22, 40, 10, true⟩ ⟨∅, ∅⟩

def plan : Plan :=
  (Plan.mk .fresh fabric layout).setUp.1

theorem built : ClockBuffer.byLobe device (TileNames.ofChip chip) = .ok ∅ := by
  with_unfolding_all rfl

/-- The net goes through the first switch in both tiles. -/
def routed : Plan :=
  plan.run [.bindPip ⟨0, 0⟩ "n", .bindPip ⟨1, 0⟩ "n"]

theorem ordered : ∀ net ∈ routed.layout.netlist.netList,
    net.wires.values.filterMap id = [⟨0, 0⟩, ⟨1, 0⟩] := by
  decide +kernel

theorem switchEntries_eq : routed.layout.netlist.netList.flatMap routed.switchEntries =
    routed.layout.netlist.netList.flatMap fun net =>
      routed.pipEntries net.name [⟨0, 0⟩, ⟨1, 0⟩] :=
  List.flatMap_congr fun net member =>
    Plan.switchEntries_of_ordered (ordered net member) (by decide +kernel)

theorem made : ∃ notices image, routed.image = (notices, .ok (.ok image)) := by
  refine Plan.image_of_parts (by decide +kernel) (by decide +kernel) fun net member =>
    Plan.switchable_of_all ?_
  have all : ∀ net ∈ routed.layout.netlist.netList, (net.wires.values.filterMap id).all fun pip =>
      (routed.device.pip? pip).all fun info =>
        ! Plan.isSwitch info || (routed.switchInstance net.name pip info).toOption.isSome := by
    decide +kernel
  exact all net member

/-- What is told of an instance. -/
def outline (entry : String × Instance) : String × String × String :=
  (entry.1, entry.2.location, entry.2.type)

theorem entered : (routed.layout.netlist.netList.flatMap routed.switchEntries).map outline =
    [("n_N", "A:T:SI1.N", "ITS"), ("n_N", "B:T:SI1.N", "ITS")] := by
  rw [switchEntries_eq]
  decide +kernel

/-- In each of the two tiles the switch is in use, under the same name. -/
theorem exists_used : ∀ location ∈ ["A:T:SI1.N", "B:T:SI1.N"],
    ∃ net pip entry, routed.EntersSwitch net pip "n_N" entry ∧ entry.location = location := by
  intro location tile
  have outlined : ("n_N", location, "ITS") ∈
      (routed.layout.netlist.netList.flatMap routed.switchEntries).map outline := by
    rw [entered]
    simpa using tile
  obtain ⟨⟨name, entry⟩, member, same⟩ := List.mem_map.1 outlined
  obtain rfl : name = "n_N" := congrArg Prod.fst same
  obtain ⟨net, pip, enters⟩ := Plan.mem_switchEntries_iff.1 member
  exact ⟨net, pip, entry, enters, congrArg (fun outlined => outlined.2.1) same⟩

/-- In the image of the sample a switch is lost. -/
theorem loses_switch : ∃ notices image, routed.image = (notices, .ok (.ok image)) ∧
    ¬ routed.KeepsSwitches image := by
  obtain ⟨notices, image, made⟩ := made
  refine ⟨notices, image, made, fun keeps => ?_⟩
  obtain ⟨net, pip, entry, enters, here⟩ := exists_used "A:T:SI1.N" (by simp)
  obtain ⟨net', pip', entry', enters', there⟩ := exists_used "B:T:SI1.N" (by simp)
  have same := ((Plan.image_switches_iff made).1.1 keeps).1 _ _ _ _ enters _ _ _ _ enters' rfl
  rw [here, there] at same
  exact absurd same (by decide)

/-- Both switches are in use, and the image has the later one. -/
theorem one_switch_left : ∃ notices image, routed.image = (notices, .ok (.ok image)) ∧
    ¬ routed.ConfiguresSwitches image ∧
    (routed.layout.netlist.netList.flatMap routed.switchEntries).map outline =
      [("n_N", "A:T:SI1.N", "ITS"), ("n_N", "B:T:SI1.N", "ITS")] ∧
    image.instances.toList.map outline = [("n_N", "B:T:SI1.N", "ITS")] := by
  obtain ⟨notices, image, made⟩ := made
  have left : image.instances.toList.map outline = [("n_N", "B:T:SI1.N", "ITS")] := by
    rw [(Plan.shownBy_of_image made).instances, Plan.entries, Plan.laterEntries, switchEntries_eq]
    decide +kernel
  refine ⟨notices, image, made, fun configures => ?_, entered, left⟩
  obtain ⟨net, pip, entry, ⟨info, uses, enters⟩, here⟩ := exists_used "A:T:SI1.N" (by simp)
  obtain ⟨name', entry', enters', key, shown, found, there, -⟩ := configures net pip info uses
  rw [enters] at enters'
  cases enters'
  have member : outline (key, shown) ∈ image.instances.toList.map outline :=
    List.mem_map_of_mem (Std.ExtTreeMap.mem_toList_iff_getElem?_eq_some.2 found)
  rw [left, List.mem_singleton, outline, there, here] at member
  have elsewhere : "A:T:SI1.N" = "B:T:SI1.N" := congrArg (fun outlined => outlined.2.1) member
  exact absurd elsewhere (by decide)

end SiteSample

end UltraFabric
