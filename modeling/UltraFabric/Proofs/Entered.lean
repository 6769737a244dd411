/-
# UltraFabric.Proofs.Entered — what is entered in an image, and what stays in it

An image is made by entering things under names: nets with their connections, and instances of cells,
of switches, and of the generators and loops that clock paths lead through, in this order.  Entering
replaces what was under the name before, and names are made plain on the way.

What is in the image is therefore what was entered last under a name (`Entries.getElem?_ofList`),
and everything that was entered is in it exactly when no two entries under one name differ
(`Entries.all_last_iff`).  The rest of this module says what is entered: `Plan.netEntries` and
`Plan.entries` list it in order, and `Plan.shownBy_of_image` reads a whole image off its plan.
-/
import UltraFabric.Image
import UltraFabric.Proofs.Collecting

namespace UltraFabric

set_option autoImplicit false

/-! ### The last of the entries under a key -/

namespace Entries

variable {β : Type}

/-- The value of the last entry under a key. -/
def lastUnder? (key : String) (entries : List (String × β)) : Option β :=
  entries.reverse.findSome? fun entry => if entry.1 = key then some entry.2 else none

/-- No two entries under one key differ. -/
def OneEach (entries : List (String × β)) : Prop :=
  ∀ entry ∈ entries, ∀ other ∈ entries, entry.1 = other.1 → entry.2 = other.2

theorem lastUnder?_append (key : String) (first later : List (String × β)) :
    lastUnder? key (first ++ later) = (lastUnder? key later).or (lastUnder? key first) := by
  rw [lastUnder?, List.reverse_append, List.findSome?_append, lastUnder?, lastUnder?]

theorem mem_of_lastUnder? {key : String} {entries : List (String × β)} {value : β}
    (last : lastUnder? key entries = some value) : (key, value) ∈ entries := by
  obtain ⟨⟨other, found⟩, member, here⟩ := List.exists_of_findSome?_eq_some last
  split at here
  · rename_i same
    cases here
    cases same
    exact List.mem_reverse.1 member
  · cases here

theorem exists_lastUnder? {entries : List (String × β)} {entry : String × β}
    (member : entry ∈ entries) : ∃ last, lastUnder? entry.1 entries = some last := by
  refine Option.isSome_iff_exists.1 (List.findSome?_isSome_iff.2 ⟨_, List.mem_reverse.2 member, ?_⟩)
  rw [if_pos rfl]
  rfl

/-- What comes first does not matter for keys that come later. -/
theorem lastUnder?_append_of_mem {entry : String × β} (first : List (String × β))
    {later : List (String × β)} (member : entry ∈ later) :
    lastUnder? entry.1 (first ++ later) = lastUnder? entry.1 later := by
  obtain ⟨last, found⟩ := exists_lastUnder? member
  rw [lastUnder?_append, found, Option.some_or]

/-- **What is found under a key is what was entered last.** -/
theorem getElem?_ofList (key : String) (entries : List (String × β)) :
    (Std.ExtTreeMap.ofList entries)[key]? = lastUnder? key entries := by
  rw [Std.ExtTreeMap.ofList_eq_insertMany_empty, Std.ExtTreeMap.getElem?_insertMany_list,
    Std.ExtTreeMap.getElem?_empty, Option.or_none, List.findSomeRev?_eq_findSome?_reverse, lastUnder?]
  simp only [Std.LawfulEqCmp.compare_eq_iff_eq]

/-- **Entries stay exactly when no two under one key differ**, and what is entered later under such a
key is the same again. -/
theorem all_last_append_iff (first later : List (String × β)) :
    (∀ entry ∈ first, lastUnder? entry.1 (first ++ later) = some entry.2) ↔
      OneEach first ∧ ∀ entry ∈ first, ∀ last, lastUnder? entry.1 later = some last →
        last = entry.2 := by
  simp only [lastUnder?_append]
  constructor
  · refine fun kept => ⟨fun entry member other member' same => ?_, fun entry member last found => ?_⟩
    · have one := kept entry member
      rw [same, kept other member'] at one
      exact (Option.some.inj one).symm
    · have one := kept entry member
      rw [found, Option.some_or] at one
      exact Option.some.inj one
  · rintro ⟨one, again⟩ entry member
    cases found : lastUnder? entry.1 later with
    | some last => rw [again entry member last found, Option.some_or]
    | none =>
        obtain ⟨last, found'⟩ := exists_lastUnder? member
        have same : last = entry.2 := one _ (mem_of_lastUnder? found') entry member rfl
        rw [Option.none_or, found', same]

theorem all_last_iff (entries : List (String × β)) :
    (∀ entry ∈ entries, lastUnder? entry.1 entries = some entry.2) ↔ OneEach entries := by
  have iff := all_last_append_iff entries []
  rw [List.append_nil] at iff
  refine iff.trans (and_iff_left ?_)
  rintro entry - last found
  cases found

end Entries

/-! ### Plain names -/

namespace Image

def plainCharacter (c : Char) : Char :=
  if c = '$' then '_' else c

theorem replaceFrom_dollar (text : List Char) :
    Text.replaceFrom ['$'] ['_'] 0 text = text.map plainCharacter := by
  induction text with
  | nil => rfl
  | cons c rest ih =>
      rw [Text.replaceFrom, List.map_cons, plainCharacter]
      by_cases dollar : c = '$'
      · rw [if_pos dollar, if_pos (by simp [dollar])]
        exact congrArg _ ih
      · rw [if_neg dollar, if_neg (by simpa using Ne.symm dollar), ih]

theorem toList_plainName (name : String) :
    (plainName name).toList = name.toList.map plainCharacter := by
  rw [plainName, Text.replaceAll, String.toList_ofList]
  exact replaceFrom_dollar name.toList

theorem plainName_append (start ending : String) :
    plainName (start ++ ending) = plainName start ++ plainName ending := by
  rw [← String.toList_inj]
  simp only [toList_plainName, String.toList_append, List.map_append]

/-- An entry under the plain form of its name. -/
def plainEntry {β : Type} (entry : String × β) : String × β :=
  (plainName entry.1, entry.2)

/-! ### Entering -/

/-- An image with more instances. -/
def enter (image : Image) (entries : List (String × Instance)) : Image :=
  { image with instances := image.instances.insertMany (entries.map plainEntry) }

theorem enter_nil (image : Image) : image.enter [] = image := rfl

theorem enter_append (image : Image) (first later : List (String × Instance)) :
    image.enter (first ++ later) = (image.enter first).enter later := by
  simp only [enter, List.map_append, Std.ExtTreeMap.insertMany_append]

theorem foldl_add (entries : List (String × Instance)) :
    ∀ image : Image,
      entries.foldl (fun image (name, entry) => image.add name entry) image = image.enter entries := by
  induction entries with
  | nil => exact fun image => rfl
  | cons entry rest ih =>
      intro image
      rw [List.foldl_cons, ih]
      simp only [enter, add, plainEntry, List.map_cons, Std.ExtTreeMap.insertMany_cons]

end Image

namespace Plan

open Collecting (foldlM_eq_ok_iff)

variable {plan : Plan}

/-! ### What is entered -/

/-- The instances of a cell, if it is placed. -/
def cellEntries (plan : Plan) (cell : Cell) : List (String × Instance) :=
  match cell.bel with
  | some bel => ((plan.cellInstances cell bel).toOption).getD []
  | none => []

/-- The pips of a net that are switches, in order. -/
def switchesOf (plan : Plan) (net : Net) : List (PipId × PipInfo) :=
  let pips := net.wires.values.filterMap id
  (pips.mergeSort fun a b => (compare a b).isLE).filterMap fun pip =>
    match plan.device.pip? pip with
    | some info => if isSwitch info then some (pip, info) else none
    | none => none

/-- The instances of the switches of a net. -/
def switchEntries (plan : Plan) (net : Net) : List (String × Instance) :=
  (plan.switchesOf net).flatMap fun (pip, info) =>
    (plan.switchInstance net.name pip info).toOption.toList

def generatorEntries (plan : Plan) : List (String × Instance) :=
  plan.fabric.reserved.generators.toList.map fun (bel, name) =>
    (name, ⟨plan.imageLocation bel none, "WFG", Image.unusedGenerator⟩)

def loopEntries (plan : Plan) : List (String × Instance) :=
  plan.fabric.reserved.loops.toList.map fun (bel, name) =>
    (name, ⟨plan.imageLocation bel none, "PLL", Image.unusedLoop⟩)

/-- What is entered after the cells. -/
def laterEntries (plan : Plan) : List (String × Instance) :=
  plan.layout.netlist.netList.flatMap plan.switchEntries ++ (plan.generatorEntries ++ plan.loopEntries)

/-- The instances of all placed cells. -/
def placedEntries (plan : Plan) : List (String × Instance) :=
  plan.layout.netlist.cellList.flatMap plan.cellEntries

/-- All instances, in the order in which they are entered. -/
def entries (plan : Plan) : List (String × Instance) :=
  plan.placedEntries ++ plan.laterEntries

/-- The nets that have wires. -/
def routedNets (plan : Plan) : List Net :=
  plan.layout.netlist.netList.filter fun net => ! net.wires.isEmpty

/-- The connections of a net, if they can be told. -/
def connectionsOf (plan : Plan) (net : Net) : Std.ExtTreeSet String :=
  ((plan.netConnections net).toOption).getD ∅

def netEntries (plan : Plan) : List (String × Std.ExtTreeSet String) :=
  plan.routedNets.map fun net => (net.name, plan.connectionsOf net)

/-- The banks after a cell, if it is placed. -/
def banksAfter (plan : Plan) (banks : Std.ExtTreeMap String String) (cell : Cell) :
    Std.ExtTreeMap String String :=
  match cell.bel with
  | some bel => plan.banksWith cell bel banks
  | none => banks

/-- Every placed cell among these is of a type that can be configured. -/
def Configurable (plan : Plan) (cells : List Cell) : Prop :=
  ∀ cell ∈ cells, ∀ bel, cell.bel = some bel →
    plan.cellInstances cell bel = .ok (plan.cellEntries cell)

/-- Every switch of a net has an instance. -/
def Switchable (plan : Plan) (net : Net) : Prop :=
  ∀ switch ∈ plan.switchesOf net, ∃ entry,
    plan.switchInstance net.name switch.1 switch.2 = .ok entry

/-! ### Reading an image off a plan -/

theorem addCells_cases (cells : List Cell) :
    ∀ {image result : Image} {notices notices' : List Notice},
      plan.reader.addCells plan cells image notices = (notices', .ok (.ok result)) →
        plan.Configurable cells ∧
          result = { image.enter (cells.flatMap plan.cellEntries) with
            banks := cells.foldl plan.banksAfter image.banks } := by
  induction cells with
  | nil =>
      intro image result notices notices' added
      cases added
      exact ⟨fun cell member => absurd member List.not_mem_nil, rfl⟩
  | cons cell rest ih =>
      intro image result notices notices' added
      cases placed : cell.bel with
      | none =>
          simp only [Image.Reader.addCells, placed] at added
          obtain ⟨known, made⟩ := ih added
          refine ⟨fun other member bel there => ?_, ?_⟩
          · rcases List.mem_cons.1 member with rfl | member
            · rw [placed] at there
              cases there
            · exact known other member bel there
          · have nothing : plan.cellEntries cell = [] := by rw [cellEntries, placed]
            rw [made, List.flatMap_cons, nothing, List.nil_append, List.foldl_cons, banksAfter, placed]
      | some bel =>
          cases given : plan.cellInstances cell bel with
          | error unknown =>
              simp only [Image.Reader.addCells, placed, reader, given, pure, Except.pure] at added
              cases added
          | ok instances =>
              simp only [Image.Reader.addCells, placed, reader, given, pure, Except.pure] at added
              obtain ⟨known, made⟩ := ih added
              have own : plan.cellEntries cell = instances := by
                simp only [cellEntries, placed, given, Except.toOption, Option.getD_some]
              refine ⟨fun other member bel' there => ?_, ?_⟩
              · rcases List.mem_cons.1 member with rfl | member
                · rw [placed] at there
                  cases there
                  rw [given, own]
                · exact known other member bel' there
              · rw [made, List.flatMap_cons, own, Image.enter_append, Image.foldl_add, List.foldl_cons,
                  banksAfter, placed]
                rfl

/-- Pips that are no switches are passed over. -/
theorem addSwitches_eq (image : Image) :
    plan.reader.addSwitches plan image =
      plan.layout.netlist.netList.foldlM (fun image net =>
        (plan.switchesOf net).foldlM (fun image (pip, info) => do
          let (name, entry) ← plan.switchInstance net.name pip info
          return image.add name entry) image) image := by
  simp only [Image.Reader.addSwitches, switchesOf, List.foldlM_filterMap]
  refine Collecting.foldlM_congr (fun net _ => Collecting.foldlM_congr fun pip _ image => ?_) image
  have looked : plan.reader.pip? pip = pure (plan.device.pip? pip) := rfl
  rw [Image.Reader.addSwitch, looked, pure_bind]
  cases plan.device.pip? pip with
  | none => rfl
  | some info =>
      simp only
      cases isSwitch info <;> rfl

/-- **Switches are entered exactly when each of them has an instance.** -/
theorem addSwitches_eq_ok_iff {image result : Image} :
    plan.reader.addSwitches plan image = .ok result ↔
      (∀ net ∈ plan.layout.netlist.netList, plan.Switchable net) ∧
        result = image.enter (plan.layout.netlist.netList.flatMap plan.switchEntries) := by
  rw [addSwitches_eq]
  refine foldlM_eq_ok_iff Image.enter_nil Image.enter_append (fun image net result => ?_) _ _ _
  refine foldlM_eq_ok_iff Image.enter_nil Image.enter_append ?_ _ _ _
  rintro image ⟨pip, info⟩ result
  cases made : plan.switchInstance net.name pip info with
  | error fault =>
      simp only [made]
      exact iff_of_false (fun ended => by cases ended) fun ⟨⟨_, known⟩, _⟩ => by cases known
  | ok entry =>
      simp only [made, Except.toOption, Option.toList_some]
      exact ⟨fun ended => ⟨⟨entry, rfl⟩, (Except.ok.inj ended).symm⟩,
        fun ⟨_, same⟩ => congrArg Except.ok same.symm⟩

theorem addReserved_eq (image : Image) :
    plan.reader.addReserved plan image =
      .ok (image.enter (plan.generatorEntries ++ plan.loopEntries)) := by
  have bels : ∀ type config entries image, plan.reader.addBels plan type config entries image =
      .ok (Image.enter image (entries.map fun (bel, name) =>
        (name, ⟨plan.imageLocation bel none, type, config⟩))) := by
    intro type config entries image
    rw [← Image.foldl_add, List.foldl_map]
    exact List.foldlM_pure
  rw [Image.Reader.addReserved, bels, Image.enter_append, generatorEntries, loopEntries]
  exact bels _ _ _ _

/-- The nets of an image, when all connections can be told. -/
theorem imageNets_cases {nets : Std.ExtTreeMap String (Std.ExtTreeSet String)}
    (made : plan.reader.nets plan = .ok nets) :
    (∀ net ∈ plan.routedNets, plan.netConnections net = .ok (plan.connectionsOf net)) ∧
      nets = .ofList (plan.netEntries.map Image.plainEntry) := by
  have given : plan.netEntries.map Image.plainEntry =
      plan.routedNets.flatMap fun net => [(Image.plainName net.name, plan.connectionsOf net)] := by
    rw [netEntries, List.map_map, List.map_eq_flatMap]
    rfl
  rw [given, Std.ExtTreeMap.ofList_eq_insertMany_empty]
  refine (foldlM_eq_ok_iff (fun nets => rfl) (fun _ _ _ => Std.ExtTreeMap.insertMany_append) ?_ _ _ _).1
    made
  intro nets net result
  have asked : plan.reader.netConnections plan net = plan.netConnections net := rfl
  rw [asked]
  cases told : plan.netConnections net with
  | error fault =>
      exact iff_of_false (fun ended => by cases ended) fun ⟨known, _⟩ => by cases known
  | ok connections =>
      have known : plan.connectionsOf net = connections := by
        rw [connectionsOf, told]
        rfl
      rw [known, Std.ExtTreeMap.insertMany_list_singleton]
      exact ⟨fun ended => ⟨rfl, (Except.ok.inj ended).symm⟩, fun ⟨_, same⟩ => congrArg Except.ok same.symm⟩

/-- What an image has of a plan. -/
structure ShownBy (plan : Plan) (image : Image) : Prop where
  configurable : plan.Configurable plan.layout.netlist.cellList
  switchable : ∀ net ∈ plan.layout.netlist.netList, plan.Switchable net
  connected : ∀ net ∈ plan.routedNets, plan.netConnections net = .ok (plan.connectionsOf net)
  nets : image.nets = .ofList (plan.netEntries.map Image.plainEntry)
  instances : image.instances = .ofList (plan.entries.map Image.plainEntry)
  banks : image.banks = plan.layout.netlist.cellList.foldl plan.banksAfter plan.fabric.bankVoltage

/-- **All of an image, read off its plan.** -/
theorem shownBy_of_image {notices : List Notice} {image : Image}
    (made : plan.image = (notices, .ok (.ok image))) : plan.ShownBy image := by
  unfold Plan.image Image.Reader.image at made
  split at made
  · cases made
  rename_i nets told
  obtain ⟨connected, nets'⟩ := imageNets_cases told
  split at made
  rename_i notices' cells added
  split at made
  · cases made
  · cases made
  rename_i withCells
  obtain ⟨configurable, rfl⟩ := addCells_cases _ added
  split at made
  · cases made
  rename_i withReserved ended
  cases switched : plan.reader.addSwitches plan _ with
  | error fault =>
      rw [switched] at ended
      cases ended
  | ok withSwitches =>
      obtain ⟨switchable, rfl⟩ := addSwitches_eq_ok_iff.1 switched
      rw [switched, Except.bind, addReserved_eq] at ended
      cases ended
      cases made
      refine ⟨configurable, switchable, connected, nets', ?_, rfl⟩
      simp only [Image.enter, entries, placedEntries, laterEntries, List.map_append,
        Std.ExtTreeMap.insertMany_append, Std.ExtTreeMap.ofList_eq_insertMany_empty, Image.ofBanks]

theorem exists_image (succeeds : (plan.image.2.toOption.bind Except.toOption).isSome = true) :
    ∃ notices image, plan.image = (notices, .ok (.ok image)) := by
  generalize plan.image = answer at succeeds ⊢
  match answer with
  | (_, .error _) => cases succeeds
  | (_, .ok (.error _)) => cases succeeds
  | (notices, .ok (.ok image)) => exact ⟨notices, image, rfl⟩

/-- **When an image can be made**: all nets can be told, all cells configured and all switches
entered. -/
theorem image_of_parts (told : (plan.reader.nets plan).toOption.isSome = true)
    (configurable : ((plan.reader.addCells plan plan.layout.netlist.cellList
      (.ofBanks plan.fabric.bankVoltage) []).2.toOption.bind Except.toOption).isSome = true)
    (switchable : ∀ net ∈ plan.layout.netlist.netList, plan.Switchable net) :
    ∃ notices image, plan.image = (notices, .ok (.ok image)) := by
  obtain ⟨nets, told⟩ := Collecting.exists_ok_of_isSome told
  unfold Plan.image Image.Reader.image
  rw [told]
  generalize plan.reader.addCells plan plan.layout.netlist.cellList _ [] = added at configurable ⊢
  match added with
  | (_, .error _) => cases configurable
  | (_, .ok (.error _)) => cases configurable
  | (notices, .ok (.ok image)) =>
      simp only [addSwitches_eq_ok_iff.2 ⟨switchable, rfl⟩, Except.bind, addReserved_eq]
      exact ⟨_, _, rfl⟩

/-- An image of a plan whose nets have no switches. -/
theorem image_of_unswitched (told : (plan.reader.nets plan).toOption.isSome = true)
    (configurable : ((plan.reader.addCells plan plan.layout.netlist.cellList
      (.ofBanks plan.fabric.bankVoltage) []).2.toOption.bind Except.toOption).isSome = true)
    (unswitched : ∀ net ∈ plan.layout.netlist.netList, plan.switchesOf net = []) :
    ∃ notices image, plan.image = (notices, .ok (.ok image)) := by
  refine image_of_parts told configurable fun net member switch used => ?_
  rw [unswitched net member] at used
  cases used

theorem switchesOf_eq_nil {net : Net}
    (none : ∀ pip ∈ net.wires.values.filterMap id, ∀ info, plan.device.pip? pip = some info →
      isSwitch info = false) : plan.switchesOf net = [] := by
  refine List.filterMap_eq_nil_iff.2 fun pip member => ?_
  rw [List.mem_mergeSort] at member
  cases found : plan.device.pip? pip with
  | none => rfl
  | some info => simp [none pip member info found]

variable {image : Image}

theorem ShownBy.net? (shown : plan.ShownBy image) (key : String) :
    image.nets[key]? = Entries.lastUnder? key (plan.netEntries.map Image.plainEntry) := by
  rw [shown.nets, Entries.getElem?_ofList]

theorem ShownBy.instance? (shown : plan.ShownBy image) (key : String) :
    image.instances[key]? = Entries.lastUnder? key (plan.entries.map Image.plainEntry) := by
  rw [shown.instances, Entries.getElem?_ofList]

end Plan

end UltraFabric
