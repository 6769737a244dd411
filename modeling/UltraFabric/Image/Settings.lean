/-
# UltraFabric.Image.Settings — how cells are configured

Every type of cell has a list of settings. A setting says under which key the value goes into the
image, which parameter it comes from and what it is when the parameter is missing or has no such
value. The values of a cell follow from the list of its type (`settingsOf?`).
-/
import UltraFabric.Netlist

namespace UltraFabric.Image

set_option autoImplicit false

/-- One setting of a cell in the image. -/
inductive Setting where
  | flag (key : String) (default : Bool)
  | number (key : String) (default : Int)
  | text (key parameter default : String)
  /-- The lowest bits of a parameter, least first; zeros when it is missing. -/
  | bits (key : String) (count : Nat)
  /-- A number that is written as text. -/
  | digits (key : String) (default : Int)
  /-- A flag that is only written when its parameter is there. -/
  | optionalFlag (key : String)
  deriving DecidableEq, Repr

namespace Setting

def key : Setting → String
  | .flag key _ | .number key _ | .text key _ _ | .bits key _ | .digits key _ | .optionalFlag key =>
    key

/-- The parameter that a setting comes from. -/
def parameter : Setting → Name
  | .flag key _ | .number key _ | .bits key _ | .digits key _ | .optionalFlag key => key
  | .text _ parameter _ => parameter

/-- The value of a setting for a cell. -/
def value? (cell : Cell) : Setting → Option Document
  | .flag key default => some (.bool (cell.boolParam key default))
  | .number key default => some (.int (cell.intParam key default))
  | .text _ parameter default => some (.text (cell.textParam parameter default))
  | .bits key count =>
    match cell.params[key]? with
    | some value => some (.text (value.bitsFromLeast count))
    | none => some (.text (String.ofList (List.replicate count '0')))
  | .digits key default => some (.text (toString (cell.intParam key default)))
  | .optionalFlag key =>
    (cell.params[key]?).map fun _ => .bool (cell.boolParam key false)

end Setting

/-- The values of a cell by their keys. -/
def values (cell : Cell) (settings : List Setting) : Std.ExtTreeMap String Document :=
  settings.foldl (fun values setting =>
    match setting.value? cell with
    | some value => values.insert setting.key value
    | none => values) ∅

/-- Flags that are off unless they are set. -/
def flags (keys : List String) : List Setting :=
  keys.map fun key => .flag key false

/-- Numbers that are zero unless they are set. -/
def numbers (keys : List String) : List Setting :=
  keys.map fun key => .number key 0

def lookupTable : List Setting :=
  [.bits "lut_table" 16]

def flipFlop : List Setting :=
  .digits "dff_ctxt" 0 :: flags ["dff_edge", "dff_init", "dff_load", "dff_sync", "dff_type"]

def pad : List Setting :=
  [.text "drive" "drive" "2mA", .text "location" "location" "", .text "standard" "standard" "LVCMOS"]

def padPaths : String :=
  String.ofList (List.replicate 33 ';')

def waveformGenerator : List Setting :=
  [.number "mode" 0, .flag "delay_on" false, .number "delay" 0, .flag "wfg_edge" false,
    .bits "pattern" 16, .number "pattern_end" 0, .number "div_ratio" 0] ++
    flags ["div_phase", "reset_on_pll_lock_n", "reset_on_pll_locka_n", "reset_on_cal_lock_n"]

def phaseLockedLoop : List Setting :=
  numbers ["clk_outdiv1", "clk_outdiv2", "clk_outdiv3", "clk_outdiv4", "clk_outdivd1",
    "clk_outdivd2", "clk_outdivd3", "clk_outdivd4", "clk_outdivd5"] ++
    .flag "use_cal" false :: numbers ["clk_cal_sel", "pll_odf", "pll_lpf_res", "pll_lpf_cap",
    "cal_div", "cal_delay"] ++
    [.flag "use_pll" true, .number "ref_intdiv" 0, .flag "ref_osc_on" false, .number "pll_cpump" 0,
      .number "pll_lock" 0, .flag "ext_fbk_on" false, .number "fbk_intdiv" 0,
      .flag "fbk_delay_on" false, .number "fbk_delay" 0]

/-- Clock domain crossings: which flags there are depends on the number of their parts. -/
def crossing (type : Name) : List Setting :=
  let wide := type = "XCDC"
  flags (["ck0_edge", "ck1_edge", "ack_sel", "bck_sel"] ++
    (if wide then ["cck_sel", "dck_sel"] else []) ++
    (if type ≠ "DDE" then ["use_asrc_arst", "use_bsrc_arst"] else []) ++
    (if wide then ["use_csrc_arst", "use_dsrc_arst"] else []) ++
    ["use_adest_arst", "use_bdest_arst"] ++
    (if wide then ["use_cdest_arst", "use_ddest_arst"] else []) ++
    ["link_BA", "link_CB", "link_DC"])

/-- Queues: the small one has shorter addresses and no resets of its own. -/
def queue (type : Name) : List Setting :=
  let small := type = "FIFO"
  flags ["rck_edge", "wck_edge"] ++
    (if small then [] else flags ["use_read_arst", "use_write_arst"]) ++
    [.bits "read_addr_inv" (if small then 6 else 7)]

/-- The settings of a type of cell that has one instance in the image; pads and functional elements
are treated apart. -/
def settingsOf? (type : Name) : Option (List Setting) :=
  match type with
  | "DFR" => some (flags ["data_inv", "dff_edge", "dff_init", "dff_load", "dff_sync", "dff_type"] ++
      [.number "mode" 3, .text "iobname" "iobname" ""])
  | "BFR" => some [.number "mode" 2, .text "iobname" "iobname" "", .optionalFlag "data_inv"]
  | "CY" => some [.number "add_carry" 0, .flag "shifter" false]
  | "XLUT" => some lookupTable
  | "IOM" => some [.text "pads_path" "pads_path" padPaths]
  | "GCK" => some (flags ["inv_in", "inv_out"] ++ [.text "std_mode" "std_mode" "BYPASS"])
  | "WFB" => some [.flag "delay_on" false, .number "delay" 0, .flag "wfg_edge" false]
  | "WFG" => some waveformGenerator
  | "PLL" => some phaseLockedLoop
  | "RAM" => some (flags ["mcka_edge", "mckb_edge", "pcka_edge", "pckb_edge"] ++
      [.bits "raw_config0" 4, .bits "raw_config1" 16, .text "context" "mem_ctxt" ""])
  | "DSP" => some [.bits "raw_config0" 27, .bits "raw_config1" 24, .bits "raw_config2" 14,
      .bits "raw_config3" 3]
  | "BGC" | "GBC" => some []
  | "DDE" | "TDE" | "CDC" | "XCDC" => some (crossing type)
  | "RF" | "RFSP" | "XHRF" | "XWRF" | "XPRF" =>
    some [.text "context" "mem_ctxt" "", .flag "wck_edge" false]
  | "FIFO" | "XHFIFO" | "XWFIFO" => some (queue type)
  | _ => none

/-- A waveform generator that only passes a clock on. -/
def unusedGenerator : Std.ExtTreeMap String Document :=
  Std.ExtTreeMap.ofList [("mode", Document.int 0), ("delay_on", Document.bool false),
    ("delay", Document.int 0), ("wfg_edge", Document.bool false)]

/-- A phase-locked loop that only passes a clock on. -/
def unusedLoop : Std.ExtTreeMap String Document :=
  Std.ExtTreeMap.ofList [("use_pll", Document.bool false), ("ref_osc_on", Document.bool false),
    ("ext_fbk_on", Document.bool false)]

end UltraFabric.Image
