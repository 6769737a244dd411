/-
# UltraFabric.Primitive — the primitives of NG-Ultra

The names of cell types, of their clock ports and of special wires, in the order in which every
lexicon of a design begins (`Lexicon.ofPrimitives`), and the families whose members may stand in for
each other: a cell fits on a bel when both types fall into one bucket (`bucket`).
-/
import UltraFabric.Lexicon

namespace UltraFabric.Primitive

set_option autoImplicit false

def cellTypes : List Name :=
  ["BEYOND_FE", "IOP", "IP", "OP", "IOTP", "ITP", "OTP", "IOM", "DFR", "DDFR", "BFR", "CY", "XLUT",
    "GCK", "WFB", "WFG", "PLL", "RAM", "DSP", "RF", "RFSP", "XHRF", "XWRF", "XPRF", "FIFO", "XHFIFO",
    "XWFIFO", "DDE", "TDE", "CDC", "BGC", "GBC", "XCDC"]

def clockPorts : List Name :=
  ["CK", "CKF", "WCK", "RCK", "ACK", "BCK", "CK1", "CK2", "SI1", "SI2", "CMD", "SO", "ZI", "ZO",
    "REF", "FBK", "CKO1", "CKO2", "FCK1", "FCK2", "CLK_O", "CLK_DIV1", "CLK_DIV2", "CLK_DIV3",
    "CLK_DIV4", "CLK_DIVD1", "CLK_DIVD2", "CLK_DIVD3", "CLK_DIVD4", "CLK_DIVD5", "CLK_CAL",
    "CLK_CAL_DIV", "OSC"]

def wireTypes : List Name :=
  ["LUT_PERMUTATION_WIRE", "MUX_WIRE", "INTERCONNECT_INPUT"]

/-- Pads. They share one bucket and the voltage of their bank. -/
def pads : List Name :=
  ["IOP", "IP", "OP", "IOTP", "ITP", "OTP"]

def isPad (type : Name) : Bool :=
  pads.contains type

/-- Clock domain crossings, delays and code converters. -/
def crossings : List Name :=
  ["DDE", "TDE", "CDC", "BGC", "GBC", "XCDC"]

def queues : List Name :=
  ["FIFO", "XHFIFO", "XWFIFO"]

def registerFiles : List Name :=
  ["RF", "RFSP", "XHRF", "XWRF", "XPRF"]

/-- The type that stands for all types of a family. -/
def bucket (type : Name) : Name :=
  if isPad type then "IOP"
  else if crossings.contains type then "CDC"
  else if queues.contains type then "FIFO"
  else if registerFiles.contains type then "RF"
  else type

/-- The dedicated ports through which a multiplier takes the result of its neighbour. -/
def isCascadeInput (port : Name) : Bool :=
  ["CAI", "CBI", "CCI", "CZI"].any fun start => start.toList.isPrefixOf port.toList

/-- The dedicated ports through which a multiplier passes its result on. -/
def isCascadeOutput (port : Name) : Bool :=
  ["CAO", "CBO", "CCO", "CZO"].any fun start => start.toList.isPrefixOf port.toList

end UltraFabric.Primitive

namespace UltraFabric

/-- The lexicon with which every design begins. -/
def Lexicon.ofPrimitives : Lexicon :=
  Lexicon.fresh.mentionAll (Primitive.cellTypes ++ Primitive.clockPorts ++ Primitive.wireTypes)

end UltraFabric
