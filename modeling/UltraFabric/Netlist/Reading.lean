/-
# UltraFabric.Netlist.Reading — cells from documents

The fields of a cell and of its ports, with the values they have when they are left out.
-/
import UltraFabric.Chip.Reading
import UltraFabric.Netlist

namespace UltraFabric

set_option autoImplicit false

open Reader

def Port.read : Document → Reader Port :=
  record ["dir"] ⟨.input, none⟩ fun
    | "dir" => some fun document port => do
      return { port with direction := ← PinDirection.read document }
    | "net" => some fun document port => do
      return { port with net := ← optional Reader.name document }
    | _ => none

def Cell.read : Document → Reader Cell :=
  record ["name", "type"] (Cell.bare "" "") fun
    | "name" => some fun document cell => do return { cell with name := ← Reader.name document }
    | "type" => some fun document cell => do return { cell with type := ← Reader.name document }
    | "ports" => some fun document cell => do
      return { cell with ports := ← table Port.read document }
    | "params" => some fun document cell => do
      return { cell with params := ← table Property.read document }
    | "bel" => some fun document cell => do return { cell with bel := ← optional Id.read document }
    | "constr_bel" => some fun document cell => do
      return { cell with required := ← optional Id.read document }
    | "cluster" => some fun document cell => do
      return { cell with cluster := ← optional Reader.name document }
    | "constr_children" => some fun document cell => do
      return { cell with children := ← list Reader.name document }
    | "constr_x" => some fun document cell => do
      return { cell with offset := { cell.offset with x := ← coordinate document } }
    | "constr_y" => some fun document cell => do
      return { cell with offset := { cell.offset with y := ← coordinate document } }
    | "constr_z" => some fun document cell => do
      return { cell with offset := { cell.offset with z := ← coordinate document } }
    | "constr_abs_z" => some fun document cell => do
      return { cell with absoluteZ := ← bool document }
    | _ => none

/-- The cells of a netlist file. -/
def Netlist.readCells : Document → Reader (List Cell) :=
  record ["cells"] [] fun
    | "cells" => some fun document _ => list Cell.read document
    | _ => none

end UltraFabric
