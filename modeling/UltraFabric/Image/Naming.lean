/-
# UltraFabric.Image.Naming — names in the configuration image

The image knows the wires of fences and tiles by other names than the device does, and names of
instances carry no dollar signs.
-/
import UltraFabric.Text.Chars
import UltraFabric.TileNames

namespace UltraFabric.Image

set_option autoImplicit false

/-- A name in which every dollar sign has become an underscore. -/
def plainName (name : String) : String :=
  Text.replaceAll "$" "_" name

/-- Whether the side of a fence stands before the closing bracket: top, bottom, upper or lower. -/
def endsInSide (bank : List Char) : Bool :=
  match bank.reverse with
  | last :: side :: _ => last.utf8Size = 1 && ['T', 'B', 'U', 'L'].contains side
  | _ => false

/-- The columns in the name of a fence, from the opening bracket to the first `x`. -/
def fenceColumns? (bank : List Char) : Option (List Char) :=
  if "FENCE[".toList.isPrefixOf bank && endsInSide bank && bank.contains 'x' then
    some ((bank.drop 6).takeWhile (· ≠ 'x') ++ ['x'])
  else none

/-- What stands behind the last point of a name, or all of it. -/
def lastPart (name : List Char) : List Char :=
  match Text.splitAtLast? '.' name with
  | some (_, last) => last
  | none => name

/-- The name of a wire of a functional element: its lookup table and its flip-flop have names of
their own. -/
def elementWireName (name : String) : String :=
  match lastPart name.toList with
  | 'D' :: _ => Text.replaceAll ".FE" ".DFF" (Text.replaceAll ".D" "." name)
  | ['L'] | ['R'] | ['C', 'K'] => Text.replaceAll ".FE" ".DFF" name
  | 'L' :: _ => Text.replaceAll ".FE" ".LUT" (Text.replaceAll ".L" "." name)
  | 'P' :: _ => Text.replaceAll ".FE" ".LUT" (Text.replaceAll ".PI" ".I" name)
  | _ => name

/-- The name of a wire of a tile in the image. -/
def wireName (tile name : String) : String :=
  let bank := withoutTileType tile
  match fenceColumns? bank.toList with
  | some columns => Text.replaceAll "1x" (String.ofList columns) name
  | none =>
    if Text.startsWith "TILE[" bank && Text.contains ".FE" name then elementWireName name else name

end UltraFabric.Image
