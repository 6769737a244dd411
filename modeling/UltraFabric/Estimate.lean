/-
# UltraFabric.Estimate — routing boxes and delays

Estimates for a router, from coordinates alone. A routing box is widened to full squares of four by
four tiles before the margin is added. Coordinates may be asked of tiles beyond the grid, but not on
a grid without columns.
-/
import UltraFabric.Plan

namespace UltraFabric

set_option autoImplicit false

namespace Plan

/-- The multiple of four at or below a number. -/
def floorToFour (n : Int) : Int :=
  n - n % 4

/-- The largest number with the same multiple of four below it. -/
def ceilToFour (n : Int) : Int :=
  floorToFour n + 3

/-- A box widened to full squares and then by a margin, as far as the grid reaches. -/
def widen (device : Device) (margin : Int) (box : TileBox) : TileBox where
  x0 := max (floorToFour box.x0 - margin) 0
  y0 := max (floorToFour box.y0 - margin) 0
  x1 := min (ceilToFour box.x1 + margin) (device.width - 1)
  y1 := min (ceilToFour box.y1 + margin) (device.height - 1)

/-- The least box around the tiles of some wires. -/
def boxAround (device : Device) (first : WireId) (wires : List WireId) : TileBox :=
  wires.foldl (fun box wire =>
      let (x, y) := device.chip.tileXY wire.tile
      box.extend x y)
    (TileBox.around (device.chip.tileXY first.tile).1 (device.chip.tileXY first.tile).2)

/-- The box in which a router may look for a way from one wire to another. -/
def routingBox (plan : Plan) (source target : WireId) : Answer TileBox :=
  let device := plan.device
  let source := device.canonical source
  let target := device.canonical target
  if device.chip.width = 0 then .error .emptyGrid
  else
    .ok (widen device plan.fabric.options.boxMargin
      (boxAround device source (device.members source ++ device.members target)))

/-- The delay over a number of columns and rows. -/
def distanceDelay (options : Options) (dx dy : Int) : Int :=
  options.delayBase + options.delayPerX * dx.natAbs + options.delayPerY * dy.natAbs

/-- An estimate of the delay between two wires. -/
def estimateDelay (plan : Plan) (source target : WireId) : Answer Int :=
  let device := plan.device
  let source := device.canonical source
  let target := device.canonical target
  if source = target then .ok 0
  else if source.tile = target.tile then .ok plan.fabric.options.delayLocal
  else
    match device.tileXY source.tile, device.tileXY target.tile with
    | .ok (sx, sy), .ok (tx, ty) => .ok (distanceDelay plan.fabric.options (tx - sx) (ty - sy))
    | _, _ => .error .emptyGrid

/-- The delay to expect between two pins of bels. -/
def predictDelay (plan : Plan) (source : BelId) (sourcePin : Name) (target : BelId)
    (targetPin : Name) : Answer Int :=
  if plan.fabric.tables.cascade[source]? = some target ∧
      Primitive.isCascadeOutput sourcePin ∧ Primitive.isCascadeInput targetPin then
    .ok plan.fabric.options.delayCascade
  else if source.tile = target.tile then .ok plan.fabric.options.delayLocal
  else
    match plan.device.location? source, plan.device.location? target with
    | some a, some b => .ok (distanceDelay plan.fabric.options (b.x - a.x) (b.y - a.y))
    | _, _ => .error .outOfRange

end Plan

end UltraFabric
