/-
# UltraFabric.Legality.Multiplexer — settings read off the routing

A pin that is fed through a multiplexer has the setting of the pip that drives its wire.
-/
import UltraFabric.Layout

namespace UltraFabric

set_option autoImplicit false

namespace Layout

/-- The input of the multiplexer that drives a wire, if one does. -/
def wireSetting? (layout : Layout) (wire : WireId) : Option Nat :=
  (layout.device.entering wire).findSome? fun arc =>
    match layout.pipNet? arc.pip, arc.info.detail with
    | some _, some detail => if detail.kind = .mux then some detail.input else none
    | _, _ => none

/-- The input of the multiplexer that feeds a port of a bel, if one does. -/
def portSetting? (layout : Layout) (bel : BelId) (port : Name) : Option Nat :=
  (layout.device.pinWire? bel port).bind layout.wireSetting?

/-- `portSetting?` for any id. -/
def settingAt? (layout : Layout) (bel : BelId) (port : Name) : Answer (Option Nat) :=
  if layout.device.isBel bel then .ok (layout.portSetting? bel port) else .error .outOfRange

end Layout

end UltraFabric
