import HubScript.Value.Basic

/-!
# Settings

What a reader of a program can choose. A setting that is given counts by its truth; settings that
are not known are ignored.
-/
namespace HubScript.Hub

structure Settings where
  /-- Motor speeds are percentages, turned into degrees per second by a helper. -/
  percentSpeeds : Bool
  distanceHelper : Bool
  portNote : Bool
  deriving DecidableEq, Repr

namespace Settings

def standard : Settings := ⟨true, true, true⟩

/-- The standard settings with some of them overridden. -/
def ofOverrides (overrides : List (String × Value)) : Settings :=
  let setting (name : String) (standard : Bool) : Bool :=
    ((overrides.lookup name).map Value.truth).getD standard
  { percentSpeeds := setting "convert_percent_to_dps" standard.percentSpeeds
    distanceHelper := setting "include_distance_helper" standard.distanceHelper
    portNote := setting "include_port_config_note" standard.portNote }

end Settings

end HubScript.Hub
