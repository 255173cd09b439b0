import HubScript.Text.Occurrence
import HubScript.Value.Basic
import HubScript.Value.Failure

/-!
# Sensor phrases

A simulated robot and the hub read their sensors in different words. Expressions are carried over
by replacing the phrases of the one by those of the other, one kind after the other.
-/
namespace HubScript.Hub

/-- Replaces every occurrence of a phrase, from the left; `skip` characters are passed over. -/
def replaceFrom (old new : List Char) : Nat → List Char → List Char
  | _, [] => []
  | skip + 1, _ :: rest => replaceFrom old new skip rest
  | 0, c :: rest =>
    if old.isPrefixOf (c :: rest) then new ++ replaceFrom old new (old.length - 1) rest
    else c :: replaceFrom old new 0 rest

/-- Replaces every occurrence of a phrase that is not empty. -/
def replaceAll (old new text : List Char) : List Char := replaceFrom old new 0 text

/-- The phrases of a simulated robot with those of the hub, in the order of replacement. -/
def phrases : List (String × String) :=
  [("distance_sensor.get_distance()", "get_distance()"),
    ("distance_sensor.get_distance_cm()", "get_distance()"),
    ("color_sensor.get_reflected_light()", "color_sensor.reflection(COLOR_SENSOR)"),
    ("color_sensor.get_color()", "color_sensor.color(COLOR_SENSOR)"),
    ("ir_sensor.get_direction()", "color_sensor.rgbi(IR_SEEKER_PORT)[1]"),
    ("ir_sensor.get_strength()", "color_sensor.rgbi(IR_SEEKER_PORT)[2]"),
    ("gyro_sensor.get_angle()", "motion_sensor.tilt_angles()[0]"),
    ("gyro_sensor.get_rate()", "motion_sensor.angular_velocity(motion_sensor.YAW)")]

/-- An expression in the words of the hub. -/
def toHub (expression : String) : String :=
  String.ofList (phrases.foldl
    (fun text (old, new) => replaceAll old.toList new.toList text) expression.toList)

/-- Whether a text mentions a phrase. -/
def mentions (text phrase : String) : Bool := Text.occursIn phrase.toList text.toList

/-- A value in the words of the hub, if it is a text. -/
def valueToHub : Value → Except Failure String
  | .str s => .ok (toHub s)
  | .bytes _ => .error (.bytesReplace "str")
  | v => .error (.noAttribute v.typeName "replace")

end HubScript.Hub
