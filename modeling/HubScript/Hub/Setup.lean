/-!
# The hub and what is plugged into it

The ports of motors and sensors, the modules that sensors need, and the notes for the reader of a
program.
-/
namespace HubScript.Hub

/-- The ports of the motors that have one of their own. -/
def motorPorts : List (String × String) :=
  [("motor_left", "port.A"), ("motor_right", "port.B"), ("motor_fl", "port.A"),
    ("motor_fr", "port.B"), ("motor_bl", "port.C"), ("motor_br", "port.D"),
    ("motor_a", "port.A"), ("motor_b", "port.B"), ("motor_c", "port.C"), ("motor_d", "port.D")]

/-- The port of a motor. Unknown motors are on the first one. -/
def motorPort (name : String) : String := (motorPorts.lookup name).getD "port.A"

/-- Whether each of these motors turns backwards, which is none of them. -/
def motorDirections : List (String × Bool) :=
  [("motor_left", false), ("motor_right", false), ("motor_fl", false), ("motor_fr", false),
    ("motor_bl", false), ("motor_br", false), ("motor_a", false), ("motor_b", false),
    ("motor_c", false), ("motor_d", false)]

/-- Whether a motor turns backwards. Unknown motors do not. -/
def motorReversed (name : String) : Bool := (motorDirections.lookup name).getD false

def sensorPorts : List (String × String) :=
  [("color_sensor", "port.E"), ("distance_sensor", "port.F"), ("ir_seeker", "port.C")]

def sensorPort (name : String) : String := (sensorPorts.lookup name).getD "port.E"

/-- The sensors of a simulated robot. -/
inductive Sensor where
  | color
  | distance
  | gyro
  | ir
  deriving DecidableEq, Repr

namespace Sensor

def name : Sensor → String
  | .color => "color_sensor"
  | .distance => "distance_sensor"
  | .gyro => "gyro_sensor"
  | .ir => "ir_sensor"

/-- The line that makes a sensor known. The infrared seeker is read as a color sensor. -/
def importLine : Sensor → String
  | .color => "import color_sensor"
  | .distance => "import distance_sensor"
  | .gyro => "from hub import motion_sensor"
  | .ir => "import color_sensor"

end Sensor

/-- The motor speed, in degrees per second, of a hundred percent. -/
def fullSpeed : Nat := 720

def irNotes : List String :=
  ["# IR Seeker Setup:",
    "# Building Block Robotics IR Seeker appears as a color sensor",
    "# Direction (1-12): Clock positions, where 12 = straight ahead",
    "# Strength: Signal strength (higher = closer/stronger signal)",
    "# See: https://irseeker.buildingblockrobotics.com/guides/spike-prime"]

def portNotes : List String :=
  ["# IMPORTANT: Configure ports and directions below to match your robot",
    "# If a motor runs backwards, change its REVERSED flag to True"]

def distanceNotes : List String :=
  ["# Distance sensor helper: Returns distance in cm (like Word Blocks)",
    "# Spike Prime Python returns mm and -1 when nothing detected",
    "# We convert to cm and return 200 when nothing detected"]

/-- Turns a percentage into a speed. -/
def speedHelper : List String :=
  ["# Helper function for motor control",
    "def percent_to_dps(percent, reversed=False):",
    "    \"\"\"Convert -100 to 100% to degrees per second, applying direction.\"\"\"",
    "    # Clamp to -100 to 100 range",
    s!"    speed = int(max(-100, min(100, percent)) * {fullSpeed} / 100)",
    "    return -speed if reversed else speed"]

/-- Reads the distance in centimetres. -/
def distanceHelper : List String :=
  distanceNotes ++
    ["def get_distance():",
      "    \"\"\"Get distance in cm, returns 200 when nothing detected.\"\"\"",
      "    dist = distance_sensor.distance(DISTANCE_SENSOR)",
      "    if dist == -1:",
      "        return 200",
      "    return dist / 10"]

end HubScript.Hub
