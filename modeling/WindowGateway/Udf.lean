import WindowGateway.Builtin.Fraud
import WindowGateway.Builtin.Score
import WindowGateway.Builtin.Uppercase
import WindowGateway.Handler

/-! The functions that the gateway can serve by name. -/

namespace WindowGateway

inductive Udf
  | teamScore
  | userScore
  | fraudDetection
  | uppercase
  deriving DecidableEq, Repr

namespace Udf

def all : List Udf := [teamScore, userScore, fraudDetection, uppercase]

def name : Udf → String
  | teamScore => "team-score"
  | userScore => "user-score"
  | fraudDetection => "fraud-detection"
  | uppercase => "uppercase"

/-- Whether two texts are the same but for the case of ASCII letters. -/
def sameName (a b : String) : Bool := a.toList.map Char.toLower == b.toList.map Char.toLower

/-- The function with the given name; the case of ASCII letters and the blanks around the name play
no part. -/
def ofName? (name : String) : Option Udf := all.find? (sameName ·.name (Text.trim name))

def unknownMessage (name : String) : String :=
  s!"unknown UDF '{name}', expected one of: " ++ ", ".intercalate (all.map Udf.name)

/-- The handler of a function. Only the detection of fraud has a threshold. -/
def handler (threshold : Nat) : Udf → Handler
  | teamScore => .aggregator { accumulate := Builtin.teamScore.accumulate }
  | userScore => .aggregator { accumulate := Builtin.userScore.accumulate }
  | fraudDetection =>
    .aggregator
      { accumulate := Builtin.authorizationCount.accumulate,
        finalize := Builtin.fraudThreshold threshold }
  | uppercase => .mapper Builtin.uppercaseMap

end Udf

end WindowGateway
