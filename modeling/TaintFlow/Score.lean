import TaintFlow.Number.Amount

/-!
# The feasibility of a path

How likely a reported path is a real flow, between zero and one. Steps through unknown code, length
and merge points lower the score; other paths for the same flow raise it. Scores only rank findings.
-/

namespace TaintFlow

/-- A limit of a configuration, as a whole number; `default` when it is not set. -/
def limitOf (config : Document) (name : String) (default : Int) : Result Int :=
  if config.isTruthy then do
    match ← ((← config.get? "limits").getD (.object [])).get? name with
    | some value => value.toWhole
    | none => .ok default
  else .ok default

inductive Confidence where
  | high
  | medium
  | low
deriving DecidableEq, Repr

namespace Confidence

def name : Confidence → String
  | high => "high"
  | medium => "medium"
  | low => "low"

/-- The least score of high confidence. -/
def highFrom : Amount := .real 0.75

/-- The least score of medium confidence. -/
def mediumFrom : Amount := .real 0.45

/-- The confidence that a score stands for. -/
def ofScore (score : Amount) : Confidence :=
  if score.isAbove highFrom || score.equals highFrom then .high
  else if score.isAbove mediumFrom || score.equals mediumFrom then .medium
  else .low

end Confidence

structure Scorer where
  unknownPenalty : Float
  minUnknownFactor : Float
  longPathPenalty : Float
  corroborationBonus : Float
  maxCorroborationBonus : Float
  pathLengthCeiling : Int
  mergeCountCeiling : Int

/-- What is scored about a path. The values stand as they were given; one that is not a number is a
fault where it is needed. -/
structure Evidence where
  unknownHops : Document := .whole 0
  pathLength : Document := .whole 0
  mergeCount : Document := .whole 0
  corroborating : Document := .whole 0

namespace Evidence

/-- The evidence under the names of a document, of which no other is known. -/
def ofDocument (d : Document) : Result Evidence :=
  match d with
  | .object fields => fields.foldlM (fun e (name, value) =>
    match name with
    | "unknown_hops" => .ok { e with unknownHops := value }
    | "path_length" => .ok { e with pathLength := value }
    | "merge_count" => .ok { e with mergeCount := value }
    | "corroborating_paths" => .ok { e with corroborating := value }
    | _ => .error .wrongKind) {}
  | _ => .error .wrongKind

end Evidence

namespace Scorer

/-- A section of a configuration that may be absent. -/
def section? (config : Document) (name : String) : Result Document :=
  if config.isTruthy then do return (← config.get? name).getD (.object [])
  else .ok (.object [])

def realOf (values : Document) (name : String) (default : Float) : Result Float := do
  match ← values.get? name with
  | some value => value.toReal
  | none => .ok default

def wholeOf (values : Document) (name : String) (default : Int) : Result Int := do
  match ← values.get? name with
  | some value => value.toWhole
  | none => .ok default

def ofConfig (config : Document) : Result Scorer := do
  let scoring ← section? config "scoring"
  let limits ← section? config "limits"
  return {
    unknownPenalty := ← realOf scoring "unknown_penalty" 0.6
    minUnknownFactor := ← realOf scoring "min_unknown_factor" 0.1
    longPathPenalty := ← realOf scoring "long_path_penalty" 0.9
    corroborationBonus := ← realOf scoring "corroboration_bonus" 0.05
    maxCorroborationBonus := ← realOf scoring "max_corroboration_bonus" 0.15
    pathLengthCeiling := ← wholeOf limits "path_length_ceiling" 16
    mergeCountCeiling := ← wholeOf limits "merge_count_ceiling" 4 }

/-- The greater of two numbers, the first unless the second is greater. -/
def greater (a b : Float) : Float := if b > a then b else a

/-- The smaller of two numbers, the first unless the second is smaller. -/
def smaller (a b : Float) : Float := if b < a then b else a

/-- Whether a number has no fraction. -/
def isWhole (x : Float) : Bool := x.floor == x

/-- Whether a power can be greater than one: the base is, or the exponent is negative. -/
def mayGrow (x : Float) (exponent : Amount) : Bool :=
  x > 1.0 || x < -1.0 || exponent.isBelow (.whole 0)

/-- A power. A negative number has only whole powers, and zero no negative one; a finite number with
an infinite power overflows, unless the exponent is infinite itself. -/
def power (x : Float) (exponent : Amount) : Result Float := do
  let y ← exponent.toReal
  let finite := !x.isInf && !y.isInf
  if finite && x == 0.0 && y < 0.0 then .error .zeroPower
  else if finite && x < 0.0 && !y.isNaN && !isWhole y then .error .wrongKind
  else
    let z := Float.pow x y
    if finite && mayGrow x exponent && z.isInf then .error (.overflow .power) else .ok z

/-- Whether a value of the evidence is greater than a limit. -/
def exceeds (value : Document) (limit : Int) : Result Bool := do
  return (← value.amount).isAbove (.whole limit)

/-- A score lowered by the steps through unknown code. -/
def penalize (s : Scorer) (e : Evidence) (value : Float) : Result Float := do
  if e.unknownHops.isTruthy then
    return value * greater s.minUnknownFactor (← power s.unknownPenalty (← e.unknownHops.amount))
  else return value

/-- A score raised by the other paths. -/
def corroborate (s : Scorer) (e : Evidence) (value : Float) : Result Float := do
  if ← exceeds e.corroborating 0 then
    let count ← (← e.corroborating.amount).toReal
    return value + smaller s.maxCorroborationBonus (s.corroborationBonus * count)
  else return value

/-- The score of a path, with four places. -/
def score (s : Scorer) (e : Evidence) : Result Float := do
  let value ← s.penalize e 1.0
  let value := if ← exceeds e.pathLength s.pathLengthCeiling then value * s.longPathPenalty else value
  let value := if ← exceeds e.mergeCount s.mergeCountCeiling then value * s.longPathPenalty else value
  let value ← s.corroborate e value
  return roundPlaces 4 (smaller 1.0 (greater 0.0 value))

end Scorer

end TaintFlow
