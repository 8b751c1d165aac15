import Mathlib.Data.Int.ConditionallyCompleteOrder
import Std.Data.ExtTreeMap

/-!
# Telemetry and threshold rules

The engine's event model, its stateless rule engine and the part of its
configuration the rules read. Readings and limits are binary64; instants are
nanoseconds, the zero instant being `time.Time{}`.
-/
namespace OpenOntology.Resolution

abbrev Time := Int
abbrev Duration := Int

def zeroTime : Time := 0

/-- `time.Time.Sub`, which saturates at the ends of a 64-bit duration. -/
def timeSub (a b : Time) : Duration := max (-2 ^ 63) (min (2 ^ 63 - 1) (a - b))

/-- `identifierPattern`: an alphanumeric character and up to 127 more, which may
also be a dot, an underscore or a dash. -/
def identifierPattern (s : String) : Bool :=
  match s.toList with
  | [] => false
  | first :: rest =>
    first.isAlphanum && rest.length ≤ 127 &&
      rest.all fun c => c.isAlphanum || c == '.' || c == '_' || c == '-'

inductive Severity where
  | info
  | high
  | critical
  deriving DecidableEq, Repr

def Severity.rank : Severity → Nat
  | .critical => 3
  | .high => 2
  | .info => 1

structure TelemetryEvent where
  assetID : String
  sensorID : String
  value : Float
  unit : String := ""
  timestamp : Time

namespace TelemetryEvent

/-- `Validate` reports no error. -/
def validate (e : TelemetryEvent) : Bool :=
  identifierPattern e.assetID && identifierPattern e.sensorID &&
    !(e.value.isNaN || e.value.isInf) && e.timestamp != zeroTime

end TelemetryEvent

def twinKey (assetID sensorID : String) : String := "twin:" ++ assetID ++ ":" ++ sensorID

def TelemetryEvent.cacheKey (e : TelemetryEvent) : String := twinKey e.assetID e.sensorID

def alarmKey (assetID sensorID : String) : String := "twinalarm:" ++ assetID ++ ":" ++ sensorID

/-- A single "greater than" anomaly rule. -/
structure Threshold where
  ruleID : String
  sensorID : String
  limit : Float
  unit : String := ""
  description : String := ""

structure RuleEvaluation where
  threshold : Threshold
  observed : Float
  breached : Bool := false
  severity : Severity := .info
  exceededBy : Float := 0
  exceededPct : Float := 0

/-- The settings the rules and the tracker are built from. -/
structure RuleConfig where
  thresholds : Std.ExtTreeMap String Threshold
  criticalRatio : Float
  hysteresisRatio : Float
  reAlertInterval : Duration

namespace RuleConfig

/-- The checks `Config.Validate` makes on these settings, with its messages. -/
def validate (c : RuleConfig) : List String :=
  (if c.criticalRatio < 0 then ["RULE_CRITICAL_RATIO must be >= 0"] else []) ++
    (if c.hysteresisRatio < 0 ∨ c.hysteresisRatio ≥ 1 then
      ["RULE_HYSTERESIS_RATIO must be in [0, 1)"] else []) ++
    c.thresholds.toList.filterMap fun entry =>
      if entry.2.limit ≤ 0 then some ("threshold " ++ entry.2.ruleID ++ " must be > 0") else none

theorem limit_of_validate {c : RuleConfig} (accepted : c.validate = []) {sensorID : String}
    {threshold : Threshold} (rule : c.thresholds[sensorID]? = some threshold) :
    ¬threshold.limit ≤ 0 := by
  unfold validate at accepted
  rw [List.append_eq_nil_iff, List.filterMap_eq_nil_iff] at accepted
  have checked := accepted.2 (sensorID, threshold)
    (Std.ExtTreeMap.mem_toList_iff_getElem?_eq_some.mpr rule)
  intro low
  rw [if_pos low] at checked
  cases checked

end RuleConfig

structure RuleEngine where
  thresholds : Std.ExtTreeMap String Threshold
  criticalRatio : Float

def newRuleEngine (cfg : RuleConfig) : RuleEngine := ⟨cfg.thresholds, cfg.criticalRatio⟩

namespace RuleEngine

/-- The verdict of one rule on one reading. -/
def judge (criticalRatio : Float) (threshold : Threshold) (value : Float) : RuleEvaluation :=
  if value ≤ threshold.limit then { threshold, observed := value }
  else
    let exceededBy := value - threshold.limit
    let exceededPct := if threshold.limit != 0 then exceededBy / threshold.limit.abs else 0
    { threshold, observed := value, breached := true, exceededBy, exceededPct
      severity := if exceededPct ≥ criticalRatio then .critical else .high }

/-- Nothing when no rule governs the sensor. -/
def evaluate (r : RuleEngine) (ev : TelemetryEvent) : Option RuleEvaluation :=
  match r.thresholds[ev.sensorID]? with
  | none => none
  | some threshold => some (judge r.criticalRatio threshold ev.value)

end RuleEngine

/-- What holds of every verdict: it breaches exactly above the limit, and only a
breach has a severity above the lowest. -/
structure RuleEvaluation.Judged (eval : RuleEvaluation) : Prop where
  breached : eval.breached = true ↔ ¬eval.observed ≤ eval.threshold.limit
  quiet : eval.breached = false → eval.severity = .info
  loud : eval.breached = true → Severity.info.rank < eval.severity.rank

theorem severity_of_breach (p : Prop) [Decidable p] :
    Severity.info.rank < (if p then Severity.critical else Severity.high).rank := by
  split <;> decide

theorem judge_judged (criticalRatio : Float) (threshold : Threshold) (value : Float) :
    (RuleEngine.judge criticalRatio threshold value).Judged ∧
      (RuleEngine.judge criticalRatio threshold value).threshold = threshold ∧
      (RuleEngine.judge criticalRatio threshold value).observed = value := by
  unfold RuleEngine.judge
  by_cases within : value ≤ threshold.limit
  · rw [if_pos within]
    refine ⟨⟨?_, fun _ => rfl, ?_⟩, rfl, rfl⟩
    · simp [within]
    · intro impossible
      cases impossible
  · rw [if_neg within]
    refine ⟨⟨?_, ?_, fun _ => ?_⟩, rfl, rfl⟩
    · simp [within]
    · intro impossible
      cases impossible
    · exact severity_of_breach _

theorem RuleEngine.evaluate_judged {r : RuleEngine} {ev : TelemetryEvent} {eval : RuleEvaluation}
    (verdict : r.evaluate ev = some eval) : eval.Judged := by
  unfold RuleEngine.evaluate at verdict
  split at verdict
  next => cases verdict
  next =>
    cases verdict
    exact (judge_judged _ _ _).1

end OpenOntology.Resolution
