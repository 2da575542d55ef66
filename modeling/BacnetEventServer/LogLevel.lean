import Mathlib.Tactic.IntervalCases
import BacnetEventServer.Logging
import BacnetEventServer.KurrentDb

namespace BacnetEventServer

/-- `strcasecmp(a, b) == 0`: the same bytes up to ASCII case. -/
def strcasecmpEq (a b : CStr) : Bool := a.map Json.toLowerByte == b.map Json.toLowerByte

/-- `log_level_from_string`. -/
def logLevelFromString : Option CStr → Nat
  | none => 2
  | some s =>
    if strcasecmpEq s (lit "trace") then 0
    else if strcasecmpEq s (lit "debug") then 1
    else if strcasecmpEq s (lit "info") then 2
    else if strcasecmpEq s (lit "warn") || strcasecmpEq s (lit "warning") then 3
    else if strcasecmpEq s (lit "error") then 4
    else if strcasecmpEq s (lit "fatal") then 5
    else if strcasecmpEq s (lit "off") then 6
    else 2

/-- `log_level_to_string`. -/
def logLevelToString (level : Int) : CStr :=
  if 0 ≤ level ∧ level ≤ 6 then levelName level.toNat else lit "UNKNOWN"

/-- `log_level_from_string` sees a text only up to ASCII case. -/
theorem logLevelFromString_of_lower {s t : CStr}
    (h : s.map Json.toLowerByte = t.map Json.toLowerByte) :
    logLevelFromString (some s) = logLevelFromString (some t) := by
  simp only [logLevelFromString, strcasecmpEq, h]

/-- `log_level_from_string` reads back what `log_level_to_string` prints, in any case. -/
theorem logLevelFromString_toString (level : Int) {s : CStr}
    (hs : s.map Json.toLowerByte = (logLevelToString level).map Json.toLowerByte) :
    logLevelFromString (some s) = if 0 ≤ level ∧ level ≤ 6 then level.toNat else 2 := by
  rw [logLevelFromString_of_lower hs]
  by_cases hrange : 0 ≤ level ∧ level ≤ 6
  · obtain ⟨n, rfl⟩ := Int.eq_ofNat_of_zero_le hrange.1
    have hn : n ≤ 6 := by omega
    interval_cases n <;> decide
  · rw [logLevelToString, if_neg hrange, if_neg hrange]
    decide

end BacnetEventServer
