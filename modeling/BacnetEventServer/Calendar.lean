import BacnetEventServer.Timestamp

namespace BacnetEventServer

def yearLength (y : Int) : Int := if isLeapYear y then 366 else 365

/-- The lengths of the months of a common or a leap year. -/
def monthLengths (leap : Bool) : List Nat :=
  [31, if leap then 29 else 28, 31, 30, 31, 30, 31, 31, 30, 31, 30, 31]

def daysInMonth (y : Int) (m : Nat) : Nat := (monthLengths (isLeapYear y)).getD (m - 1) 0

/-- Days from 1970-01-01 to the first day of year `y`: the lengths of the years between,
counted negatively before 1970. -/
def daysToYear (y : Int) : Int :=
  if 1970 ≤ y then ((List.range (y - 1970).toNat).map fun i : Nat => yearLength (1970 + i)).sum
  else -((List.range (1970 - y).toNat).map fun i : Nat => yearLength (y + i)).sum

/-- Days of year `y` before month `m`. -/
def daysToMonth (y : Int) (m : Nat) : Nat := ((monthLengths (isLeapYear y)).take (m - 1)).sum

/-- The seconds from 1970-01-01T00:00:00 to the given date and time. -/
def epochSeconds (y : Int) (m d h mi s : Nat) : Int :=
  (((daysToYear y + daysToMonth y m + d - 1) * 24 + h) * 60 + mi) * 60 + s

/-- The days `timegm` counts from 1970 to the first day of year `y`. -/
def glibcDays (y : Int) : Int := 365 * (y - 1970) + (leapDaysBefore y - leapDaysBefore 1970)

theorem leapDaysBefore_succ (y : Int) :
    leapDaysBefore (y + 1) = leapDaysBefore y + if isLeapYear y then 1 else 0 := by
  have h4 : y / 4 = (y - 1) / 4 + if y % 4 = 0 then 1 else 0 := by split_ifs <;> omega
  have h100 : y / 100 = (y - 1) / 100 + if y % 100 = 0 then 1 else 0 := by split_ifs <;> omega
  have h400 : y / 400 = (y - 1) / 400 + if y % 400 = 0 then 1 else 0 := by split_ifs <;> omega
  have hleap : ((if y % 4 = 0 then 1 else 0) - (if y % 100 = 0 then 1 else 0) +
      (if y % 400 = 0 then 1 else 0) : Int) = if isLeapYear y then 1 else 0 := by
    by_cases c : y % 400 = 0
    · have b : y % 100 = 0 := by omega
      have a : y % 4 = 0 := by omega
      simp [isLeapYear, a, b, c]
    · by_cases b : y % 100 = 0
      · have a : y % 4 = 0 := by omega
        simp [isLeapYear, a, b, c]
      · by_cases a : y % 4 = 0 <;> simp [isLeapYear, a, b, c]
  unfold leapDaysBefore
  rw [add_sub_cancel_right, h4, h100, h400, ← hleap]
  ring

theorem glibcDays_succ (y : Int) : glibcDays (y + 1) = glibcDays y + yearLength y := by
  unfold glibcDays yearLength
  rw [leapDaysBefore_succ]
  split_ifs <;> ring

theorem sum_yearLength (a : Int) (n : Nat) :
    ((List.range n).map fun i : Nat => yearLength (a + i)).sum =
      glibcDays (a + n) - glibcDays a := by
  induction n with
  | zero => simp
  | succ n ih =>
    rw [List.range_succ, List.map_append, List.sum_append, ih, Nat.cast_succ, ← add_assoc,
      glibcDays_succ]
    simp only [List.map_cons, List.map_nil, List.sum_cons, List.sum_nil]
    omega

theorem daysToYear_eq_glibcDays (y : Int) : daysToYear y = glibcDays y := by
  unfold daysToYear
  split_ifs with h
  · rw [sum_yearLength, Int.toNat_of_nonneg (by omega)]
    simp [glibcDays]
  · rw [sum_yearLength, Int.toNat_of_nonneg (by omega)]
    simp [glibcDays]

theorem glibcDays_bounds (y : Int) :
    (1970 ≤ y → 0 ≤ glibcDays y) ∧ (y ≤ 1968 → glibcDays y ≤ -731) ∧
      glibcDays 1969 = -365 := by
  unfold glibcDays leapDaysBefore
  refine ⟨fun h => by omega, fun h => by omega, by decide⟩

/-- glibc's table gives the days before each month. -/
theorem monYday_eq_daysToMonth (y : Int) {m : Nat} (h1 : 1 ≤ m) (h2 : m ≤ 12) :
    (monYday (isLeapYear y)).getD (m - 1) 0 = daysToMonth y m := by
  have htable : ∀ leap : Bool, ∀ k < 12,
      (monYday leap).getD k 0 = (((monthLengths leap).take k).sum : Int) := by decide
  exact htable _ _ (by omega)

theorem daysToMonth_add_daysInMonth (y : Int) {m : Nat} (h1 : 1 ≤ m) (h2 : m ≤ 12) :
    (daysToMonth y m + daysInMonth y m : Int) ≤ yearLength y := by
  have htable : ∀ leap : Bool, ∀ k < 12, (((monthLengths leap).take k).sum +
      (monthLengths leap).getD k 0 : Int) ≤ if leap then 366 else 365 := by decide
  exact htable _ _ (by omega)

/-- December is the only month of 1969 whose days reach the year's last day. -/
theorem daysToMonth_1969 {m : Nat} (h1 : 1 ≤ m) (h2 : m ≤ 12) :
    daysToMonth 1969 m + daysInMonth 1969 m ≤ 334 ∨
      (m = 12 ∧ daysToMonth 1969 m = 334 ∧ daysInMonth 1969 m = 31) := by
  have htable : ∀ k < 12,
      ((monthLengths false).take k).sum + (monthLengths false).getD k 0 ≤ 334 ∨
        (k = 11 ∧ ((monthLengths false).take k).sum = 334 ∧
          (monthLengths false).getD k 0 = 31) := by
    decide
  rcases htable (m - 1) (by omega) with h | ⟨hk, h334, h31⟩
  · exact .inl h
  · exact .inr ⟨by omega, h334, h31⟩

/-- `timegm` of in-range fields counts the calendar's seconds. -/
theorem timegm_eq_epochSeconds (y : Int) {m : Nat} (d h mi s : Nat) (h1 : 1 ≤ m) (h2 : m ≤ 12) :
    timegm ⟨y - 1900, (m : Int) - 1, d, h, mi, s⟩ = epochSeconds y m d h mi s := by
  have hdiv : ((m : Int) - 1) / 12 = 0 := by omega
  have hmod : (((m : Int) - 1) % 12).toNat = m - 1 := by omega
  simp only [timegm, hdiv, hmod, add_zero, sub_add_cancel, monYday_eq_daysToMonth y h1 h2,
    epochSeconds, daysToYear_eq_glibcDays, glibcDays]
  ring

/-- Only 1969-12-31T23:59:59 counts `-1` seconds, `timegm`'s failure value. -/
theorem epochSeconds_eq_neg_one_iff (y : Int) {m d h mi s : Nat} (hm1 : 1 ≤ m) (hm2 : m ≤ 12)
    (hd1 : 1 ≤ d) (hd2 : d ≤ daysInMonth y m) (hh : h < 24) (hmi : mi < 60) (hs : s < 60) :
    epochSeconds y m d h mi s = -1 ↔
      y = 1969 ∧ m = 12 ∧ d = 31 ∧ h = 23 ∧ mi = 59 ∧ s = 59 := by
  constructor
  · intro hsec
    unfold epochSeconds at hsec
    rw [daysToYear_eq_glibcDays] at hsec
    have hday : glibcDays y + daysToMonth y m + d - 1 = -1 ∧ h = 23 ∧ mi = 59 ∧ s = 59 := by
      omega
    obtain ⟨hafter, hbefore, h1969⟩ := glibcDays_bounds y
    have hfit := daysToMonth_add_daysInMonth y hm1 hm2
    have hlen : yearLength y ≤ 366 := by unfold yearLength; split_ifs <;> omega
    obtain rfl : y = 1969 := by
      rcases lt_trichotomy y 1969 with hy | hy | hy
      · have := hbefore (by omega); omega
      · exact hy
      · have := hafter (by omega); omega
    rcases daysToMonth_1969 hm1 hm2 with hsmall | ⟨rfl, h334, h31⟩ <;> omega
  · rintro ⟨rfl, rfl, rfl, rfl, rfl, rfl⟩
    decide

end BacnetEventServer
