import Mathlib.Tactic.Common
import Mathlib.Tactic.IntervalCases
import Outbox.Time.Civil

/-!
# Days and dates

Counting days from a date gives back the day that the date was made from, and every day has a date
that exists.  Inside an era the days fall into centuries, spans of four years, years and days, where
only the last part of each kind may be a day longer (`EraDay`); from that shape both directions are
linear.

* `Date.toDays_ofDays` — the count of the date of a day;
* `Date.ofDays_month`, `Date.ofDays_day` — the date of a day exists;
* `Date.ofDays_year` — the dates of the days of the calendar have its years.
-/

namespace Outbox.Time

/-! ### Inside an era -/

/-- The year that a day of an era falls into. -/
def yearOfEra (d : Int) : Int := (d - d / 1460 + d / 36524 - d / 146096) / 365

/-- The day of the year that a day of an era falls on. -/
def dayOfYear (d : Int) : Int := d - (365 * yearOfEra d + yearOfEra d / 4 - yearOfEra d / 100)

/-- A day of an era by century, span of four years, year of the span and day of the year. -/
structure EraDay (d century span year day : Int) : Prop where
  eq : d = 36524 * century + 1461 * span + 365 * year + day
  century_mem : 0 ≤ century ∧ century ≤ 3
  span_mem : 0 ≤ span ∧ span ≤ 24
  year_mem : 0 ≤ year ∧ year ≤ 3
  day_mem : 0 ≤ day ∧ day ≤ 365
  /-- Only the last year of a span has a leap day, and in the last span only that of the era. -/
  leap : day = 365 → year = 3 ∧ (span = 24 → century = 3)

theorem exists_eraDay {d : Int} (hd : 0 ≤ d ∧ d < 146097) :
    ∃ century span year day, EraDay d century span year day := by
  obtain ⟨c, r, hcr, hc, hr, hlast⟩ : ∃ c r, d = 36524 * c + r ∧ (0 ≤ c ∧ c ≤ 3) ∧
      (0 ≤ r ∧ r ≤ 36524) ∧ (r = 36524 → c = 3) := by
    by_cases h : d = 146096
    · exact ⟨3, 36524, by omega⟩
    · exact ⟨d / 36524, d % 36524, by omega⟩
  obtain ⟨y, t, hs, hy, ht, hleap⟩ : ∃ y t, r % 1461 = 365 * y + t ∧ (0 ≤ y ∧ y ≤ 3) ∧
      (0 ≤ t ∧ t ≤ 365) ∧ (t = 365 → y = 3) := by
    by_cases h : r % 1461 = 1460
    · exact ⟨3, 365, by omega⟩
    · exact ⟨r % 1461 / 365, r % 1461 % 365, by omega⟩
  exact ⟨c, r / 1461, y, t, by omega, hc, by omega, hy, ht, fun h => ⟨hleap h, by omega⟩⟩

section

variable {d century span year day : Int}

/-- The year of an era, read off the shape of the day. -/
theorem EraDay.yearOfEra_eq (h : EraDay d century span year day) :
    yearOfEra d = 100 * century + 4 * span + year := by
  obtain ⟨hd, hc, hs, hy, ht, hleap⟩ := h
  -- the spans before the day have lost one day each, and the last of a span at most one more
  have hspans : d / 1460 = 25 * century + span +
      (if 1460 ≤ 24 * century + span + 365 * year + day then 1 else 0) := by
    split <;> omega
  have hcenturies : d / 36524 = century + (if d = 146096 then 1 else 0) := by
    split <;> omega
  have heras : d / 146096 = if d = 146096 then 1 else 0 := by
    split <;> omega
  rw [yearOfEra, hspans, hcenturies, heras]
  split <;> split <;> omega

theorem EraDay.dayOfYear_eq (h : EraDay d century span year day) : dayOfYear d = day := by
  have hyear := h.yearOfEra_eq
  obtain ⟨hd, hc, hs, hy, ht, hleap⟩ := h
  rw [dayOfYear, hyear]
  omega

end

/-- **Years.**  A year of an era has 365 days, and one more if the next year begins with a leap
day. -/
theorem yearOfEra_spec {d : Int} (hd : 0 ≤ d ∧ d < 146097) :
    (0 ≤ yearOfEra d ∧ yearOfEra d < 400) ∧ (0 ≤ dayOfYear d ∧ dayOfYear d ≤ 365) ∧
      (dayOfYear d = 365 → isLeapYear (yearOfEra d + 1) = true) := by
  obtain ⟨c, s, y, t, h⟩ := exists_eraDay hd
  rw [h.yearOfEra_eq, h.dayOfYear_eq]
  obtain ⟨hd, hc, hs, hy, ht, hleap⟩ := h
  refine ⟨by omega, ht, fun heq => ?_⟩
  obtain ⟨rfl, hcentury⟩ := hleap heq
  simp only [isLeapYear, Bool.and_eq_true, Bool.or_eq_true, beq_iff_eq, bne_iff_ne]
  omega

/-! ### Dates -/

/-- The leap day comes back with every era. -/
theorem isLeapYear_add_era (year era : Int) :
    isLeapYear (year + era * 400 + 1) = isLeapYear (year + 1) := by
  have h4 : (year + era * 400 + 1) % 4 = (year + 1) % 4 := by omega
  have h100 : (year + era * 400 + 1) % 100 = (year + 1) % 100 := by omega
  have h400 : (year + era * 400 + 1) % 400 = (year + 1) % 400 := by omega
  rw [isLeapYear, isLeapYear, h4, h100, h400]

theorem dayOfEra_mem (days : Int) :
    0 ≤ (days + 719468) % 146097 ∧ (days + 719468) % 146097 < 146097 :=
  ⟨Int.emod_nonneg _ (by decide), Int.emod_lt_of_pos _ (by decide)⟩

/-- A day of an era by the years before it and the day of the year. -/
theorem dayOfEra_eq (d : Int) :
    d = 365 * yearOfEra d + yearOfEra d / 4 - yearOfEra d / 100 + dayOfYear d := by
  rw [dayOfYear]
  omega

/-- A month counted from March, in the count from January. -/
def civilMonth (m : Int) : Int := if m < 10 then m + 3 else m - 9

/-- The months from March to January have the same length every year. -/
theorem daysInMonth_civilMonth (year : Int) {m : Nat} (h : m ≤ 10) :
    daysInMonth year (civilMonth m).toNat = (153 * (m + 1) + 2) / 5 - (153 * m + 2) / 5 := by
  interval_cases m <;> rfl

namespace Date

/-- The date of a day, by the year of its era. -/
theorem ofDays_eq (days : Int) :
    ofDays days =
      let era := (days + 719468) / 146097
      let d := (days + 719468) % 146097
      let m := (5 * dayOfYear d + 2) / 153
      let year := yearOfEra d + era * 400
      ⟨if civilMonth m ≤ 2 then year + 1 else year, (civilMonth m).toNat,
        (dayOfYear d - (153 * m + 2) / 5 + 1).toNat⟩ := rfl

/-- **Days read back.** -/
theorem toDays_ofDays (days : Int) : (ofDays days).toDays = days := by
  obtain ⟨⟨hy0, hy1⟩, ⟨ht0, ht1⟩, -⟩ := yearOfEra_spec (dayOfEra_mem days)
  have hday := dayOfEra_eq ((days + 719468) % 146097)
  rw [ofDays_eq]
  dsimp only
  generalize yearOfEra ((days + 719468) % 146097) = y at *
  generalize dayOfYear ((days + 719468) % 146097) = t at *
  obtain ⟨m, hm⟩ : ∃ m : Nat, (5 * t + 2) / 153 = m := ⟨((5 * t + 2) / 153).toNat, by omega⟩
  rw [hm, toDays]
  dsimp only
  have hmonth : ((civilMonth m).toNat + 9) % 12 = m := by
    rw [civilMonth]
    split <;> omega
  -- the year that starts in March is the one that was counted, whichever side of it January is on
  have hmarch : (if (civilMonth m).toNat ≤ 2
        then (if civilMonth m ≤ 2 then y + (days + 719468) / 146097 * 400 + 1
          else y + (days + 719468) / 146097 * 400) - 1
        else if civilMonth m ≤ 2 then y + (days + 719468) / 146097 * 400 + 1
          else y + (days + 719468) / 146097 * 400) = y + (days + 719468) / 146097 * 400 := by
    by_cases h : civilMonth m ≤ 2
    · rw [if_pos (by omega), if_pos h]
      omega
    · rw [if_neg (by omega), if_neg h]
  have hera : (y + (days + 719468) / 146097 * 400) / 400 = (days + 719468) / 146097 := by omega
  have hyear : (y + (days + 719468) / 146097 * 400) % 400 = y := by omega
  rw [hmonth, hmarch, hera, hyear]
  clear hmonth hmarch hera hyear
  omega

/-- The months of the calendar. -/
theorem ofDays_month (days : Int) : 1 ≤ (ofDays days).month ∧ (ofDays days).month ≤ 12 := by
  obtain ⟨-, ⟨ht0, ht1⟩, -⟩ := yearOfEra_spec (dayOfEra_mem days)
  rw [ofDays_eq]
  dsimp only
  rw [civilMonth]
  split <;> omega

/-- **Dates of days exist.** -/
theorem ofDays_day (days : Int) :
    1 ≤ (ofDays days).day ∧
      (ofDays days).day ≤ daysInMonth (ofDays days).year (ofDays days).month := by
  obtain ⟨-, ⟨ht0, ht1⟩, hleap⟩ := yearOfEra_spec (dayOfEra_mem days)
  rw [ofDays_eq]
  dsimp only
  generalize yearOfEra ((days + 719468) % 146097) = y at *
  generalize dayOfYear ((days + 719468) % 146097) = t at *
  obtain ⟨m, hm⟩ : ∃ m : Nat, (5 * t + 2) / 153 = m := ⟨((5 * t + 2) / 153).toNat, by omega⟩
  rw [hm]
  by_cases hfebruary : m = 11
  · subst hfebruary
    show 1 ≤ _ ∧ _ ≤ if isLeapYear (y + _ * 400 + 1) = true then 29 else 28
    rw [isLeapYear_add_era]
    by_cases hlast : t = 365
    · rw [if_pos (hleap hlast)]
      omega
    · split <;> omega
  · have hbefore : (153 * (m : Int) + 2) / 5 = ((153 * m + 2) / 5 : Nat) := by omega
    rw [daysInMonth_civilMonth _ (show m ≤ 10 by omega), hbefore]
    omega

end Date

/-! ### The ends of the calendar -/

theorem firstDay_eq : firstDay = -96465292 := rfl

theorem lastDay_eq : lastDay = 95026236 := rfl

/-- **Days of the calendar fall into its years.** -/
theorem Date.ofDays_year {days : Int} (h : firstDay ≤ days ∧ days ≤ lastDay) :
    firstYear ≤ (ofDays days).year ∧ (ofDays days).year ≤ lastYear := by
  obtain ⟨⟨hy0, hy1⟩, ⟨ht0, ht1⟩, -⟩ := yearOfEra_spec (dayOfEra_mem days)
  have hday := dayOfEra_eq ((days + 719468) % 146097)
  rw [firstDay_eq, lastDay_eq] at h
  rw [ofDays_eq, show firstYear = -262143 from rfl, show lastYear = 262142 from rfl]
  dsimp only
  generalize yearOfEra ((days + 719468) % 146097) = y at *
  generalize dayOfYear ((days + 719468) % 146097) = t at *
  obtain ⟨era, hera⟩ : ∃ era, (days + 719468) / 146097 = era := ⟨_, rfl⟩
  -- the bounds are tight in the first year and in the last, so these stand apart
  have hlow : era ≤ -657 ∨ (era = -656 ∧ (y ≤ 255 ∨ y = 256 ∨ 257 ≤ y)) ∨ -655 ≤ era := by omega
  have hhigh : era ≤ 654 ∨ (era = 655 ∧ (y ≤ 141 ∨ y = 142 ∨ 143 ≤ y)) ∨ 656 ≤ era := by omega
  rw [hera, civilMonth]
  constructor
  · split
    · split <;> omega
    · split <;> omega
  · split
    · split <;> omega
    · split <;> omega

end Outbox.Time
