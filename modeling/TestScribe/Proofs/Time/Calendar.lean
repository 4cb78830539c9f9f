import Mathlib.Tactic.IntervalCases
import TestScribe.Time.Date

/-!
# Days that are dates

The date of a day number is a date of the calendar: its month and its day exist
(`valid_ofDayNumber?`).  The day is placed in its century, in its four years and in its year
(`Placed`), each a year longer by its leap day where it has one.
-/

namespace TestScribe.Time

namespace Date

/-- A date of the calendar, which ends with the year 9999. -/
structure Valid (d : Date) : Prop where
  year : d.year ≤ 9999
  day_pos : 1 ≤ d.day
  day_le : d.day ≤ daysInMonth d.year d.month

/-! ## Years of an era -/

/-- The year of an era in which a day lies, as `ofDayOfEra` counts it. -/
def yearOfEra (day : Nat) : Nat :=
  (day - day / 1460 + day / 36524 - day / 146096) / 365

/-- A day of an era, `rest` days into the year `100 c + 4 q + y`.  The last year of four is longer
by a day, but for the last four of a century that does not end the era. -/
structure Placed (day c q y rest : Nat) : Prop where
  century : c ≤ 3
  four : q ≤ 24
  year : y ≤ 3
  day : day = 36524 * c + 1461 * q + 365 * y + rest
  rest : rest ≤ 364 ∨ rest = 365 ∧ y = 3 ∧ (q ≤ 23 ∨ c = 3)

/-- The last day of an era belongs to its last century, though the other centuries are shorter. -/
theorem exists_placed {day : Nat} (h : day < 146097) :
    ∃ c q y rest, Placed day c q y rest ∧ yearOfEra day = 100 * c + 4 * q + y := by
  by_cases hlast : day = 146096
  · exact ⟨3, 24, 3, 365, ⟨by omega, by omega, by omega, by omega, by omega⟩, by subst hlast; rfl⟩
  obtain ⟨c, hc⟩ : ∃ c, day / 36524 = c := ⟨_, rfl⟩
  obtain ⟨q, hq⟩ : ∃ q, day % 36524 / 1461 = q := ⟨_, rfl⟩
  obtain ⟨t, ht⟩ : ∃ t, day % 36524 % 1461 = t := ⟨_, rfl⟩
  have hday : day = 36524 * c + 1461 * q + t := by omega
  have hc3 : c ≤ 3 := by omega
  have hq24 : q ≤ 24 := by omega
  have hera : day / 146096 = 0 := by omega
  -- Before the years are counted, a day is taken off for each four years that have passed.
  by_cases hlate : 1460 ≤ 24 * c + q + t
  · have hfour : day / 1460 = 25 * c + q + 1 := by omega
    refine ⟨c, q, 3, t - 1095, ⟨hc3, hq24, by omega, by omega, by omega⟩, ?_⟩
    rw [yearOfEra, hera, hc, hfour]
    omega
  · have hfour : day / 1460 = 25 * c + q := by omega
    refine ⟨c, q, t / 365, t % 365, ⟨hc3, hq24, by omega, by omega, by omega⟩, ?_⟩
    rw [yearOfEra, hera, hc, hfour]
    omega

theorem Placed.yearOfEra_div {day c q y rest : Nat} (h : Placed day c q y rest) :
    (100 * c + 4 * q + y) / 4 = 25 * c + q ∧ (100 * c + 4 * q + y) / 100 = c := by
  have := h.four
  have := h.year
  omega

/-- The year ends with February, so the day that makes it longer is the last of a leap year. -/
theorem Placed.isLeap {day c q y rest : Nat} (h : Placed day c q y rest) (hrest : rest = 365)
    (era : Nat) : isLeap (100 * c + 4 * q + y + era * 400 + 1) = true := by
  have := h.century
  have := h.four
  have := h.rest
  simp only [Time.isLeap, Bool.and_eq_true, Bool.or_eq_true, beq_iff_eq, bne_iff_ne]
  omega

/-! ## Months -/

/-- The month in which the day `rest` days after the first of March lies, counted from March on. -/
def monthFromMarch (rest : Nat) : Nat :=
  (5 * rest + 2) / 153

/-- The number of a month that is counted from March on. -/
def monthOf (shifted : Nat) : Nat :=
  if shifted < 10 then shifted + 3 else shifted - 9

/-- February is the last month, and the only one whose length depends on the year. -/
theorem dayOfMonth_le {rest year : Nat}
    (h : rest ≤ 364 ∨ rest = 365 ∧ Time.isLeap year = true) :
    rest - (153 * monthFromMarch rest + 2) / 5 + 1 ≤
      daysInMonth year (monthOf (monthFromMarch rest)) := by
  obtain ⟨s, hs⟩ : ∃ s, monthFromMarch rest = s := ⟨_, rfl⟩
  have hmonth : (5 * rest + 2) / 153 = s := hs
  rw [hs]
  have hs11 : s ≤ 11 := by omega
  by_cases hfebruary : s = 11
  · subst hfebruary
    show rest - 337 + 1 ≤ if Time.isLeap year then 29 else 28
    split
    · omega
    case isFalse hleap =>
      have hrest : rest ≤ 364 := h.resolve_right fun hr => hleap hr.2
      omega
  · interval_cases s
    all_goals
      simp only [monthOf, daysInMonth, reduceIte, Nat.reduceLT, Nat.reduceAdd, Nat.reduceSub]
      omega

/-! ## Day numbers -/

/-- The date of a day of an era, in its place. -/
theorem Placed.ofDayOfEra {day c q y rest : Nat} (h : Placed day c q y rest)
    (hyear : yearOfEra day = 100 * c + 4 * q + y) (era : Nat) :
    ofDayOfEra era day =
      { year := 100 * c + 4 * q + y + era * 400 +
          (if monthOf (monthFromMarch rest) ≤ 2 then 1 else 0)
        month := monthOf (monthFromMarch rest)
        day := rest - (153 * monthFromMarch rest + 2) / 5 + 1 } := by
  have hrest : day - (365 * (100 * c + 4 * q + y) + (100 * c + 4 * q + y) / 4 -
      (100 * c + 4 * q + y) / 100) = rest := by
    rw [h.yearOfEra_div.1, h.yearOfEra_div.2, h.day]
    omega
  unfold yearOfEra at hyear
  unfold Date.ofDayOfEra monthOf monthFromMarch
  simp only [hyear, hrest]

/-- The last day of the calendar is the day 146036 of the last era. -/
theorem valid_ofDayOfEra {era day : Nat} (hday : day < 146097)
    (hlast : era ≤ 23 ∨ era = 24 ∧ day ≤ 146036) : (ofDayOfEra era day).Valid := by
  obtain ⟨c, q, y, rest, h, hyear⟩ := exists_placed hday
  rw [h.ofDayOfEra hyear]
  refine ⟨?_, Nat.succ_pos _, dayOfMonth_le ?_⟩
  · have := h.century
    have := h.four
    have := h.year
    have := h.day
    unfold monthOf monthFromMarch
    dsimp only
    split <;> split <;> omega
  · rcases h.rest with hrest | ⟨hrest, -⟩
    · exact .inl hrest
    · refine .inr ⟨hrest, ?_⟩
      subst hrest
      exact h.isLeap rfl era

/-- The first of January 1970 is the day 719528, counted from the beginning of the year zero. -/
theorem valid_ofDayNumber? {n : Int} {d : Date} (h : ofDayNumber? n = some d) (hn : n ≤ 2932896) :
    d.Valid := by
  unfold ofDayNumber? at h
  dsimp only at h
  split at h
  · cases h
  split at h
  · obtain rfl := Option.some.inj h
    split
    · exact ⟨Nat.zero_le _, Nat.succ_pos _, by show _ + 1 ≤ 31; omega⟩
    · exact ⟨Nat.zero_le _, by dsimp only; omega, by show _ ≤ 29; dsimp only; omega⟩
  · obtain rfl := Option.some.inj h
    exact valid_ofDayOfEra (Nat.mod_lt _ (by decide)) (by omega)

end Date

end TestScribe.Time
