import PropertyGraph.DateTime.Calendar

/-!
# The calendar and the count of days

A count of days gives a date that exists, and the date gives the count again: `isValid_ofDays` and
`toDays_ofDays`. Neither conversion says where in the calendar it is; that is what a `Place` does.
Every count of days is that of a place, and in the parts of a place both conversions are plain.
-/

namespace PropertyGraph.CivilDate

/--
Where a day lies: in which era of four hundred years, which century of it, which four years of that
and which year of these, all from zero and with years that begin in March. The day added in a leap
year is number 365.
-/
structure Place where
  era : Int
  century : Nat
  span : Nat
  year : Nat
  day : Nat
  century_le : century ≤ 3
  span_le : span ≤ 24
  year_le : year ≤ 3
  day_le : day ≤ 365
  /-- Only the last of four years is a leap year, and in the last four of a century only the last
  century has one. -/
  leap : day = 365 → year = 3 ∧ (span = 24 → century = 3)

namespace Place

/-- The year within the era. -/
def yearOfEra (p : Place) : Nat := 100 * p.century + 4 * p.span + p.year

/-- The day within the era. -/
def dayOfEra (p : Place) : Nat := 36524 * p.century + 1461 * p.span + 365 * p.year + p.day

/-- The count of days. -/
def days (p : Place) : Int := p.era * 146097 + p.dayOfEra - 719468

/-- The month, counted from March. -/
def month (p : Place) : Nat := (5 * p.day + 2) / 153

def dayOfMonth (p : Place) : Nat := p.day - (153 * p.month + 2) / 5 + 1

/-- The calendar date. January and February belong to the next year. -/
def date (p : Place) : CivilDate :=
  let year := (p.yearOfEra : Int) + p.era * 400
  if p.month < 10 then ⟨year, p.month + 3, p.dayOfMonth⟩ else ⟨year + 1, p.month - 9, p.dayOfMonth⟩

variable (p : Place)

theorem dayOfEra_lt : p.dayOfEra < 146097 := by
  have := p.century_le
  have := p.span_le
  have := p.year_le
  have := p.day_le
  have := p.leap
  unfold dayOfEra
  omega

theorem yearOfEra_lt : p.yearOfEra < 400 := by
  have := p.century_le
  have := p.span_le
  have := p.year_le
  unfold yearOfEra
  omega

theorem month_le : p.month ≤ 11 := by
  have := p.day_le
  unfold month
  omega

/-- The first day of the month is not after the day. -/
theorem monthStart_le : (153 * p.month + 2) / 5 ≤ p.day := by
  unfold month
  omega

/-- Every count of days has its place. -/
theorem exists_days (days : Int) : ∃ p : Place, p.days = days := by
  obtain ⟨e, he, hera⟩ : ∃ e : Nat, e < 146097 ∧ (days + 719468) % 146097 = e :=
    ⟨((days + 719468) % 146097).toNat, by omega, by omega⟩
  -- the last day of an era would be in a century of its own, and the last of four years in a fifth
  obtain ⟨c, hc, hclo, hchi⟩ : ∃ c ≤ 3, 36524 * c ≤ e ∧ (e < 36524 * (c + 1) ∨ c = 3) :=
    ⟨min (e / 36524) 3, by omega, by omega, by omega⟩
  obtain ⟨q, hq, hqlo, hqhi⟩ : ∃ q ≤ 24, 1461 * q ≤ e - 36524 * c
      ∧ e - 36524 * c < 1461 * (q + 1) :=
    ⟨(e - 36524 * c) / 1461, by omega, by omega, by omega⟩
  obtain ⟨r, hr, hrlo, hrhi⟩ : ∃ r ≤ 3, 365 * r ≤ e - 36524 * c - 1461 * q
      ∧ (e - 36524 * c - 1461 * q < 365 * (r + 1) ∨ r = 3) :=
    ⟨min ((e - 36524 * c - 1461 * q) / 365) 3, by omega, by omega, by omega⟩
  refine ⟨⟨(days + 719468) / 146097, c, q, r, e - 36524 * c - 1461 * q - 365 * r, hc, hq, hr,
    by omega, by omega⟩, ?_⟩
  have hday : 36524 * c + 1461 * q + 365 * r + (e - 36524 * c - 1461 * q - 365 * r) = e := by
    omega
  unfold Place.days dayOfEra
  dsimp only
  rw [hday]
  omega

/-- The year of an era from the day of the era. -/
theorem yearOfEra_eq : (p.dayOfEra - p.dayOfEra / 1460 + p.dayOfEra / 36524
    - p.dayOfEra / 146096) / 365 = p.yearOfEra := by
  have hc := p.century_le
  have hq := p.span_le
  have hr := p.year_le
  have hd := p.day_le
  have hleap := p.leap
  have he : p.dayOfEra = 36524 * p.century + 1461 * p.span + 365 * p.year + p.day := rfl
  unfold yearOfEra
  generalize p.dayOfEra = e at he ⊢
  -- the quotients are one too large at the end of a span and of the era, where they make up for it
  have hspans : e / 1460 = 25 * p.century + p.span ∧ p.day ≤ 364
      ∨ e / 1460 = 25 * p.century + p.span + 1 ∧ 1 ≤ p.day := by
    rcases Nat.lt_or_ge (24 * p.century + p.span + 365 * p.year + p.day) 1460 with hlt | hge
    · left
      omega
    · right
      omega
  have hcenturies : e / 36524 = p.century + e / 146096 := by
    by_cases hlast : p.day = 365 ∧ p.span = 24
    · obtain ⟨hyear, hcentury⟩ := hleap hlast.1
      have hcentury := hcentury hlast.2
      omega
    · have : e / 36524 = p.century := by omega
      omega
  omega

/-- The days of the years before, with a leap day every four years but not every hundred. -/
theorem dayOfEra_eq : (p.dayOfEra : Int)
    = p.yearOfEra * 365 + p.yearOfEra / 4 - p.yearOfEra / 100 + p.day := by
  have hq := p.span_le
  have hr := p.year_le
  have hquarter : p.yearOfEra / 4 = 25 * p.century + p.span := by
    unfold yearOfEra
    omega
  have hcentury : p.yearOfEra / 100 = p.century := by
    unfold yearOfEra
    omega
  have he : p.dayOfEra = 36524 * p.century + 1461 * p.span + 365 * p.year + p.day := rfl
  have hy : p.yearOfEra = 100 * p.century + 4 * p.span + p.year := rfl
  omega

/-- The count of days of a place gives its date. -/
theorem ofDays_days : ofDays p.days = p.date := by
  have hlt := p.dayOfEra_lt
  have hera : (p.days + 719468) / 146097 = p.era := by
    unfold days
    omega
  have hday : ((p.days + 719468) % 146097).toNat = p.dayOfEra := by
    unfold days
    omega
  have hdayOfYear : p.dayOfEra - (365 * p.yearOfEra + p.yearOfEra / 4 - p.yearOfEra / 100)
      = p.day := by
    have := p.dayOfEra_eq
    omega
  unfold ofDays
  dsimp only
  rw [hera, hday, p.yearOfEra_eq, hdayOfYear]
  rfl

/-- A date with the year, the month and the day of a place has its count of days. -/
theorem toDays_eq {d : CivilDate}
    (hyear : (if d.month ≤ 2 then d.year - 1 else d.year) = p.yearOfEra + p.era * 400)
    (hmonth : (if d.month ≤ 2 then d.month + 9 else d.month - 3) = p.month)
    (hday : d.day = p.dayOfMonth) : d.toDays = p.days := by
  have hlt := p.yearOfEra_lt
  have hera : ((p.yearOfEra : Int) + p.era * 400) / 400 = p.era := by omega
  have hrest : ((p.yearOfEra : Int) + p.era * 400) % 400 = p.yearOfEra := by omega
  have hdayOfYear : (153 * (p.month : Int) + 2) / 5 + p.dayOfMonth - 1 = p.day := by
    have hstart := p.monthStart_le
    unfold dayOfMonth
    omega
  unfold toDays days
  dsimp only
  rw [hyear, hmonth, hday, hera, hrest, hdayOfYear, p.dayOfEra_eq]

/-- The date of a place gives its count of days. -/
theorem toDays_date : p.date.toDays = p.days := by
  have hmonth := p.month_le
  unfold date
  dsimp only
  split
  · refine p.toDays_eq ?_ ?_ rfl
    · exact if_neg (by dsimp only; omega)
    · exact if_neg (by dsimp only; omega)
  · refine p.toDays_eq ?_ ?_ rfl
    · rw [if_pos (by dsimp only; omega)]
      dsimp only
      omega
    · rw [if_pos (by dsimp only; omega)]
      dsimp only
      omega

theorem date_month : p.date.month = if p.month < 10 then p.month + 3 else p.month - 9 := by
  unfold date
  dsimp only
  split <;> rfl

theorem date_year : p.date.year
    = p.yearOfEra + p.era * 400 + (if p.month < 10 then 0 else 1 : Int) := by
  unfold date
  dsimp only
  split
  · exact (Int.add_zero _).symm
  · rfl

theorem date_day : p.date.day = p.dayOfMonth := by
  unfold date
  dsimp only
  split <;> rfl

/-- A year that has a day 365 ends in the February of a leap year. -/
theorem isLeapYear_of_day (h : p.day = 365) :
    isLeapYear (p.yearOfEra + p.era * 400 + 1) = true := by
  obtain ⟨hyear, hcentury⟩ := p.leap h
  have hspan := p.span_le
  have hy : p.yearOfEra = 100 * p.century + 4 * p.span + p.year := rfl
  have hfour : ((p.yearOfEra : Int) + p.era * 400 + 1) % 4 = 0 := by omega
  have hhundred : ((p.yearOfEra : Int) + p.era * 400 + 1) % 100 ≠ 0
      ∨ ((p.yearOfEra : Int) + p.era * 400 + 1) % 400 = 0 := by
    omega
  unfold isLeapYear
  simpa [hfour] using hhundred

/-- No day is past the end of its month. -/
theorem dayOfMonth_le : p.dayOfMonth ≤ daysInMonth p.date.year p.date.month := by
  have hday := p.day_le
  have hmonth := p.month_le
  have hlength : p.dayOfMonth ≤ (153 * (p.month + 1) + 2) / 5 - (153 * p.month + 2) / 5 := by
    unfold dayOfMonth month
    omega
  rw [p.date_month, p.date_year]
  by_cases hfeb : p.month = 11
  · -- the day added in a leap year is the only one past the twenty-eighth
    have hof : p.dayOfMonth = p.day - 337 + 1 := by
      unfold dayOfMonth
      rw [hfeb]
    rw [hfeb]
    show _ ≤ if isLeapYear (p.yearOfEra + p.era * 400 + 1) = true then 29 else 28
    split
    · omega
    · rename_i hleap
      have hlast : p.day ≠ 365 := fun h => hleap (p.isLeapYear_of_day h)
      omega
  · have htable : ∀ year, ∀ m < 11, (153 * (m + 1) + 2) / 5 - (153 * m + 2) / 5
        ≤ daysInMonth year (if m < 10 then m + 3 else m - 9) := by
      have hplain : ∀ m < 11, (if m < 10 then m + 3 else m - 9) ≠ 2 := by decide
      have hlengths : ∀ m < 11, (153 * (m + 1) + 2) / 5 - (153 * m + 2) / 5
          ≤ daysInMonth 0 (if m < 10 then m + 3 else m - 9) := by
        decide
      intro year m hm
      have h := hlengths m hm
      unfold daysInMonth at h ⊢
      rw [if_neg (hplain m hm)] at h ⊢
      exact h
    exact Nat.le_trans hlength (htable _ _ (by omega))

/-- The date of a place exists, if its year has at most four digits. -/
theorem isValid_date (hlo : 0 ≤ p.date.year) (hhi : p.date.year ≤ 9999) :
    p.date.isValid = true := by
  have hmonth : 1 ≤ p.date.month ∧ p.date.month ≤ 12 := by
    have := p.month_le
    rw [p.date_month]
    split <;> omega
  have hday : 1 ≤ p.date.day ∧ p.date.day ≤ daysInMonth p.date.year p.date.month := by
    rw [p.date_day]
    exact ⟨Nat.le_add_left 1 _, p.dayOfMonth_le⟩
  unfold isValid
  simp [hlo, hhi, hmonth, hday]

end Place

/-- **A count of days is the count of its date.** -/
theorem toDays_ofDays (days : Int) : (ofDays days).toDays = days := by
  obtain ⟨p, rfl⟩ := Place.exists_days days
  rw [p.ofDays_days, p.toDays_date]

example : ofDays 19782 = ⟨2024, 2, 29⟩ ∧ ofDays 19783 = ⟨2024, 3, 1⟩ := by decide

/-- The counts of days with a date in the years of four digits. -/
theorem year_ofDays {days : Int} (hlo : (⟨0, 1, 1⟩ : CivilDate).toDays ≤ days)
    (hhi : days < (⟨10000, 1, 1⟩ : CivilDate).toDays) :
    0 ≤ (ofDays days).year ∧ (ofDays days).year ≤ 9999 := by
  obtain ⟨p, rfl⟩ := Place.exists_days days
  have hfirst : (⟨0, 1, 1⟩ : CivilDate).toDays = -719528 := by decide
  have hlast : (⟨10000, 1, 1⟩ : CivilDate).toDays = 2932897 := by decide
  have hc := p.century_le
  have hq := p.span_le
  have hr := p.year_le
  have hday := p.day_le
  have he : p.dayOfEra = 36524 * p.century + 1461 * p.span + 365 * p.year + p.day := rfl
  have hy : p.yearOfEra = 100 * p.century + 4 * p.span + p.year := rfl
  have hdays : p.days = p.era * 146097 + p.dayOfEra - 719468 := rfl
  have hm : p.month = (5 * p.day + 2) / 153 := rfl
  rw [p.ofDays_days, p.date_year]
  rw [hfirst] at hlo
  rw [hlast] at hhi
  -- the range begins with the last two months of an era and ends before those of another
  have hera : -1 ≤ p.era ∧ p.era ≤ 24 := by omega
  have hlow : p.era = -1 → p.yearOfEra = 399 ∧ 10 ≤ p.month := by omega
  have hhigh : p.era = 24 → p.yearOfEra = 399 → p.month < 10 := by omega
  clear he hy hdays hm hday hlo hhi
  have hyear := p.yearOfEra_lt
  split <;> omega

/-- **The date of a count of days exists**, from the year 0 to the year 9999. -/
theorem isValid_ofDays {days : Int} (hlo : (⟨0, 1, 1⟩ : CivilDate).toDays ≤ days)
    (hhi : days < (⟨10000, 1, 1⟩ : CivilDate).toDays) : (ofDays days).isValid = true := by
  obtain ⟨hfirst, hlast⟩ := year_ofDays hlo hhi
  obtain ⟨p, rfl⟩ := Place.exists_days days
  rw [p.ofDays_days] at hfirst hlast ⊢
  exact p.isValid_date hfirst hlast

end PropertyGraph.CivilDate
