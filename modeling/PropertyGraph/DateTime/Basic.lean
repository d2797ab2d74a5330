import PropertyGraph.DateTime.Calendar

/-!
# Date-times

A date-time is the reading of a wall clock, in microseconds from the start of 1970, together with
the clock's offset from universal time if that is known. Date-times are compared as instants; one
without an offset is taken as universal time.
-/

namespace PropertyGraph

/-- The reading of a clock and its offset from universal time in seconds. -/
structure DateTime where
  wall : Int
  offset : Option Int
deriving DecidableEq, Repr, Inhabited

namespace DateTime

/-- The instant of a date-time, in microseconds of universal time. -/
def instant (t : DateTime) : Int := t.wall - t.offset.getD 0 * 1000000

/-- The date-time of an instant on a clock of universal time. -/
def ofInstant (i : Int) : DateTime := ⟨i, some 0⟩

/-- A date-time whose offset is known: universal time unless it says otherwise. -/
def withOffset (t : DateTime) : DateTime := ⟨t.wall, some (t.offset.getD 0)⟩

/-- Whether a clock can show a date-time: the calendar starts with the year 1. -/
def isInCalendar (t : DateTime) : Bool :=
  (⟨1, 1, 1⟩ : CivilDate).toDays * 86400000000 ≤ t.wall

/-- The later of two date-times; of two at one instant the first. -/
def laterOf (t u : DateTime) : DateTime := if t.instant < u.instant then u else t

@[simp] theorem instant_ofInstant (i : Int) : (ofInstant i).instant = i := by
  simp [instant, ofInstant]

@[simp] theorem instant_withOffset (t : DateTime) : t.withOffset.instant = t.instant := by
  simp [instant, withOffset]

theorem le_instant_laterOf_left (t u : DateTime) : t.instant ≤ (t.laterOf u).instant := by
  simp only [laterOf]
  split <;> omega

theorem le_instant_laterOf_right (t u : DateTime) : u.instant ≤ (t.laterOf u).instant := by
  simp only [laterOf]
  split <;> omega

end DateTime

end PropertyGraph
