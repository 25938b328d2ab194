import XmlCheck.Schema.Decimal

/-!
Points and stretches of time. A point may lack its date or its time of day and may or may not name
a zone; points with and without zone are comparable only if they lie far enough apart.
-/

namespace XmlCheck.Schema

inductive MomentKind
  | dateTime
  | date
  | time
  | yearMonth
  | year
  | monthDay
  | month
  | day
  deriving DecidableEq, Repr

structure Moment where
  kind : MomentKind
  year : Int := 1
  month : Nat := 1
  day : Nat := 1
  hour : Nat := 0
  minute : Nat := 0
  second : Decimal := ⟨0, 0⟩
  zone : Option Int := none
  deriving DecidableEq, Repr

def isLeapYear (year : Int) : Bool :=
  (year % 4 == 0 && year % 100 != 0) || year % 400 == 0

def daysInMonth (year : Int) (month : Nat) : Nat :=
  if month = 2 then (if isLeapYear year then 29 else 28)
  else if month = 4 || month = 6 || month = 9 || month = 11 then 30
  else 31

/-- The number of the day on which a year begins; the day 0 is that of the year 0. -/
def yearStart (year : Int) : Int :=
  365 * year + (year + 3) / 4 - (year + 99) / 100 + (year + 399) / 400

def dayNumber (year : Int) (month day : Nat) : Int :=
  yearStart year +
    ((List.range (month - 1)).foldl (fun n m => n + daysInMonth year (m + 1)) 0 + (day - 1) : Nat)

namespace Moment

/-- The seconds since the year 0, as seen in the zone of the moment. -/
def seconds (m : Moment) : Decimal :=
  let year := if m.year < 0 then m.year + 1 else m.year
  let whole := dayNumber year m.month m.day * 86400 + m.hour * 3600 + m.minute * 60 -
    m.zone.getD 0 * 60
  m.second.add ⟨whole, 0⟩

/-- The widest distance of a zone from the common one, in seconds. -/
def widestZone : Decimal := ⟨14 * 3600, 0⟩

/-- The order of two points of time; none if it hangs on an unknown zone. -/
def order? (a b : Moment) : Option Ordering :=
  if a.zone.isSome = b.zone.isSome then some (a.seconds.order b.seconds)
  else
    let early := (a.seconds.add widestZone).order b.seconds
    let late := (a.seconds.add widestZone.negate).order b.seconds
    if early = .lt then some .lt
    else if late = .gt then some .gt
    else none

end Moment

structure Duration where
  months : Int
  seconds : Decimal
  deriving DecidableEq, Repr

namespace Duration

/-- Where a stretch ends that begins on the first day of a month. -/
def endFrom (year : Int) (month : Nat) (d : Duration) : Decimal :=
  let months := year * 12 + (month - 1 : Nat) + d.months
  d.seconds.add ⟨dayNumber (months / 12) ((months % 12).toNat + 1) 1 * 86400, 0⟩

/-- The beginnings that decide between two stretches. -/
def beginnings : List (Int × Nat) :=
  [(1696, 9), (1697, 2), (1903, 3), (1903, 7)]

/-- The order of two stretches; none if it depends on where they begin. -/
def order? (a b : Duration) : Option Ordering :=
  match (beginnings.map fun s => (a.endFrom s.1 s.2).order (b.endFrom s.1 s.2)).eraseDups with
  | [order] => some order
  | _ => none

end Duration

example : dayNumber 2000 3 1 - dayNumber 2000 2 28 = 2 := by decide

end XmlCheck.Schema
