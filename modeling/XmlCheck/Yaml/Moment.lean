import XmlCheck.Text.Basic

/-!
Dates and times that are written in a settings text. A time with a zone is told as the time at the
zero meridian.
-/

namespace XmlCheck.Yaml

/-- The distance of a zone from the zero meridian, in seconds, and whether its clocks are behind. -/
structure Zone where
  isBehind : Bool
  distance : Nat
  deriving DecidableEq, Repr

structure Clock where
  hour : Nat
  minute : Nat
  second : Nat
  fraction : Text
  zone : Option Zone
  deriving DecidableEq, Repr

structure Moment where
  year : Nat
  month : Nat
  day : Nat
  time : Option Clock
  deriving DecidableEq, Repr

namespace Moment

def digits? (least most : Nat) (text : Text) : Option (Nat × Text) :=
  let run := text.takeWhile Char.isDigit
  if least ≤ run.length ∧ run.length ≤ most then
    some (Nat.ofDigitChars 10 run 0, text.drop run.length)
  else none

def part? (separator : Char) (least most : Nat) : Text → Option (Nat × Text)
  | c :: rest => if c = separator then digits? least most rest else none
  | [] => none

def isGap (c : Char) : Bool :=
  c == ' ' || c == '\t'

def zone? (text : Text) : Option (Option Zone) :=
  match text, text.dropWhile isGap with
  | [], _ => some none
  | _, ['Z'] => some none
  | _, sign :: rest =>
    if sign = '-' ∨ sign = '+' then
      (digits? 1 2 rest).bind fun (hours, rest) =>
        let minutes? := if rest.isEmpty then some (0, []) else part? ':' 2 2 rest
        minutes?.bind fun (minutes, rest) =>
          let distance := (hours * 60 + minutes) * 60
          if rest.isEmpty then some (some { isBehind := sign == '-', distance }) else none
    else none
  | _, [] => none

def clock? (text : Text) : Option Clock := do
  let (hour, text) ← digits? 1 2 text
  let (minute, text) ← part? ':' 2 2 text
  let (second, text) ← part? ':' 2 2 text
  match text with
  | '.' :: rest =>
    let zone ← zone? (rest.dropWhile Char.isDigit)
    some { hour, minute, second, fraction := rest.takeWhile Char.isDigit, zone }
  | rest =>
    let zone ← zone? rest
    some { hour, minute, second, fraction := [], zone }

/-- The date and time that a text is made like. A line end after it does not count. -/
def ofText? (text : Text) : Option Moment := do
  let text := if text.getLast? = some '\n' then text.dropLast else text
  let (year, text) ← digits? 4 4 text
  let (month, text) ← part? '-' 1 2 text
  let (day, text) ← part? '-' 1 2 text
  match text with
  | [] => some { year, month, day, time := none }
  | c :: rest =>
    if c = 'T' ∨ c = 't' then
      let time ← clock? rest
      some { year, month, day, time }
    else if isGap c then
      let time ← clock? (rest.dropWhile isGap)
      some { year, month, day, time }
    else none

inductive Flaw
  | year
  | month
  | day
  | hour
  | minute
  | second
  /-- The zero meridian has a year there that is not counted. -/
  | outside
  deriving DecidableEq, Repr

def Flaw.message : Flaw → Text
  | .year => "year 0 is out of range"
  | .month => "month must be in 1..12"
  | .day => "day is out of range for month"
  | .hour => "hour must be in 0..23"
  | .minute => "minute must be in 0..59"
  | .second => "second must be in 0..59"
  | .outside => "date value out of range"

def daysOf (year month : Nat) : Nat :=
  if month = 2 then
    if year % 4 = 0 ∧ (year % 100 ≠ 0 ∨ year % 400 = 0) then 29 else 28
  else if month = 4 ∨ month = 6 ∨ month = 9 ∨ month = 11 then 30
  else 31

def flaw? (moment : Moment) : Option Flaw :=
  if moment.year = 0 then some .year
  else if moment.month = 0 ∨ 12 < moment.month then some .month
  else if moment.day = 0 ∨ daysOf moment.year moment.month < moment.day then some .day
  else
    moment.time.bind fun time =>
      if 23 < time.hour then some .hour
      else if 59 < time.minute then some .minute
      else if 59 < time.second then some .second
      else none

def later? : Nat → Moment → Option Moment
  | 0, moment => some moment
  | days + 1, moment =>
    if moment.day < daysOf moment.year moment.month then
      later? days { moment with day := moment.day + 1 }
    else if moment.month < 12 then
      later? days { moment with month := moment.month + 1, day := 1 }
    else if moment.year < 9999 then
      later? days { moment with year := moment.year + 1, month := 1, day := 1 }
    else none

def earlier? : Nat → Moment → Option Moment
  | 0, moment => some moment
  | days + 1, moment =>
    if 1 < moment.day then earlier? days { moment with day := moment.day - 1 }
    else if 1 < moment.month then
      let month := moment.month - 1
      earlier? days { moment with month, day := daysOf moment.year month }
    else if 1 < moment.year then
      earlier? days { moment with year := moment.year - 1, month := 12, day := 31 }
    else none

/-- The millionths that digits after the point stand for, rounded, and whether they make up a whole
second. -/
def millionths (fraction : Text) : Nat × Bool :=
  let whole := Nat.ofDigitChars 10 (fraction.take 6 ++ List.replicate (6 - fraction.length) '0') 0
  let rounded := if (fraction.drop 6).head?.any (53 ≤ ·.toNat) then whole + 1 else whole
  if rounded < 1000000 then (rounded, false) else (0, true)

def arguments (name : Text) (numbers : List Nat) : Text :=
  name ++ '(' :: Text.join [',', ' '] (numbers.map Text.ofNat) ++ [')']

def dateText (moment : Moment) : Text :=
  arguments "datetime.date" [moment.year, moment.month, moment.day]

/-- A moment at the zero meridian as it is told, `seconds` after the day begins. Numbers at the end
that are zero are left out. -/
def timeText (moment : Moment) (seconds fraction : Nat) : Text :=
  let last := if fraction = 0 then [] else [fraction]
  let last := if seconds % 60 = 0 ∧ fraction = 0 then [] else seconds % 60 :: last
  arguments "datetime.datetime"
    ([moment.year, moment.month, moment.day, seconds / 3600, seconds / 60 % 60] ++ last)

/-- How a moment is told, if there is one. A whole second that the digits after the point make up is
added, but taken off once more where a zone is ahead. -/
def text (moment : Moment) : Except Flaw Text :=
  match moment.flaw?, moment.time with
  | some flaw, _ => .error flaw
  | none, none => .ok moment.dateText
  | none, some time =>
    let (fraction, isCarried) := millionths time.fraction
    let carried : Int := if isCarried then 1 else 0
    let shift : Int :=
      match time.zone with
      | none => carried
      | some zone =>
        if zone.isBehind then zone.distance + carried else -(zone.distance + carried)
    let seconds : Int := (time.hour * 3600 + time.minute * 60 + time.second : Nat) + shift
    let days := seconds.fdiv 86400
    let moved? :=
      if days < 0 then earlier? days.natAbs moment else later? days.natAbs moment
    match moved? with
    | some moved => .ok (moved.timeText (seconds.fmod 86400).toNat fraction)
    | none => .error .outside

end Moment

end XmlCheck.Yaml
