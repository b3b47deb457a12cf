import QueryCatalog.Counting

namespace QueryCatalog.Instant

def daysBeforeYear (y : Nat) : Nat := 365 * y + (y + 3) / 4 - (y + 99) / 100 + (y + 399) / 400

def isLeapYear (y : Nat) : Bool := y % 4 == 0 && (y % 100 != 0 || y % 400 == 0)

def monthLengths (y : Nat) : List Nat :=
  [31, if isLeapYear y then 29 else 28, 31, 30, 31, 30, 31, 31, 30, 31, 30, 31]

def dayNumber? (year month day : Nat) : Option Int := do
  if month = 0 ∨ day = 0 then none
  let length ← (monthLengths year)[month - 1]?
  if length < day then none
  let days := daysBeforeYear year + total ((monthLengths year).take (month - 1)) + (day - 1)
  return (days : Int) - daysBeforeYear 1970

/-- The nanoseconds of a fraction of a second; digits beyond the ninth are left out. -/
def nanosecondsOf (digits : List Char) : Nat :=
  let ds := (digits ++ List.replicate 9 '0').take 9
  ds.foldl (fun n c ↦ 10 * n + (c.toNat - 48)) 0

def readDigits : Nat → List Char → Option (Nat × List Char)
  | n, s =>
    let ds := s.take n
    if ds.length = n ∧ ds.all Char.isDigit then
      some (ds.foldl (fun n c ↦ 10 * n + (c.toNat - 48)) 0, s.drop n)
    else none

def readChar (c : Char) : List Char → Option (List Char)
  | d :: rest => if c = d then some rest else none
  | [] => none

def readOffset : List Char → Option (Int × List Char)
  | [] => none
  | c :: rest =>
    if c = 'Z' ∨ c = 'z' then some (0, rest)
    else if c = '+' ∨ c = '-' then do
      let (hours, rest) ← readDigits 2 rest
      let rest ← readChar ':' rest
      let (minutes, rest) ← readDigits 2 rest
      if 23 < hours ∨ 59 < minutes then none
      let size : Int := hours * 3600 + minutes * 60
      return (if c = '-' then -size else size, rest)
    else none

def readFraction : List Char → Option (List Char × List Char)
  | '.' :: rest =>
    let ds := rest.takeWhile Char.isDigit
    if ds.isEmpty then none else some (ds, rest.dropWhile Char.isDigit)
  | rest => some ([], rest)

def secondsPerDay : Int := 86400

def nanosecondsPerSecond : Int := 1000000000

def readSeparator : List Char → Option (List Char)
  | c :: rest => if c.toNat < 128 then some rest else none
  | [] => none

structure Fields where
  year : Nat
  month : Nat
  day : Nat
  hour : Nat
  minute : Nat
  second : Nat
  nanosecond : Nat
  offset : Int

def readFields (s : List Char) : Option Fields := do
  let (year, s) ← readDigits 4 s
  let s ← readChar '-' s
  let (month, s) ← readDigits 2 s
  let s ← readChar '-' s
  let (day, s) ← readDigits 2 s
  let s ← readSeparator s
  let (hour, s) ← readDigits 2 s
  let s ← readChar ':' s
  let (minute, s) ← readDigits 2 s
  let s ← readChar ':' s
  let (second, s) ← readDigits 2 s
  let (fraction, s) ← readFraction s
  let (offset, s) ← readOffset s
  if s.isEmpty then
    return ⟨year, month, day, hour, minute, second, nanosecondsOf fraction, offset⟩
  else none

def Fields.seconds? (f : Fields) : Option Int := do
  if 23 < f.hour ∨ 59 < f.minute ∨ 59 < f.second then none
  let days ← dayNumber? f.year f.month f.day
  return days * secondsPerDay + f.hour * 3600 + f.minute * 60 + f.second - f.offset

/-- Whether the given second is the last of a month in UTC. The date in UTC is that of the fields
or one of its neighbours. -/
def Fields.endsMonth (f : Fields) (seconds : Int) : Bool :=
  match dayNumber? f.year f.month f.day, (monthLengths f.year)[f.month - 1]? with
  | some days, some length =>
    let day := f.day + (seconds / secondsPerDay - days)
    (seconds + 1) % secondsPerDay == 0 && (day == 0 || day == length)
  | _, _ => false

/-- Reads a date-time of RFC 3339 and returns its nanoseconds since the start of 1970 in UTC. A
leap second, which only the end of a month in UTC can have, is the nanosecond before it. -/
def ofRfc3339? (s : List Char) : Option Int := do
  let f ← readFields s
  if f.second = 60 then
    let f : Fields := ⟨f.year, f.month, f.day, f.hour, f.minute, 59, 999999999, f.offset⟩
    let seconds ← f.seconds?
    if f.endsMonth seconds then return seconds * nanosecondsPerSecond + f.nanosecond else none
  else return (← f.seconds?) * nanosecondsPerSecond + f.nanosecond

def ofDigits? (s : List Char) : Option Int := do
  let (negative, digits) := match s with
    | '-' :: rest => (true, rest)
    | '+' :: rest => (false, rest)
    | rest => (false, rest)
  if digits.isEmpty ∨ !digits.all Char.isDigit then none
  let size : Int := digits.foldl (fun n c ↦ 10 * n + (c.toNat - 48)) (0 : Nat)
  let n := if negative then -size else size
  if -Int.pow 2 127 ≤ n ∧ n < Int.pow 2 127 then return n else none

def ofText? (s : String) : Option Int := ofDigits? s.toList <|> ofRfc3339? s.toList

end QueryCatalog.Instant
