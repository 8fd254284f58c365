import AbiBridge.Text.DecimalDigit

/-!
# Dates and times

The form of dates, times of the day, and both together, in configuration files.
Nothing is configured by them, so only where one ends is of interest.
-/

namespace AbiBridge.Toml

def readPair (low high : Nat) : List Char → Option (Nat × List Char)
  | a :: b :: cs => ((Text.numeral? 10 [a, b]).filter fun n => low ≤ n && n ≤ high).map (·, cs)
  | _ => none

/-- A year with a day more: every fourth, but of the full centuries only every fourth. -/
def isLeapYear (year : Nat) : Bool :=
  year % 4 == 0 && (year % 100 != 0 || year % 400 == 0)

def daysInMonth (year month : Nat) : Nat :=
  if month = 2 then if isLeapYear year then 29 else 28
  else if month ∈ [4, 6, 9, 11] then 30
  else 31

def afterMark? (mark : Char) : List Char → Option (List Char)
  | c :: cs => if c = mark then some cs else none
  | [] => none

/-- What follows a date: a year of four digits, a month and a day. -/
def afterDate? : List Char → Option (List Char)
  | a :: b :: c :: d :: cs => do
    let year ← Text.numeral? 10 [a, b, c, d]
    let (month, cs) ← readPair 1 12 (← afterMark? '-' cs)
    let (_, cs) ← readPair 1 (daysInMonth year month) (← afterMark? '-' cs)
    some cs
  | _ => none

def afterMinute? (cs : List Char) : Option (List Char) := do
  let (_, cs) ← readPair 0 23 cs
  let (_, cs) ← readPair 0 59 (← afterMark? ':' cs)
  some cs

def skipFraction (cs : List Char) : List Char :=
  match cs with
  | '.' :: c :: rest => if c.isDigit then rest.dropWhile Char.isDigit else cs
  | _ => cs

/-- What follows a time of the day, which may count a leap second. -/
def afterTime? (cs : List Char) : Option (List Char) := do
  let cs ← afterMinute? cs
  let (_, cs) ← readPair 0 60 (← afterMark? ':' cs)
  some (skipFraction cs)

/-- What follows the distance to universal time, if it is given. -/
def skipOffset (cs : List Char) : List Char :=
  match cs with
  | c :: rest =>
    if c ∈ ['Z', 'z'] then rest
    else if c ∈ ['+', '-'] then (afterMinute? rest).getD cs
    else cs
  | [] => cs

def skipTimeOfDate (cs : List Char) : List Char :=
  match cs with
  | c :: rest =>
    if c ∈ ['T', 't', ' '] then
      match afterTime? rest with
      | some rest => skipOffset rest
      | none => cs
    else cs
  | [] => cs

def afterMoment? (cs : List Char) : Option (List Char) :=
  match afterDate? cs with
  | some rest => some (skipTimeOfDate rest)
  | none => afterTime? cs

end AbiBridge.Toml
