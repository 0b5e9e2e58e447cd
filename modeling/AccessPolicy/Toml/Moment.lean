/-!
# Dates and times of TOML

A moment is a date, a time of day, or both with an offset from universal time if
need be.  It is checked against the calendar and not evaluated further.
-/

namespace AccessPolicy.Toml

/-- The number that exactly so many decimal digits spell, and what follows
them. -/
def fixedDigits? (digits : Nat) (text : List Char) : Option (Nat × List Char) :=
  let found := text.take digits
  if found.length = digits && found.all Char.isDigit then
    some (Nat.ofDigitChars 10 found 0, text.drop digits)
  else none

/-- Two digits of a number between bounds, and what follows them. -/
def twoDigits? (least greatest : Nat) (text : List Char) :
    Option (Nat × List Char) := do
  let (value, rest) ← fixedDigits? 2 text
  if least ≤ value && value ≤ greatest then some (value, rest) else none

def pass? (c : Char) : List Char → Option (List Char)
  | head :: rest => if head = c then some rest else none
  | [] => none

def isLeapYear (year : Nat) : Bool :=
  year % 4 = 0 && (year % 100 ≠ 0 || year % 400 = 0)

def daysOf (year month : Nat) : Nat :=
  if month = 2 then if isLeapYear year then 29 else 28
  else if month = 4 || month = 6 || month = 9 || month = 11 then 30
  else 31

def date? (text : List Char) : Option (List Char) := do
  let (year, rest) ← fixedDigits? 4 text
  let (month, rest) ← twoDigits? 1 12 (← pass? '-' rest)
  let (_, rest) ← twoDigits? 1 (daysOf year month) (← pass? '-' rest)
  pure rest

def skipFraction : List Char → List Char
  | '.' :: digit :: rest =>
    if digit.isDigit then rest.dropWhile Char.isDigit else '.' :: digit :: rest
  | text => text

/-- Pass over a time of day.  A minute may have a leap second. -/
def time? (text : List Char) : Option (List Char) := do
  let (_, rest) ← twoDigits? 0 23 text
  let (_, rest) ← twoDigits? 0 59 (← pass? ':' rest)
  let (_, rest) ← twoDigits? 0 60 (← pass? ':' rest)
  pure (skipFraction rest)

def offset? : List Char → Option (List Char)
  | mark :: rest =>
    if mark = 'Z' || mark = 'z' then some rest
    else if mark = '+' || mark = '-' then do
      let (_, rest) ← twoDigits? 0 23 rest
      let (_, rest) ← twoDigits? 0 59 (← pass? ':' rest)
      pure rest
    else none
  | [] => none

/-- Pass over the time of day of a date, which a letter or one space sets
off. -/
def timeOfDate? : List Char → Option (List Char)
  | mark :: rest =>
    if mark = 'T' || mark = 't' || mark = ' ' then
      (time? rest).map fun later => (offset? later).getD later
    else none
  | [] => none

def moment? (text : List Char) : Option (List Char) :=
  match date? text with
  | some rest => some ((timeOfDate? rest).getD rest)
  | none => time? text

end AccessPolicy.Toml
