import WorkloadForms.Text.Ascii
import WorkloadForms.Text.Blank

/-!
# Points in time

A point in time is written as a date, a time of day and the offset of its clock. The form is that of
RFC 3339 with some liberty: there may be blanks around the numbers, a number may have fewer digits,
a year may have a sign and then any number of digits, and the offset may be written as `UTC`.
`isTime` says which texts are points in time.
-/

namespace WorkloadForms.Text

/-- Whether a year has a day more than most. -/
def isLeapYear (year : Int) : Bool := year % 4 == 0 && (year % 100 != 0 || year % 400 == 0)

/-- The number of days of a month. -/
def daysOfMonth (year : Int) (month : Nat) : Nat :=
  if month == 2 then if isLeapYear year then 29 else 28
  else if [4, 6, 9, 11].contains month then 30
  else 31

/-- Whether there is a day in the calendar, which has a first and a last year. -/
def isDate (year : Int) (month day : Nat) : Bool :=
  -262143 ≤ year && year ≤ 262142 && 1 ≤ month && month ≤ 12 && 1 ≤ day
    && day ≤ daysOfMonth year month

/-- Whether there is a time of day; a minute may have a leap second. -/
def isTimeOfDay (hour minute second : Nat) : Bool := hour < 24 && minute < 60 && second ≤ 60

/-- A character of a set at the front, and the rest. -/
def takeOne? (set : List Char) : List Char → Option (Char × List Char)
  | c :: rest => if set.contains c then some (c, rest) else none
  | [] => none

/-- A number of at least one and at most `width` digits at the front, and the rest. -/
def takeNumber? (width : Nat) (s : List Char) : Option (Nat × List Char) :=
  let digits := (s.take width).takeWhile isDigit
  (number? 10 digits).map fun n => (n, s.drop digits.length)

/-- A year at the front, and the rest. Without a sign a year has at most four digits. -/
def takeYear? (s : List Char) : Option (Int × List Char) :=
  match takeOne? ['+', '-'] s with
  | some (sign, rest) => (takeNumber? rest.length rest).map fun (n, rest) =>
      (if sign == '-' then -(n : Int) else n, rest)
  | none => (takeNumber? 4 s).map fun (n, rest) => ((n : Int), rest)

/-- A number of at most two digits behind a separator, with blanks around it, and the rest. -/
def takePart? (separator : Char) (s : List Char) : Option (Nat × List Char) := do
  let (_, s) ← takeOne? [separator] (trimLeft s)
  takeNumber? 2 (trimLeft s)

/-- What is behind the fraction of a second, if there is one. -/
def afterFraction? : List Char → Option (List Char)
  | '.' :: rest => if rest.head?.any isDigit then some (rest.dropWhile isDigit) else none
  | rest => some rest

/-- A number of exactly two digits at the front, and the rest. -/
def takeTwo? (s : List Char) : Option (Nat × List Char) :=
  if (s.take 2).length == 2 && (s.take 2).all isDigit then takeNumber? 2 s else none

/-- What is behind the offset of a clock, which is less than a day. -/
def afterOffset? (s : List Char) : Option (List Char) :=
  if sameIgnoringCase (String.ofList (s.take 3)) "UTC" then some (s.drop 3)
  else if s.head?.any ['Z', 'z'].contains then some s.tail
  else do
    let (_, s) ← takeOne? ['+', '-', '−'] s
    let (hours, s) ← takeTwo? s
    let (minutes, s) ← takeTwo? (s.dropWhile fun c => c == ':' || isBlank c)
    if hours < 24 && minutes < 60 then some s else none

/-- Whether a text is a point in time. -/
def isTime (s : String) : Bool :=
  (do
    let (year, s) ← takeYear? (trimLeft s.toList)
    let (month, s) ← takePart? '-' s
    let (day, s) ← takePart? '-' s
    let (_, s) ← takeOne? ['T', 't', ' '] s
    let (hour, s) ← takeNumber? 2 (trimLeft s)
    let (minute, s) ← takePart? ':' s
    let (second, s) ← takePart? ':' s
    let s ← afterOffset? (trimLeft (← afterFraction? s))
    return isDate year month day && isTimeOfDay hour minute second && s.all isBlank) == some true

example : isTime "2024-02-29T23:59:60.5+05:30" = true := by decide +kernel

example : ["2024-13-01T00:00:00Z", "2023-02-29T00:00:00Z", "2024-02-01T00:00:00"].all
    (!isTime ·) = true := by decide +kernel

end WorkloadForms.Text
