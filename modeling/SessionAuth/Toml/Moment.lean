import SessionAuth.Decimal.Digits

/-!
Dates and times in TOML documents, each of which may stand alone. They are brought into one form: a
capital letter between date and time, at most nine digits of a second without zeros at the end, and
offsets in hours and minutes.
-/

set_option autoImplicit false

namespace SessionAuth.Toml

/-- A number of so many digits at the front of a text. -/
def takeNumber? (width : Nat) (l : List Char) : Option (Nat × List Char) := do
  if l.length < width then none else some (← Decimal.read? (l.take width), l.drop width)

/-- A given character, and the text behind it. -/
def behind? (c : Char) : List Char → Option (List Char)
  | [] => none
  | d :: rest => if c = d then some rest else none

/-- Whether a year has a day more. -/
def isLeapYear (year : Nat) : Bool :=
  year % 4 = 0 && (year % 100 ≠ 0 || year % 400 = 0)

/-- How many days a month has. -/
def daysInMonth (year month : Nat) : Nat :=
  if month = 2 then (if isLeapYear year then 29 else 28)
  else if month = 4 ∨ month = 6 ∨ month = 9 ∨ month = 11 then 30
  else 31

/-- A date at the front of a text, in its form. -/
def takeDate? (l : List Char) : Option (List Char × List Char) := do
  let (year, rest) ← takeNumber? 4 l
  let (month, rest) ← takeNumber? 2 (← behind? '-' rest)
  let (day, rest) ← takeNumber? 2 (← behind? '-' rest)
  if 1 ≤ month ∧ month ≤ 12 ∧ 1 ≤ day ∧ day ≤ daysInMonth year month then
    some (l.take 10, rest)
  else none

/-- The digits of a second at the front of a text, in their form with the point. -/
def takeFraction? (l : List Char) : Option (List Char × List Char) :=
  match l with
  | '.' :: rest =>
    let digits := rest.takeWhile Decimal.isDigit
    let kept := ((digits.take 9).reverse.dropWhile (· = '0')).reverse
    if digits.isEmpty then none
    else some (if kept.isEmpty then [] else '.' :: kept, rest.dropWhile Decimal.isDigit)
  | _ => some ([], l)

/-- A time at the front of a text, in its form. -/
def takeTime? (l : List Char) : Option (List Char × List Char) := do
  let (hour, rest) ← takeNumber? 2 l
  let (minute, rest) ← takeNumber? 2 (← behind? ':' rest)
  let (second, rest) ← takeNumber? 2 (← behind? ':' rest)
  let (fraction, rest) ← takeFraction? rest
  if hour ≤ 23 ∧ minute ≤ 59 ∧ second ≤ 60 then some (l.take 8 ++ fraction, rest) else none

/-- An offset, or none, that ends a text, in its form. -/
def offset? (l : List Char) : Option (List Char) :=
  match l with
  | [] => some []
  | ['Z'] | ['z'] => some ['Z']
  | sign :: rest => do
    let (hour, more) ← takeNumber? 2 rest
    let (minute, more) ← takeNumber? 2 (← behind? ':' more)
    let isSign := sign = '+' ∨ sign = '-'
    if isSign ∧ hour ≤ 23 ∧ minute ≤ 59 ∧ more.isEmpty then
      some ((if hour = 0 ∧ minute = 0 then '+' else sign) :: rest)
    else none

/-- A date, a time, or both with or without an offset, in its form. -/
def moment? (l : List Char) : Option (List Char) :=
  match takeDate? l with
  | some (date, []) => some date
  | some (date, separator :: rest) => do
    if separator = 'T' ∨ separator = 't' ∨ separator = ' ' then
      let (time, rest) ← takeTime? rest
      return date ++ 'T' :: time ++ (← offset? rest)
    else none
  | none => do
    let (time, rest) ← takeTime? l
    if rest.isEmpty then some time else none

end SessionAuth.Toml
