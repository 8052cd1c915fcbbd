import RecordFilter.Calendar.DateTime
import RecordFilter.Text.Basic

/-!
# RecordFilter.Calendar.Reading

Dates and date-times as text. White space may stand in front of each number; nothing may follow the
last. Every reader takes what it needs and passes the rest on.
-/

namespace RecordFilter
namespace Calendar

open Number (isDigit ofDigits signed)

/-! ## Parts -/

/-- The digits in front, at most `limit` of them, at least one. -/
def takeDigits? (limit : Nat) (text : List Char) : Option (List Char × List Char) :=
  match (text.take limit).takeWhile isDigit with
  | [] => none
  | digits => some (digits, text.drop digits.length)

/-- A number of at most `limit` digits behind white space. -/
def takeNumber? (limit : Nat) (text : List Char) : Option (Nat × List Char) :=
  (takeDigits? limit (Text.trimStart text)).map fun (digits, rest) => (ofDigits digits, rest)

/-- Four digits at most, or any number of them behind a sign. -/
def takeYear? (text : List Char) : Option (Int × List Char) :=
  match Text.trimStart text with
  | '-' :: rest =>
    (takeDigits? rest.length rest).map fun (digits, rest) => (signed true (ofDigits digits), rest)
  | '+' :: rest =>
    (takeDigits? rest.length rest).map fun (digits, rest) => (signed false (ofDigits digits), rest)
  | rest =>
    (takeDigits? 4 rest).map fun (digits, rest) => (signed false (ofDigits digits), rest)

def takeMark? (mark : Char) : List Char → Option (List Char)
  | c :: rest => if c = mark then some rest else none
  | [] => none

def takeDate? (text : List Char) : Option (Date × List Char) := do
  let (year, rest) ← takeYear? text
  let rest ← takeMark? '-' rest
  let (month, rest) ← takeNumber? 2 rest
  let rest ← takeMark? '-' rest
  let (day, rest) ← takeNumber? 2 rest
  let date ← Date.make? year month day
  return (date, rest)

/-- Nanoseconds behind a point; digits past the ninth do not count. Without a point there are none. -/
def takeFraction? : List Char → Option (Nat × List Char)
  | '.' :: rest => do
    let (digits, rest) ← takeDigits? 9 rest
    return (ofDigits digits * Nat.pow 10 (9 - digits.length), rest.dropWhile isDigit)
  | rest => some (0, rest)

/-- The whole rest as seconds with a fraction. The second 60 is a leap second. -/
def readSeconds? (text : List Char) : Option (Nat × Nat) := do
  let rest ← takeMark? ':' text
  let (second, rest) ← takeNumber? 2 rest
  let (nano, rest) ← takeFraction? rest
  if !rest.isEmpty then none
  else if second = 60 then some (59, nanosPerSecond + nano)
  else some (second, nano)

/-! ## Whole texts -/

def readDate? (text : List Char) : Option Date :=
  match takeDate? text with
  | some (date, []) => some date
  | _ => none

/-- Date, `T`, hour and minute; seconds may follow. -/
def readTimed? (text : List Char) : Option DateTime := do
  let (date, rest) ← takeDate? text
  let rest ← takeMark? 'T' rest
  let (hour, rest) ← takeNumber? 2 rest
  let rest ← takeMark? ':' rest
  let (minute, rest) ← takeNumber? 2 rest
  let (second, nano) ← if rest.isEmpty then some (0, 0) else readSeconds? rest
  DateTime.make? date hour minute second nano

/-- Without a `T` a date stands for its first moment. -/
def readDateTime? (text : List Char) : Option DateTime :=
  if text.contains 'T' then readTimed? text else (readDate? text).map DateTime.startOfDay

end Calendar
end RecordFilter
