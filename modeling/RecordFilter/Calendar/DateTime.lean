import RecordFilter.Calendar.Date

/-!
# RecordFilter.Calendar.DateTime

A date and a time of day. A leap second is the second 59 with a nanosecond of one thousand million or
more, so it comes after all other moments of its minute.
-/

namespace RecordFilter
namespace Calendar

def nanosPerSecond : Nat := 1000000000

def IsTime (hour minute second nano : Nat) : Prop :=
  (hour < 24 ∧ minute < 60 ∧ second < 60) ∧
    (nano < nanosPerSecond ∨ (second = 59 ∧ nano < 2 * nanosPerSecond))

instance (hour minute second nano : Nat) : Decidable (IsTime hour minute second nano) := by
  unfold IsTime
  infer_instance

structure DateTime where
  date : Date
  hour : Nat
  minute : Nat
  second : Nat
  nano : Nat
  isTime : IsTime hour minute second nano
deriving DecidableEq

namespace DateTime

def make? (date : Date) (hour minute second nano : Nat) : Option DateTime :=
  if h : IsTime hour minute second nano then some ⟨date, hour, minute, second, nano, h⟩ else none

def startOfDay (date : Date) : DateTime := ⟨date, 0, 0, 0, 0, by decide⟩

def compareTo (a b : DateTime) : Ordering :=
  (a.date.compareTo b.date).then
    ((compare a.hour b.hour).then
      ((compare a.minute b.minute).then
        ((compare a.second b.second).then (compare a.nano b.nano))))

/-- Milliseconds, microseconds or nanoseconds, whichever is exact; nothing for a whole second. -/
def writeFraction (nano : Nat) : List Char :=
  if nano = 0 then []
  else if nano % 1000000 = 0 then '.' :: Number.padded 3 (nano / 1000000)
  else if nano % 1000 = 0 then '.' :: Number.padded 6 (nano / 1000)
  else '.' :: Number.padded 9 nano

def write (t : DateTime) : List Char :=
  t.date.write ++ 'T' :: Number.padded 2 t.hour ++ ':' :: Number.padded 2 t.minute ++
    ':' :: Number.padded 2 (t.second + t.nano / nanosPerSecond) ++
    writeFraction (t.nano % nanosPerSecond)

end DateTime
end Calendar
end RecordFilter
