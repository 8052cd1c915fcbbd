/-!
# RecordFilter.Text.Utf8

Characters as UTF-8 bytes and back. The reader is a machine that takes one byte at a time; a byte
that cannot continue a character ends it as malformed and is read again as a first byte, so each
maximal malformed piece counts once.
-/

namespace RecordFilter
namespace Text
namespace Utf8

/-! ## Writing -/

def encodeChar (c : Char) : List Nat :=
  let n := c.toNat
  if n < 0x80 then [n]
  else if n < 0x800 then [0xC0 + n / 0x40, 0x80 + n % 0x40]
  else if n < 0x10000 then [0xE0 + n / 0x1000, 0x80 + n / 0x40 % 0x40, 0x80 + n % 0x40]
  else [0xF0 + n / 0x40000, 0x80 + n / 0x1000 % 0x40, 0x80 + n / 0x40 % 0x40, 0x80 + n % 0x40]

def encode (text : List Char) : List Nat := text.flatMap encodeChar

/-! ## Reading -/

/-- Between characters, or inside one: bytes still owed, the least and the greatest byte that may
come next, and the bits read so far. -/
inductive State where
  | start
  | inside (owed low high bits : Nat)

/-- `none` stands for a malformed piece. -/
def first (b : Nat) : List (Option Char) × State :=
  if b < 0x80 then ([some (Char.ofNat b)], .start)
  else if b < 0xC2 then ([none], .start)
  else if b < 0xE0 then ([], .inside 1 0x80 0xBF (b - 0xC0))
  else if b < 0xF0 then
    ([], .inside 2 (if b = 0xE0 then 0xA0 else 0x80) (if b = 0xED then 0x9F else 0xBF) (b - 0xE0))
  else if b < 0xF5 then
    ([], .inside 3 (if b = 0xF0 then 0x90 else 0x80) (if b = 0xF4 then 0x8F else 0xBF) (b - 0xF0))
  else ([none], .start)

def step : State → Nat → List (Option Char) × State
  | .start, b => first b
  | .inside owed low high bits, b =>
    if low ≤ b ∧ b ≤ high then
      let bits := bits * 0x40 + (b - 0x80)
      if owed ≤ 1 then ([some (Char.ofNat bits)], .start) else ([], .inside (owed - 1) 0x80 0xBF bits)
    else
      let (read, next) := first b
      (none :: read, next)

def run : State → List Nat → List (Option Char)
  | .start, [] => []
  | .inside .., [] => [none]
  | s, b :: rest =>
    let (read, next) := step s b
    read ++ run next rest

/-- Refuses malformed bytes. -/
def decode? (bytes : List Nat) : Option (List Char) := (run .start bytes).mapM id

/-- Writes the replacement character for each malformed piece. -/
def decodeLossy (bytes : List Nat) : List Char := (run .start bytes).map fun c => c.getD '\uFFFD'

end Utf8
end Text
end RecordFilter
