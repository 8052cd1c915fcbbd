import RecordFilter.Unicode.Hidden

/-!
# RecordFilter.Text.Quoted

A text between double quotes in one readable line: quotes, backslashes and line ends are escaped
by a letter, hidden characters by their code point in hexadecimal.
-/

namespace RecordFilter
namespace Text

def hexDigit (d : Nat) : Char :=
  if d < 10 then Char.ofNat (0x30 + d) else Char.ofNat (0x57 + d)

/-- Lower-case hexadecimal digits of a number below `16 ^ width`, without leading zeros. -/
def hexDigits (width n : Nat) : List Char :=
  match width with
  | 0 => []
  | width + 1 => if n < 16 then [hexDigit n] else hexDigits width (n / 16) ++ [hexDigit (n % 16)]

def quoteChar (c : Char) : List Char :=
  match c with
  | '"' => ['\\', '"']
  | '\\' => ['\\', '\\']
  | '\n' => ['\\', 'n']
  | '\r' => ['\\', 'r']
  | '\t' => ['\\', 't']
  | '\x00' => ['\\', '0']
  | _ =>
    if Unicode.isHidden c then ['\\', 'u', '\x7b'] ++ hexDigits 6 c.toNat ++ ['\x7d'] else [c]

def quote (text : List Char) : List Char := '"' :: text.flatMap quoteChar ++ ['"']

def quoted (text : String) : String := String.ofList (quote text.toList)

end Text
end RecordFilter
