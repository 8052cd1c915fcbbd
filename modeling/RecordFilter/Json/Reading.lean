import RecordFilter.Json.Draft
import RecordFilter.Json.Number
import RecordFilter.Text.Basic
import RecordFilter.Text.PercentEncoding

/-!
# RecordFilter.Json.Reading

JSON texts. The text is cut into tokens first; then a machine takes one token at a time and keeps the
containers that are still open on a stack. It makes a draft, and the draft is resolved to a document.
-/

namespace RecordFilter
namespace Json

inductive Token where
  | openArray
  | closeArray
  | openObject
  | closeObject
  | comma
  | colon
  | text (value : Option String)
  | plain (value : Option Json)

/-! ## Texts -/

def hexQuad? (a b c d : Char) : Option Nat := do
  let high ← Text.hexByte? a b
  let low ← Text.hexByte? c d
  return high * 256 + low

def isHighSurrogate (n : Nat) : Bool := 0xD800 ≤ n && n < 0xDC00

def isLowSurrogate (n : Nat) : Bool := 0xDC00 ≤ n && n < 0xE000

def pairedSurrogates (high low : Nat) : Nat := 0x10000 + (high - 0xD800) * 0x400 + (low - 0xDC00)

/-- The character that a letter behind a backslash stands for. -/
def escaped? : Char → Option Char
  | '"' => some '"'
  | '\\' => some '\\'
  | '/' => some '/'
  | 'b' => some '\x08'
  | 'f' => some '\x0c'
  | 'n' => some '\n'
  | 'r' => some '\r'
  | 't' => some '\t'
  | _ => none

/-- A character of a text, or a 16-bit unit behind `\u`. -/
inductive Piece where
  | char (c : Char)
  | unit (n : Nat)
deriving DecidableEq, Repr

/-- The pieces up to the closing quote, and the rest. -/
def takePieces? : List Char → Option (List Piece × List Char)
  | '\\' :: 'u' :: a :: b :: c :: d :: rest =>
    match hexQuad? a b c d with
    | some n => put (.unit n) (takePieces? rest)
    | none => none
  | c :: rest =>
    if c = '"' then some ([], rest)
    else if c = '\\' then
      match rest with
      | [] => none
      | letter :: rest =>
        match escaped? letter with
        | some read => put (.char read) (takePieces? rest)
        | none => none
    else if c.toNat < 0x20 then none
    else put (.char c) (takePieces? rest)
  | [] => none
where
  put (piece : Piece) (read : Option (List Piece × List Char)) : Option (List Piece × List Char) :=
    read.map fun (pieces, rest) => (piece :: pieces, rest)

/-- The characters of the pieces. `high` is the first half of a surrogate pair whose second half must
come next; neither half stands for a character alone. -/
def charsOf? (high : Option Nat) : List Piece → Option (List Char)
  | [] => if high.isSome then none else some []
  | .char c :: rest => if high.isSome then none else (charsOf? none rest).map fun text => c :: text
  | .unit n :: rest =>
    match high with
    | some first =>
      if isLowSurrogate n then
        (charsOf? none rest).map fun text => Char.ofNat (pairedSurrogates first n) :: text
      else none
    | none =>
      if isHighSurrogate n then charsOf? (some n) rest
      else if isLowSurrogate n then none
      else (charsOf? none rest).map fun text => Char.ofNat n :: text

/-! ## Tokens -/

def isSpace (c : Char) : Bool := c = ' ' || c = '\n' || c = '\t' || c = '\r'

def words : List (List Char × Json) :=
  [("null".toList, .null), ("true".toList, .bool true), ("false".toList, .bool false)]

def takeWord? (text : List Char) : Option (Token × List Char) :=
  words.findSome? fun (word, value) =>
    (Text.dropStart? word text).map fun rest => (.plain (some value), rest)

def takeNumber? (text : List Char) : Option (Token × List Char) :=
  (Numeral.take? text).map fun (written, rest) => (.plain (Numeral.value? written), rest)

def takeText? (text : List Char) : Option (Token × List Char) :=
  (takePieces? text).map fun (pieces, rest) => (.text ((charsOf? none pieces).map String.ofList), rest)

/-- The token in front of a text that begins with no space. -/
def takeToken? : List Char → Option (Token × List Char)
  | '[' :: rest => some (.openArray, rest)
  | ']' :: rest => some (.closeArray, rest)
  | '\x7b' :: rest => some (.openObject, rest)
  | '\x7d' :: rest => some (.closeObject, rest)
  | ',' :: rest => some (.comma, rest)
  | ':' :: rest => some (.colon, rest)
  | '"' :: rest => takeText? rest
  | text => (takeWord? text).or (takeNumber? text)

/-- A token is at least one character long, so as many steps as characters suffice. -/
def tokensFrom? : Nat → List Char → Option (List Token)
  | 0, text => if (text.dropWhile isSpace).isEmpty then some [] else none
  | fuel + 1, text =>
    match text.dropWhile isSpace with
    | [] => some []
    | text =>
      match takeToken? text with
      | none => none
      | some (token, rest) => (tokensFrom? fuel rest).map fun tokens => token :: tokens

def tokens? (text : List Char) : Option (List Token) := tokensFrom? text.length text

/-! ## Machine -/

/-- A container that is still open; what it holds so far stands in reverse. -/
inductive Frame where
  | items (done : List Draft)
  | members (done : Draft.Members) (name : Option String)

/-- What may come next, inside the open containers. -/
inductive State where
  | value (stack : List Frame)
  | firstItem (stack : List Frame)
  | firstName (stack : List Frame)
  | name (done : Draft.Members) (stack : List Frame)
  | colon (done : Draft.Members) (name : Option String) (stack : List Frame)
  | after (value : Draft) (stack : List Frame)

def beginValue (stack : List Frame) : Token → Option State
  | .openArray => some (.firstItem stack)
  | .openObject => some (.firstName stack)
  | .text value => some (.after (.leaf (value.map .string)) stack)
  | .plain value => some (.after (.leaf value) stack)
  | _ => none

def step : State → Token → Option State
  | .value stack, token => beginValue stack token
  | .firstItem stack, .closeArray => some (.after (.array []) stack)
  | .firstItem stack, token => beginValue (.items [] :: stack) token
  | .firstName stack, .closeObject => some (.after (.object []) stack)
  | .firstName stack, .text name => some (.colon [] name stack)
  | .name done stack, .text name => some (.colon done name stack)
  | .colon done name stack, .colon => some (.value (.members done name :: stack))
  | .after value (.items done :: stack), .comma => some (.value (.items (value :: done) :: stack))
  | .after value (.items done :: stack), .closeArray =>
    some (.after (.array (value :: done).reverse) stack)
  | .after value (.members done name :: stack), .comma => some (.name ((name, value) :: done) stack)
  | .after value (.members done name :: stack), .closeObject =>
    some (.after (.object ((name, value) :: done).reverse) stack)
  | _, _ => none

def run (state : State) (tokens : List Token) : Option State := tokens.foldlM step state

/-- The draft that a text holds, and nothing else. -/
def draft? (text : List Char) : Option Draft :=
  match (tokens? text).bind (run (.value [])) with
  | some (.after draft []) => some draft
  | _ => none

/-- The document that a text holds, with at most `limit` containers inside each other. -/
def read? (limit : Nat) (text : List Char) : Option Json := (draft? text).bind (Draft.resolve? limit)

/-- How deep the documents that come from outside may be nested. -/
def nestingLimit : Nat := 127

/-- A document with merged members. -/
def parse? (text : String) : Option Json := (read? nestingLimit text.toList).map normalize

end Json
end RecordFilter
