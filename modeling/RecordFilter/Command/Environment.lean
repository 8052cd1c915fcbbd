import RecordFilter.Config.Settings
import RecordFilter.Number.Integer
import RecordFilter.Unicode.Alphanumeric

/-!
# RecordFilter.Command.Environment

Environment variables, and the file `.env` that adds to them. A line of the file is `NAME=value`,
`export NAME=value`, blank or a comment. Values may be quoted, and `$NAME` stands for a variable.
-/

namespace RecordFilter
namespace Command

abbrev Environment : Type := List (String × String)

namespace EnvironmentFile

/-! ## Logical lines -/

/-- Where a scan of the lines is: outside of quotes, behind a blank, behind a backslash, or between
quotes of either kind. -/
inductive Mark where
  | plain
  | blank
  | escape
  | weak
  | weakEscape
  | strong
  | strongEscape
deriving DecidableEq

def opened (c : Char) : Mark :=
  match c with
  | '\\' => .escape
  | '"' => .weak
  | '\'' => .strong
  | _ => .plain

def Mark.next (mark : Mark) (c : Char) : Mark :=
  match mark with
  | .blank => opened c
  | .escape => .plain
  | .plain => if Text.isBlank c ∧ c ≠ '\n' ∧ c ≠ '\r' then .blank else opened c
  | .weak => if c = '\\' then .weakEscape else if c = '"' then .plain else .weak
  | .weakEscape => .weak
  | .strong => if c = '\\' then .strongEscape else if c = '\'' then .plain else .strong
  | .strongEscape => .strong

/-- The text up to a comment behind a blank, if there is one, and the mark at the end. -/
def scanLine (mark : Mark) : List Char → List Char × Option Mark
  | [] => ([], some mark)
  | c :: rest =>
    if mark = .blank ∧ c = '#' then ([], none)
    else
      let (kept, last) := scanLine (mark.next c) rest
      (c :: kept, last)

/-- The physical lines with their line ends. -/
def physicalLines (text : List Char) : List (List Char) :=
  match Text.split '\n' text with
  | [] => []
  | pieces =>
    (pieces.dropLast.map fun line => line ++ ['\n']) ++ (pieces.getLast?.toList.filter (· ≠ []))

def dropLineEnd (line : List Char) : List Char :=
  match line.reverse with
  | '\n' :: '\r' :: rest => rest.reverse
  | '\n' :: rest => rest.reverse
  | _ => line

def isComment (line : List Char) : Bool := (Text.trimStart line).head? == some '#'

/-- Lines are joined while a quote is open. A quote that stays open ends in `none`. -/
def logicalLines (held : List Char) (mark : Mark) : List (List Char) → List (Option (List Char))
  | [] => if mark = .plain then [] else [none]
  | line :: rest =>
    if isComment (held ++ line) then some [] :: logicalLines [] .plain rest
    else
      let (kept, last) := scanLine mark line
      match last with
      | none => some (held ++ kept) :: logicalLines [] .plain rest
      | some .plain => some (dropLineEnd (held ++ kept)) :: logicalLines [] .plain rest
      | some mark => logicalLines (held ++ kept) mark rest

/-! ## Values -/

def isLetter (c : Char) : Bool := c.isAlpha

/-- A variable as it is being read behind `$`, with or without braces. -/
inductive Name where
  | none
  | bare (name : List Char)
  | braced (name : List Char)

/-- What the next character means, with the output so far in reverse. -/
structure Value where
  output : List Char
  strong : Bool
  weak : Bool
  escaped : Bool
  ending : Bool
  name : Name

def Value.start : Value := ⟨[], false, false, false, false, .none⟩

def Value.put (v : Value) (c : Char) : Value := { v with output := c :: v.output }

/-- The variable that has been read is replaced by its value. -/
def Value.substitute (v : Value) (lookup : String → String) (name : List Char) : Value :=
  { v with output := (lookup (String.ofList name)).toList.reverse ++ v.output, name := .none }

/-- Outside of quotes and names. -/
def Value.unquoted (v : Value) (c : Char) : Value :=
  if c = '\'' then { v with strong := true }
  else if c = '"' then { v with weak := true }
  else if c = '\\' then { v with escaped := true }
  else if c = ' ' ∨ c = '\t' then { v with ending := true }
  else v.put c

def Value.afterEscape? (v : Value) (c : Char) : Option Value :=
  let v := { v with escaped := false }
  match c with
  | '\\' | '\'' | '"' | '$' | ' ' => some (v.put c)
  | 'n' => some (v.put '\n')
  | _ => none

/-- A name goes on over letters and numbers of any script; between braces up to the closing one. -/
def Value.inName (v : Value) (lookup : String → String) (c : Char) : Value :=
  match v.name with
  | .none => v
  | .bare name =>
    if Unicode.isAlphanumeric c then { v with name := .bare (name ++ [c]) }
    else if c = '\x7b' ∧ name.isEmpty then { v with name := .braced [] }
    else
      let v := v.substitute lookup name
      if c = '$' then { v with name := .bare [] } else v.put c
  | .braced name =>
    if c = '\x7d' then v.substitute lookup name else { v with name := .braced (name ++ [c]) }

def Name.isNone : Name → Bool
  | .none => true
  | _ => false

/-- One character of a value. Behind a blank only blanks and a comment may follow; `none` in the
second place says that the rest is a comment. -/
def Value.step (lookup : String → String) (v : Value) (c : Char) : Option (Value × Bool) :=
  if v.ending then
    if c = ' ' ∨ c = '\t' then some (v, true)
    else if c = '#' then some (v, false)
    else none
  else if v.escaped then (v.afterEscape? c).map fun v => (v, true)
  else if v.strong then some (if c = '\'' then { v with strong := false } else v.put c, true)
  else if !v.name.isNone then some (v.inName lookup c, true)
  else if c = '$' then some ({ v with name := .bare [] }, true)
  else if v.weak then
    some
      (if c = '"' then { v with weak := false }
        else if c = '\\' then { v with escaped := true }
        else v.put c, true)
  else some (v.unquoted c, true)

def Value.run (lookup : String → String) (v : Value) : List Char → Option Value
  | [] => some v
  | c :: rest =>
    match v.step lookup c with
    | none => none
    | some (v, true) => Value.run lookup v rest
    | some (v, false) => some v

def Value.finish? (lookup : String → String) (v : Value) : Option String :=
  if v.strong || v.weak then none
  else
    match v.name with
    | .none => some (String.ofList v.output.reverse)
    | .bare name => some (String.ofList (v.substitute lookup name).output.reverse)
    | .braced _ => none

def value? (lookup : String → String) (text : List Char) : Option String :=
  (Value.start.run lookup text).bind (Value.finish? lookup)

/-! ## Lines -/

/-- The name of a variable that is set has ASCII letters and digits only. -/
def takeKey? (line : List Char) : Option (List Char × List Char) :=
  match line with
  | [] => none
  | c :: _ =>
    if isLetter c || c = '_' then
      let key := line.takeWhile fun c => c.isAlphanum || c = '_' || c = '.'
      some (key, Text.trimStart (line.drop key.length))
    else none

def takeEqual? : List Char → Option (List Char)
  | '=' :: rest => some (Text.trimStart rest)
  | _ => none

/-- The name and the text behind `=`. The word `export` in front does not count. -/
def splitLine? (line : List Char) : Option (String × List Char) := do
  let (key, rest) ← takeKey? line
  match takeEqual? rest with
  | some text => return (String.ofList key, text)
  | none =>
    if key = "export".toList then
      let (key, rest) ← takeKey? rest
      return (String.ofList key, ← takeEqual? rest)
    else none

/-- `none` where the line cannot be read, nothing inside where it says nothing. Blanks at both ends of
the line do not count, nor do they behind a backslash. -/
def readLine? (lookup : String → String) (line : List Char) : Option (Option (String × String)) :=
  match Text.trim line with
  | [] => some none
  | '#' :: _ => some none
  | line =>
    match splitLine? line with
    | none => none
    | some (key, []) => some (some (key, ""))
    | some (key, '#' :: _) => some (some (key, ""))
    | some (key, text) => (value? lookup text).map fun value => some (key, value)

/-! ## File -/

/-- A variable that is set already keeps its value. -/
def define (env : Environment) (key value : String) : Environment :=
  if (env.lookup key).isSome then env else env ++ [(key, value)]

/-- The file is read up to the first line that cannot be read. Names stand for variables that are
set, and then for the last value of that name in the file. -/
def apply (env defined : Environment) : List (Option (List Char)) → Environment
  | [] => env
  | none :: _ => env
  | some line :: rest =>
    let lookup (name : String) : String := ((env.lookup name).or (defined.lookup name)).getD ""
    match readLine? lookup line with
    | none => env
    | some none => apply env defined rest
    | some (some (key, value)) => apply (define env key value) ((key, value) :: defined) rest

def dropMark (text : List Char) : List Char :=
  match text with
  | '\uFEFF' :: rest => rest
  | _ => text

def load (env : Environment) (text : String) : Environment :=
  apply env [] (logicalLines [] .plain (physicalLines (dropMark text.toList)))

end EnvironmentFile

/-! ## Looking for the file -/

/-- A directory and those above it, the innermost first. -/
def ancestors (names : List String) : List String :=
  (List.range (names.length + 1)).map fun up =>
    "/" ++ Text.joined "/" (names.take (names.length - up))

/-- The file in the innermost directory that has one. -/
def environmentFile {m : Type → Type} [Monad m] (look : String → m Config.Node) :
    List String → m (Option String)
  | [] => return none
  | directory :: rest => do
    match ← look (String.ofList (Config.joinPath directory.toList ".env".toList)) with
    | .text content => return some content
    | _ => environmentFile look rest

end Command
end RecordFilter
