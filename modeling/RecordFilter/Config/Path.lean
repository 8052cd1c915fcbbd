import RecordFilter.Text.Basic

/-!
# RecordFilter.Config.Path

Paths as they are given and as they are looked up. Nothing is resolved: `.` and `..` stay.
-/

namespace RecordFilter
namespace Config

def isAbsolute (path : List Char) : Bool :=
  match path with
  | '/' :: _ => true
  | _ => false

/-- An absolute path does not need the base. -/
def joinPath (base path : List Char) : List Char :=
  if isAbsolute path then path
  else
    match base.getLast? with
    | none => path
    | some '/' => base ++ path
    | some _ => base ++ '/' :: path

/-- Replaces `~` and `~/` in front by the home directory. -/
def expandHome (home path : List Char) : List Char :=
  match path with
  | [] => ['.']
  | ['~'] => home
  | '~' :: '/' :: rest => joinPath home rest
  | _ => path

/-- The absolute form of a path without the white space around it. -/
def expandChars (home cwd path : List Char) : List Char :=
  let expanded := expandHome home (Text.trim path)
  if isAbsolute expanded then expanded else joinPath cwd expanded

def expandPath (home cwd path : String) : String :=
  String.ofList (expandChars home.toList cwd.toList path.toList)

end Config
end RecordFilter
