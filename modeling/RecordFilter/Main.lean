import RecordFilter.Command.Run

/-!
# RecordFilter.Main

The program on the command line. All that is done here is to read files and variables, and to print.
-/

namespace RecordFilter
namespace Program

/-- A file that cannot be read although it is there counts as a directory. -/
def look (path : String) : IO Config.Node := do
  try
    return .text (← IO.FS.readFile path)
  catch error =>
    match error with
    | .noFileOrDirectory .. => return .missing
    | _ => return .directory

def givenVariables : IO Command.Environment := do
  let names := Command.Setting.all.map Command.Setting.variableName
  let values ← names.mapM fun name => do return (name, ← IO.getEnv name)
  return values.filterMap fun (name, value) => value.map fun value => (name, value)

def place : IO (Config.Place IO) := do
  let home := (← IO.getEnv "HOME").getD "/"
  return ⟨home, (← IO.currentDir).toString, look⟩

end Program
end RecordFilter

open RecordFilter in
def main (words : List String) : IO UInt32 := do
  let outcome ← Command.run (← Program.place) (← Program.givenVariables) words
  let result := outcome.result
  (← IO.getStdout).putStr result.output
  (← IO.getStderr).putStr result.errors
  return UInt32.ofNat result.exit
