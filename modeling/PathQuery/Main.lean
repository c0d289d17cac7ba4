import PathQuery.CommandLine.Run

/-!
# The program

`main` runs the command line with the files, the standard input and the variables of the system.
-/

namespace PathQuery.CommandLine

/-- A text read from the system, or why it could not be read. -/
def readText (action : IO String) : IO (Except String String) := do
  try
    return .ok (← action)
  catch e =>
    match e with
    | .noFileOrDirectory .. => return .error "No such file or directory (os error 2)"
    | e => return .error (toString e)

def readInput : IO String := do
  let stdin ← IO.getStdin
  let mut text := ""
  let mut line ← stdin.getLine
  while line ≠ "" do
    text := text ++ line
    line ← stdin.getLine
  return text

/-- The variables that the configuration is read from. -/
def systemEnvironment : IO Environment := do
  let mut env := Environment.empty
  for key in [Config.limitKey, Config.depthKey, Config.strictKey] do
    if let some value ← IO.getEnv key then
      env := env.set key value
  return env

def systemSources : Sources IO := ⟨fun path => readText (IO.FS.readFile path), readText readInput⟩

end PathQuery.CommandLine

def main (args : List String) : IO UInt32 := do
  let env ← PathQuery.CommandLine.systemEnvironment
  let outcome ← PathQuery.CommandLine.run env PathQuery.CommandLine.systemSources args
  IO.print outcome.stdout
  IO.eprint outcome.stderr
  return outcome.exit
