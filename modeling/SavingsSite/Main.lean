import SavingsSite.Service.Launch

set_option autoImplicit false

/-! The command that starts the site. The settings file comes on standard input; the command adds
the variables of the process and reports either the launch or the keys that fail. -/

open SavingsSite

partial def readStream (stream : IO.FS.Stream) (text : String) : IO String := do
  let line ← stream.getLine
  if line.isEmpty then return text
  readStream stream (text ++ line)

def readVariables (names : List String) : IO Environment := do
  let mut found : Environment := []
  for name in names do
    match ← IO.getEnv name with
    | some value => found := found.set name value
    | none => pure ()
  return found

def main : IO UInt32 := do
  let file ← readStream (← IO.getStdin) ""
  let env ← readVariables (Settings.keys ++ Settings.File.references file)
  match Service.launch ⟨env, some file⟩ with
  | .ok launch =>
      IO.println launch.toJson.compact
      return 0
  | .error fault =>
      IO.eprintln fault.record.message
      return 1
