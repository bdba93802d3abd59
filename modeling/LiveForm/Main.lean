import LiveForm.CommandLine

/-!
# The program

Reads the settings file and the file that the command names, runs the command, and carries out what
it leaves: a new settings file, the two outputs and the exit code.
-/

namespace LiveForm

/-- What is found at a path on disk. -/
def fileAt (path : String) : IO File := do
  match ← (IO.FS.readBinFile path).toBaseIO with
  | .ok content => return .bytes content
  | .error (.noFileOrDirectory ..) => return .missing
  | .error (.inappropriateType _ code _) => return if code = 21 then .directory else .behindFile
  | .error (.invalidArgument ..) => return .beyondLimits
  | .error e => throw e

/-- The directory of the user's settings. -/
def settingsDirectory : IO String := do
  match ← IO.getEnv "XDG_CONFIG_HOME" with
  | some home => if home.startsWith "/" then return home ++ "/slugform" else fallback
  | none => fallback
where
  fallback : IO String := do
    return (← IO.getEnv "HOME").getD "" ++ "/.config/slugform"

/-- The file that a command reads. -/
def Command.input (args : List String) : IO File :=
  match Command.parse? args with
  | some (.replay path _) => fileAt path
  | _ => return .missing

end LiveForm

open LiveForm in
def main (args : List String) : IO UInt32 := do
  let directory ← settingsDirectory
  let path := directory ++ "/config.toml"
  let settings ← fileAt path
  let file ← Command.input args
  let outcome := Command.run path settings (fun _ => file) args
  if let some text := outcome.newSettings then
    IO.FS.createDirAll directory
    IO.FS.writeFile path text
  IO.print outcome.stdout
  IO.eprint outcome.stderr
  return outcome.exit.toUInt32
