import LiveForm.Scenario.Replay
import LiveForm.Settings

/-!
# The command line

Three commands: `slug` prints the slug of each text, `check` tells of each text whether it is a
slug, and `replay` prints the report of a scenario.

`Command.parse?` reads the arguments behind the name of the program.  Options may stand anywhere
behind the command, two hyphens end them, and none may be given twice.  `Command.run` is what a
command does, with the settings file and the files it may read given as values.
-/

namespace LiveForm

/-! ## Arguments -/

/-- A command with its arguments. -/
inductive Command where
  | slug (texts : List String) (ascii : Bool) (delimiter : Option String)
  | check (slugs : List String)
  | replay (path : String) (compact : Bool)
  deriving DecidableEq, Repr

namespace Command

/-- The options of a command: names of flags, and names of options with a value. -/
structure Options where
  flags : List String := []
  valued : List String := []

/-- Arguments taken apart: flags, options with their values, and all others in order. -/
structure Arguments where
  flags : List String := []
  valued : List (String × String) := []
  positional : List String := []

/-- An argument taken as an option: its name behind the hyphens, and the value behind an equals
sign. -/
def splitOption (arg : String) : String × Option String :=
  let cs := arg.toList.drop 2
  match cs.dropWhile (· != '=') with
  | _ :: value => (String.ofList (cs.takeWhile (· != '=')), some (String.ofList value))
  | [] => (String.ofList cs, none)

/-- Whether an argument is an option by its form. -/
def isOption (arg : String) : Bool :=
  arg.startsWith "-" && arg != "-"

/-- Takes arguments apart, behind those that are already taken; `none` if they are not used
right. -/
def takeApart (known : Options) (a : Arguments) : List String → Option Arguments
  | [] => some a
  | "--" :: rest => some { a with positional := a.positional ++ rest }
  | arg :: rest =>
      if !isOption arg then takeApart known { a with positional := a.positional ++ [arg] } rest
      else if !arg.startsWith "--" then none
      else
        match splitOption arg with
        | (name, none) =>
            if known.flags.contains name then
              if a.flags.contains name then none
              else takeApart known { a with flags := a.flags ++ [name] } rest
            else if known.valued.contains name then
              match rest with
              | value :: rest =>
                  if isOption value || (a.valued.lookup name).isSome then none
                  else takeApart known { a with valued := a.valued ++ [(name, value)] } rest
              | [] => none
            else none
        | (name, some value) =>
            if known.valued.contains name && (a.valued.lookup name).isNone then
              takeApart known { a with valued := a.valued ++ [(name, value)] } rest
            else none

/-- Reads the arguments behind the name of the program. -/
def parse? : List String → Option Command
  | "slug" :: args => do
      let a ← takeApart ⟨["ascii"], ["delim"]⟩ {} args
      if a.positional.isEmpty then none
      else return .slug a.positional (a.flags.contains "ascii") (a.valued.lookup "delim")
  | "check" :: args => do
      let a ← takeApart {} {} args
      if a.positional.isEmpty then none else return .check a.positional
  | "replay" :: args => do
      let a ← takeApart ⟨["compact"], []⟩ {} args
      match a.positional with
      | [path] => return .replay path (a.flags.contains "compact")
      | _ => none
  | _ => none

/-! ## Commands -/

/-- Why a command fails. -/
inductive Failure where
  /-- Of the texts that were to be slugs some are none. -/
  | invalidSlugs (invalid total : Nat)
  | unloaded (cause : Scenario.LoadError)
  | unplayed (path : String) (cause : ReplayError)
  deriving DecidableEq, Repr

/-- The failure in words.  The cause of a scenario that cannot be loaded is told once more behind
the message. -/
def Failure.message : Failure → String
  | .invalidSlugs invalid total =>
      toString invalid ++ " of " ++ toString total ++ " inputs are not valid slugs"
  | .unloaded cause =>
      cause.message ++ ": " ++ match cause with
        | .unreadable _ file => file.message
        | .invalid reading => reading.message
  | .unplayed path cause => "replay of " ++ path ++ " failed: " ++ cause.message

/-- Lines of output, and the failure a command ends with if it fails. -/
structure Result where
  lines : List String := []
  failure : Option Failure := none
  deriving DecidableEq, Repr

/-- The slugs of texts, one to a line. -/
def slugLines (table : Text.Spellings) (s : Settings) (texts : List String) (ascii : Bool)
    (delimiter : Option String) : List String :=
  texts.map ((s.styleFor ascii).slugBy table (s.delimiterFor delimiter))

/-- What is told of a text that is to be a slug. -/
def verdict (text : String) : String :=
  match Slug.fault? text with
  | none => "ok       " ++ text
  | some f => "invalid  " ++ text ++ ": " ++ f.message

/-- Tells of each text whether it is a slug, and fails if some are not. -/
def runCheck (texts : List String) : Result :=
  let invalid := (texts.filter fun t => !Slug.isSlug t).length
  { lines := texts.map verdict
    failure := if invalid = 0 then none else some (.invalidSlugs invalid texts.length) }

/-- Reports on the scenario in a file. -/
def runReplay (s : Settings) (path : String) (file : File) (compact : Bool) : Result :=
  match Scenario.load path file with
  | .error e => { failure := some (.unloaded e) }
  | .ok scenario =>
      match scenario.replay s.stepperOrDefault with
      | .error e => { failure := some (.unplayed path e) }
      | .ok report => { lines := [report.text (!compact)] }

/-- What a command does; `table` spells in ASCII, and `find` looks a path up. -/
def runWith (table : Text.Spellings) (s : Settings) (find : String → File) : Command → Result
  | .slug texts ascii delimiter => { lines := slugLines table s texts ascii delimiter }
  | .check slugs => runCheck slugs
  | .replay path compact => runReplay s path (find path) compact

/-! ## The program -/

/-- What a run of the program leaves: an exit code, its two outputs, and the text of a settings file
that it makes. -/
structure Outcome where
  exit : Nat
  stdout : String := ""
  stderr : String := ""
  newSettings : Option String := none
  deriving DecidableEq, Repr

/-- How the program is used. -/
def usage : String :=
  "usage: slugform slug TEXT... [--ascii] [--delim D]\n" ++
  "       slugform check SLUG...\n" ++
  "       slugform replay PATH [--compact]\n"

/-- An error as the program tells it. -/
def errorLine (message : String) : String := "slugform error: " ++ message ++ "\n"

/-- What a result leaves. -/
def Result.outcome (r : Result) (newSettings : Option String) : Outcome where
  exit := if r.failure.isSome then 1 else 0
  stdout := String.join (r.lines.map (· ++ "\n"))
  stderr := (r.failure.map fun f => errorLine f.message).getD ""
  newSettings := newSettings

/-- The program, with the path of the settings file, the file, and a way to look paths up.  It
spells in ASCII by `Text.asciiForm?`. -/
def run (settingsPath : String) (settings : File) (find : String → File) (args : List String) :
    Outcome :=
  match parse? args with
  | none => { exit := 2, stderr := usage }
  | some command =>
      match Settings.load settingsPath settings with
      | .error e => { exit := 1, stderr := errorLine e.message }
      | .ok (s, newSettings) => (command.runWith Text.asciiForm? s find).outcome newSettings

end Command
end LiveForm
