import PortalConfig.Command.Run
import PortalConfig.Settings.Layers

/-!
# The command line tool

Reads the arguments, the settings files and the files that a command is about, runs the command and
prints what it comes to.
-/

namespace PortalConfig.Main

/-- The number of an error of the system, which may be given as a negative number. -/
def errorNumber (code : UInt32) : Nat :=
  if code.toNat < Nat.pow 2 31 then code.toNat else UInt32.size - code.toNat

/-- Why a file cannot be read. -/
def readFailure : IO.Error → ReadFailure
  | .noFileOrDirectory .. => .notFound
  | .inappropriateType _ code _ => if errorNumber code = 20 then .notDirectory else .isDirectory
  | .permissionDenied _ code _ =>
    .other ("Permission denied (os error " ++ numeral (errorNumber code) ++ ")")
  | .invalidArgument _ code details =>
    if errorNumber code = 36 then .nameTooLong
    else .other (details ++ " (os error " ++ numeral (errorNumber code) ++ ")")
  | error => .other (toString error)

/-- Reads the text of the file at a path. -/
def readText (path : String) : IO (Except ReadFailure String) := do
  match ReadFailure.ofPath? path with
  | some failure => return .error failure
  | none =>
    try
      match String.fromUTF8? (← IO.FS.readBinFile path) with
      | some text => return .ok text
      | none => return .error .notText
    catch error => return .error (readFailure error)

/-- Reads the files at some paths; nothing is known of any other. -/
def readFiles (paths : List String) : IO Files := do
  let readings ← paths.mapM fun path => return (path, ← readText path)
  return fun path => (readings.lookup path).getD (.error .notFound)

/-- The variables of the environment. -/
def environment : IO (List (String × String)) := do
  match ← readText "/proc/self/environ" with
  | .error _ => return []
  | .ok text => return (text.splitOn "\x00").filterMap fun entry =>
      match entry.toList.span (· != '=') with
      | (name, '=' :: value) => some (String.ofList name, String.ofList value)
      | _ => none

/-- The directory in which users keep their configuration. -/
def userDirectory? : IO (Option String) := do
  match (← IO.getEnv "XDG_CONFIG_HOME").filter (·.startsWith "/"), ← IO.getEnv "HOME" with
  | some directory, _ => return some directory
  | none, some home => return if home.isEmpty then none else some (home ++ "/.config")
  | none, none => return none

/-- The settings file at a path. -/
def settingsFile? (shown : Bool) (path : String) : IO (Option SettingsFile) := do
  return SettingsFile.ofReading? path shown (← readText path)

/-- The settings file in the nearest directory above a directory with as many steps. -/
def settingsAbove? (directory : List String) : Nat → IO (Option SettingsFile)
  | 0 => return none
  | steps + 1 => do
    match ← settingsFile? false ("/".intercalate (directory.take steps ++ ["devhub.toml"])) with
    | some file => return some file
    | none => settingsAbove? directory steps

/-- The settings file in the working directory or, if there is none, in the nearest directory above
it. -/
def nearestSettings? : IO (Option SettingsFile) := do
  match ← settingsFile? true "devhub.toml" with
  | some file => return some file
  | none =>
    let directory := (← IO.currentDir).toString.splitOn "/"
    settingsAbove? directory (directory.length - 1)

/-- The settings files, in order of precedence. -/
def settingsFiles : IO (List SettingsFile) := do
  let system ← settingsFile? true "/etc/devhub/devhub.toml"
  let user ← match ← userDirectory? with
    | some directory => settingsFile? true (directory ++ "/devhub/devhub.toml")
    | none => pure none
  return system.toList ++ user.toList ++ (← nearestSettings?).toList

/-- Reports a diagnostic. -/
def report (diagnostic : Diagnostic) : IO Unit := do
  IO.eprintln (diagnostic.code ++ ": " ++ diagnostic.message)
  match diagnostic.help? with
  | some help => IO.eprintln ("  help: " ++ help)
  | none => return

end PortalConfig.Main

open PortalConfig Main in
def main (args : List String) : IO UInt32 := do
  let request := Arguments.request args
  let settings := Settings.load (← settingsFiles) (← environment)
  let files ← match request, settings with
    | .invoke invocation, .ok settings => readFiles (invocation.paths settings)
    | _, _ => readFiles []
  let outcome := request.run settings files
  IO.print outcome.output
  outcome.diagnostics.forM report
  outcome.messages.forM IO.eprintln
  if request = .misuse then IO.eprintln "error: for more information, try '--help'."
  return UInt32.ofNat outcome.exitCode
