import PortalConfig.Command.Help
import PortalConfig.Report
import PortalConfig.Settings.Basic

/-!
# Running commands

A command loads its configuration and prints a report about it. Files that are named must exist;
those that only the settings name are skipped when they do not. Findings of the command `lint` and
errors end with exit code 1, a command line that is not understood with 2.
-/

namespace PortalConfig

/-- What running the tool comes to. -/
structure Outcome where
  exitCode : Nat
  /-- What is printed. -/
  output : String
  /-- What is wrong with the configuration. -/
  diagnostics : List Diagnostic
  /-- What is reported besides, line by line. -/
  messages : List String
deriving DecidableEq

namespace Outcome

/-- Prints a line. -/
def print (line : String) : Outcome := ⟨0, line ++ "\n", [], []⟩

/-- Reports an error, the words of a parser on a line of their own. -/
def fail (error : LoadError) : Outcome :=
  ⟨1, "", [], ("error: " ++ error.message) :: error.reason?.toList.map ("  " ++ ·)⟩

end Outcome

namespace Invocation

/-- The files that the configuration is read from. -/
def sourcePaths (invocation : Invocation) (settings : Settings) (files : Files) : List String :=
  match invocation.sources with
  | [] => settings.appConfig.filter files.present
  | sources => sources

/-- All files that running may read. -/
def paths (invocation : Invocation) (settings : Settings) : List String :=
  invocation.sources ++ settings.appConfig ++
    match invocation.command with
    | .visible _ entity => [entity]
    | _ => []

/-- The text of a report. -/
def reportText (settings : Settings) (report : Doc) : String :=
  Json.write (if settings.pretty then .pretty else .compact) report

/-- The outcome of looking for problems. -/
def lintOutcome (diagnostics : List Diagnostic) : Outcome :=
  match diagnostics with
  | [] => .print "devhub: no issues found"
  | diagnostics =>
    ⟨1, "", diagnostics, ["devhub: " ++ numeral diagnostics.length ++ " issue(s) found"]⟩

/-- Runs a command on a configuration. -/
def runOn (invocation : Invocation) (settings : Settings) (files : Files) (config : AppConfig) :
    Outcome :=
  match invocation.command with
  | .resolve => .print (reportText settings config.registryReport)
  | .columns view => .print (reportText settings (config.columnsReport view))
  | .visible mountPoint path =>
    match Entity.ofFile files path with
    | .ok entity => .print (reportText settings (config.visibleReport mountPoint entity))
    | .error error => .fail error
  | .lint => lintOutcome config.diagnostics

/-- Runs a command. -/
def run (invocation : Invocation) (settings : Settings) (files : Files) : Outcome :=
  match AppConfig.load files (invocation.sourcePaths settings files) with
  | .ok config => invocation.runOn settings files config
  | .error error => .fail error

end Invocation

namespace Request

/-- Does what is asked for. Settings matter only to commands, which do not run without them. -/
def run (request : Request) (settings : Except (List Diagnostic) Settings) (files : Files) :
    Outcome :=
  match request with
  | .misuse => ⟨2, "", [], []⟩
  | .version => ⟨0, Help.version, [], []⟩
  | .help topic => ⟨0, Help.text topic, [], []⟩
  | .invoke invocation =>
    match settings with
    | .ok settings => invocation.run settings files
    | .error problems => ⟨1, "", problems, []⟩

end Request

end PortalConfig
