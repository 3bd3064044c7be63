import PortalConfig.Command.Arguments

/-!
# Help for the command line

The texts that the tool prints about itself.
-/

namespace PortalConfig.Help

/-- What the tool prints about its version. -/
def version : String := "devhub 0.1.0\n"

/-- Help about the tool. -/
def tool : List String :=
  ["Resolve, inspect and lint Devhub frontend plugin configuration",
    "",
    "Usage: devhub [OPTIONS] <COMMAND>",
    "",
    "Commands:",
    "  resolve  Print the resolved dynamic plugin registry as JSON",
    "  columns  Print the catalog table columns for a view",
    "  visible  Print the mount points that render for an entity",
    "  lint     Report configuration problems",
    "  help     Print this message or the help of the given subcommand(s)",
    "",
    "Options:",
    "      --config <FILE>  App-config file to load. Repeat to layer files; later files win. " ++
      "Defaults to `sources.app_config` from devhub.toml. Must precede the subcommand",
    "  -h, --help           Print help",
    "  -V, --version        Print version"]

/-- Help about the command `columns`. -/
def columns : List String :=
  ["Print the catalog table columns for a view",
    "",
    "Usage: devhub columns [OPTIONS]",
    "",
    "Options:",
    "      --kind <KIND>       Entity kind filter of the view",
    "      --type <TYPE>       `spec.type` filter of the view",
    "      --spans-namespaces  The listed entities span several namespaces",
    "  -h, --help              Print help"]

/-- Help about the command `visible`. -/
def visible : List String :=
  ["Print the mount points that render for an entity",
    "",
    "Usage: devhub visible --mount-point <MOUNT_POINT> --entity <FILE>",
    "",
    "Options:",
    "      --mount-point <MOUNT_POINT>  Mount point id, e.g. `entity.page.overview/cards`",
    "      --entity <FILE>              Entity document (YAML or JSON)",
    "  -h, --help                       Print help"]

/-- Help about a command without options. -/
def plain (name about : String) : List String :=
  [about,
    "",
    "Usage: devhub " ++ name,
    "",
    "Options:",
    "  -h, --help  Print help"]

/-- Help about the command `help`. -/
def help : List String :=
  ["Print this message or the help of the given subcommand(s)",
    "",
    "Usage: devhub help [COMMAND]...",
    "",
    "Arguments:",
    "  [COMMAND]...  Print help for the subcommand(s)"]

/-- The lines of help about a topic. -/
def lines : HelpTopic → List String
  | .tool => tool
  | .command name =>
    if name = "columns" then columns
    else if name = "visible" then visible
    else if name = "resolve" then
      plain name "Print the resolved dynamic plugin registry as JSON"
    else if name = "lint" then plain name "Report configuration problems"
    else help

/-- The help text about a topic. -/
def text (topic : HelpTopic) : String :=
  String.join ((lines topic).map fun line => line ++ "\n")

end PortalConfig.Help
