import PortalConfig.Catalog.View

/-!
# Arguments of the command line

The files of the configuration come first, then the name of a command and the options of that
command. The first thing that is wrong, or that asks for help or for the version, decides.
-/

namespace PortalConfig

/-- What the tool is asked to do with a configuration. -/
inductive Command
  | resolve
  | columns (view : CatalogView)
  | visible (mountPoint entity : String)
  | lint
deriving DecidableEq

/-- A command and the files of the configuration that it is about; without files the settings name
them. -/
structure Invocation where
  sources : List String
  command : Command
deriving DecidableEq

/-- What help is about. -/
inductive HelpTopic
  | tool
  | command (name : String)
deriving DecidableEq

/-- What a command line asks for. -/
inductive Request
  | invoke (invocation : Invocation)
  | help (topic : HelpTopic)
  | version
  /-- Nothing that the tool understands. -/
  | misuse
deriving DecidableEq

namespace Arguments

/-- How an option is used. -/
structure OptionRule where
  name : String
  takesValue : Bool
  /-- Whether the value is a path, which is never empty. -/
  isPath : Bool
  repeats : Bool

/-- An option as it is given, flags with an empty value. -/
abbrev Given := List (String × String)

/-- What reading options comes to. -/
inductive Scan
  /-- The options up to the first word that is no option, and the words from there on. -/
  | options (given : Given) (rest : List String)
  | help
  | version
  | misuse

/-- Whether a word would be read as an option. -/
def looksLikeOption (word : String) : Bool := word.startsWith "-" && word != "-"

/-- The name of a long option and the value that is attached to it. -/
def splitLong (word : String) : String × Option String :=
  let text := word.toList.drop 2
  (String.ofList (text.takeWhile (· != '=')),
    match text.dropWhile (· != '=') with
    | _ :: value => some (String.ofList value)
    | [] => none)

/-- Whether an option may be given once more. -/
def mayGive (rule : OptionRule) (given : Given) : Bool :=
  rule.repeats || (given.lookup rule.name).isNone

/-- Whether an option may have this value. -/
def mayBe (rule : OptionRule) (value : String) : Bool := !(rule.isPath && value == "")

/-- The value of an option and the words after it. The value is attached to the option or is the
next word; a flag has none. -/
def optionValue? (rule : OptionRule) (attached : Option String) (rest : List String) :
    Option (String × { more : List String // more.length ≤ rest.length }) :=
  match rule.takesValue, attached, rest with
  | false, none, rest => some ("", ⟨rest, Nat.le_refl _⟩)
  | false, some _, _ => none
  | true, some value, rest =>
    if mayBe rule value then some (value, ⟨rest, Nat.le_refl _⟩) else none
  | true, none, value :: more =>
    if !looksLikeOption value && mayBe rule value then some (value, ⟨more, by simp⟩) else none
  | true, none, [] => none

/-- The rule of an option that may be given. -/
def rule? (rules : List OptionRule) (given : Given) (name : String) : Option OptionRule :=
  (rules.find? (·.name == name)).filter (mayGive · given)

/-- Reads options. `versioned` says whether the version can be asked for here. -/
def scan (rules : List OptionRule) (versioned : Bool) (given : Given) (words : List String) :
    Scan :=
  match words with
  | [] => .options given []
  | word :: rest =>
    if word = "--" then if rest.isEmpty then .options given [] else .misuse
    else if word.startsWith "--" then
      match splitLong word with
      | ("help", none) => .help
      | ("version", none) => if versioned then .version else .misuse
      | (name, attached) =>
        match (rule? rules given name).bind (optionValue? · attached rest) with
        | some (value, more) =>
          have := more.property
          scan rules versioned (given ++ [(name, value)]) more.val
        | none => .misuse
    else if looksLikeOption word then
      match word.toList.drop 1 with
      | 'h' :: _ => .help
      | 'V' :: _ => if versioned then .version else .misuse
      | _ => .misuse
    else .options given (word :: rest)
termination_by words.length
decreasing_by simp only [List.length_cons]; omega

/-- The options before the command. -/
def toolRules : List OptionRule := [⟨"config", true, true, true⟩]

/-- The names of the commands. -/
def commandNames : List String := ["resolve", "columns", "visible", "lint"]

/-- The options of a command. -/
def commandRules (name : String) : List OptionRule :=
  if name = "columns" then
    [⟨"kind", true, false, false⟩, ⟨"type", true, false, false⟩,
      ⟨"spans-namespaces", false, false, false⟩]
  else if name = "visible" then
    [⟨"mount-point", true, false, false⟩, ⟨"entity", true, true, false⟩]
  else []

/-- The command with these options, if none is missing. -/
def command? (name : String) (given : Given) : Option Command :=
  if name = "resolve" then some .resolve
  else if name = "lint" then some .lint
  else if name = "columns" then
    some <| .columns
      { kind := given.lookup "kind"
        specType := given.lookup "type"
        spansNamespaces := (given.lookup "spans-namespaces").isSome }
  else if name = "visible" then do
    return .visible (← given.lookup "mount-point") (← given.lookup "entity")
  else none

/-- What is asked for by a command and what follows its name. -/
def commandRequest (sources : List String) (name : String) (words : List String) : Request :=
  match scan (commandRules name) false [] words with
  | .options given [] =>
    match command? name given with
    | some command => .invoke ⟨sources, command⟩
    | none => .misuse
  | .options _ (_ :: _) => .misuse
  | .help => if commandNames.contains name then .help (.command name) else .misuse
  | .version => .misuse
  | .misuse => .misuse

/-- The help asked for by words. -/
def helpRequest : List String → Request
  | [] => .help .tool
  | [name] => if ("help" :: commandNames).contains name then .help (.command name) else .misuse
  | _ => .misuse

/-- What a command line asks for. -/
def request (words : List String) : Request :=
  match scan toolRules true [] words with
  | .help => .help .tool
  | .version => .version
  | .misuse => .misuse
  | .options _ [] => .misuse
  | .options given (name :: rest) =>
    if name = "help" then helpRequest rest
    else commandRequest (given.map Prod.snd) name rest

end Arguments

end PortalConfig
