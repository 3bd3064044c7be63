import PortalConfig.Keyed
import PortalConfig.Number.Basic
import PortalConfig.Text.Quoted
import PortalConfig.Toml.Value

/-!
# Values of settings

What a settings file or an environment variable gives for a key. The entries of a table remember
which file they come from. Laid over each other, tables merge key by key, and anything else replaces
what was there; an entry counts as coming from the last file that gives it.
-/

namespace PortalConfig

/-- The name of the file that an entry comes from; entries of the environment come from none. -/
abbrev SettingOrigin := Option String

/-- A value for a setting. -/
inductive SettingValue
  | string (text : String)
  | boolean (value : Bool)
  | signed (value : Int)
  | unsigned (value : Nat)
  | float (value : Binary64)
  | list (items : List SettingValue)
  | table (entries : List (String × SettingOrigin × SettingValue))

namespace SettingValue

instance : Inhabited SettingValue := ⟨.list []⟩

/-- The key under which a date or a time is given. -/
def datetimeKey : String := "$__toml_private_datetime"

mutual

/-- A value of a file. A date or a time is a table with its written form. -/
def ofToml (origin : SettingOrigin) : Toml.Value → SettingValue
  | .string text => .string text
  | .integer value => .signed value
  | .float value => .float value
  | .boolean value => .boolean value
  | .datetime text => .table [(datetimeKey, origin, .string text)]
  | .array items => .list (ofTomlItems origin items)
  | .table entries => .table (ofTomlEntries origin entries)

def ofTomlItems (origin : SettingOrigin) : List Toml.Value → List SettingValue
  | [] => []
  | item :: rest => ofToml origin item :: ofTomlItems origin rest

def ofTomlEntries (origin : SettingOrigin) :
    List (String × Toml.Value) → List (String × SettingOrigin × SettingValue)
  | [] => []
  | (key, value) :: rest => (key, origin, ofToml origin value) :: ofTomlEntries origin rest

end

mutual

/-- Lays a later value over an earlier one. -/
def merge : (earlier later : SettingValue) → SettingValue
  | .table earlier, .table later => .table (mergeEntries earlier later)
  | _, later => later

/-- Lays the entries of a later table over those of an earlier one. -/
def mergeEntries (earlier : List (String × SettingOrigin × SettingValue)) :
    (later : List (String × SettingOrigin × SettingValue)) →
      List (String × SettingOrigin × SettingValue)
  | [] => earlier
  | (key, origin, value) :: rest =>
    mergeEntries (Members.upsert earlier key fun present =>
      match present with
      | some (_, existing) => (origin, merge existing value)
      | none => (origin, value)) rest

end

/-- The value under a path of keys. -/
def nest (origin : SettingOrigin) (value : SettingValue) : List String → SettingValue
  | [] => value
  | key :: rest => .table [(key, origin, nest origin value rest)]

/-- What a message says of a value that was found where another was expected. -/
def description : SettingValue → String
  | .string text => "string " ++ Text.quote text
  | .boolean value => "bool " ++ if value then "true" else "false"
  | .signed value => "signed int `" ++ signedNumeral value ++ "`"
  | .unsigned value => "unsigned int `" ++ numeral value ++ "`"
  | .float value => "float `" ++ value.plainText ++ "`"
  | .list _ => "sequence"
  | .table _ => "map"

end SettingValue

end PortalConfig
