/-!
# Tokens

The tokens of a YAML document. Besides what is written there are tokens for the beginning and the
end of what the indentation shows.
-/

namespace PortalConfig.Yaml

/-- A token. -/
inductive Token
  | versionDirective (major minor : Nat)
  /-- Tags whose handle is this one start with these octets. -/
  | tagDirective (handle : String) (start : List UInt8)
  | documentStart
  | documentEnd
  | blockSequenceStart
  | blockMappingStart
  | blockEnd
  | flowSequenceStart
  | flowSequenceEnd
  | flowMappingStart
  | flowMappingEnd
  | blockEntry
  | flowEntry
  | key
  | value
  | reference (name : String)
  | anchor (name : String)
  | tag (handle : String) (suffix : List UInt8)
  | scalar (isPlain : Bool) (text : String)
deriving DecidableEq

end PortalConfig.Yaml
