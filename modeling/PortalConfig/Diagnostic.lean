import PortalConfig.Text.Similarity

/-!
# Diagnostics

A diagnostic is one problem in a configuration, with what a reader needs to mend it: a message, a
code by which tools tell problems apart, and a help text. An unknown key is shown with the keys
that would have been valid and with the most similar of them.
-/

namespace PortalConfig

/-- A stretch of a named source text, in bytes. -/
structure SourceSpan where
  source : String
  offset : Nat
  length : Nat
deriving DecidableEq

/-- One problem in a configuration. -/
inductive Diagnostic
  /-- A key that means nothing where it stands. -/
  | unknownKey (key location : String) (valid : List String) (span : Option SourceSpan)
  /-- A value of the wrong shape. -/
  | invalidType (key detail expected : String)
  /-- A key that has to be there. -/
  | missingKey (key : String)
  /-- A value of the right shape that makes no sense. -/
  | validation (text : String)
  /-- A source that cannot be read at all. -/
  | other
deriving DecidableEq

namespace Diagnostic

/-- The valid key that an unknown one resembles most. -/
def suggestion? : Diagnostic → Option String
  | unknownKey key _ valid _ => Similarity.suggest key valid
  | _ => none

/-- The valid keys in one text. -/
def validKeysText (valid : List String) : String := String.intercalate ", " valid

/-- What is wrong. -/
def message : Diagnostic → String
  | unknownKey key location _ _ => "unknown key `" ++ key ++ "` in `" ++ location ++ "`"
  | invalidType key detail _ => "invalid type for `" ++ key ++ "`: " ++ detail
  | missingKey key => "missing required key `" ++ key ++ "`"
  | validation text => "validation error: " ++ text
  | other => "configuration error"

/-- The code of the kind of problem. -/
def code : Diagnostic → String
  | unknownKey .. => "devhub::config::unknown_key"
  | invalidType .. => "devhub::config::invalid_type"
  | missingKey _ => "devhub::config::missing_key"
  | validation _ => "devhub::config::validation"
  | other => "devhub::config::other"

/-- How to mend it, where there is something to say. -/
def help? : Diagnostic → Option String
  | unknownKey key _ valid _ =>
    match Similarity.suggest key valid with
    | some similar => some ("did you mean `" ++ similar ++ "`? Valid keys: " ++ validKeysText valid)
    | none => some ("valid keys: " ++ validKeysText valid)
  | invalidType _ _ expected => some ("expected " ++ expected)
  | missingKey key => some ("add `" ++ key ++ "` to the configuration")
  | validation _ => none
  | other => none

end Diagnostic

end PortalConfig
