import PortalConfig.Yaml.Tag
import PortalConfig.Yaml.Token

/-!
# Directives

A directive is a line of its own before a document. It says the version of the format, or what the
tags with some handle start with.
-/

namespace PortalConfig.Yaml.Directive

/-- A number of at most nine digits. -/
def number? (text : List Spot) : Option (Rest Spot Nat (text.length + 1)) :=
  let digits := text.takeWhile (Numeral.isDecimal ·.char)
  if digits.length ≤ 9 then
    (Numeral.readDigits? 10 (digits.map (·.char))).map fun n =>
      ⟨n, text.dropWhile (Numeral.isDecimal ·.char), Nat.lt_succ_of_le (length_dropWhile_le _ text)⟩
  else none

/-- A version, from the text after the name of the directive. -/
def version? (text : List Spot) : Option (Rest Spot Token (text.length + 1)) :=
  (gap text).andThen fun _ rest =>
    (number? rest).bind (·.andThen fun major rest =>
      (mark? '.' rest).bind (·.andThen fun _ rest =>
        (number? rest).map (·.map fun minor => .versionDirective major minor)))

/-- The handle of a tag: an exclamation mark, or a name between two of them. -/
def handle? (text : List Spot) : Option (Rest Spot String (text.length + 1)) :=
  (mark? '!' text).bind (·.andThen fun _ rest =>
    (name rest).andThen fun word rest =>
      match mark? '!' rest with
      | some marked => some (marked.map fun _ => "!" ++ String.ofList word ++ "!")
      | none => if word.isEmpty then some (.of "!" rest) else none)

/-- Whether a blank stands here. -/
def startsGap : List Spot → Bool
  | s :: _ => isGap s.char
  | [] => false

/-- What the tags with some handle start with, from the text after the name of the directive. -/
def tag? (text : List Spot) : Option (Rest Spot Token (text.length + 1)) :=
  (gap text).andThen fun _ rest =>
    (handle? rest).bind (·.andThen fun handle rest =>
      if startsGap rest then
        (gap rest).andThen fun _ rest =>
          ((Tag.octetsOne? Tag.isVerbatimChar rest).filter (endsWord ·.rest)).map
            (·.map fun octets => .tagDirective handle (Tag.upToZero octets))
      else none)

/-- The directive with this name, from the text after the name. -/
def parameters? (name : String) (text : List Spot) : Option (Rest Spot Token (text.length + 1)) :=
  if name = "YAML" then version? text else if name = "TAG" then tag? text else none

/-- The directive, from the text after its percent sign, up to and with the end of its line. -/
def read? (text : List Spot) : Option (Rest Spot Token (text.length + 1)) :=
  (name text).andThen fun word rest =>
    if endsWord rest then
      (parameters? (String.ofList word) rest).bind (·.andThen fun directive rest =>
        (afterLine? rest).map (·.map fun _ => directive))
    else none

end PortalConfig.Yaml.Directive
