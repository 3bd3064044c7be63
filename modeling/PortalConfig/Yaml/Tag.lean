import PortalConfig.Yaml.Spot

/-!
# Tags

A tag is written between angle brackets, or as a handle and a suffix. Its text is a sequence of
octets, because an escape names octets: the escaped octets form characters by their leading bits,
and nothing else about them is checked. An octet zero ends the text.
-/

namespace PortalConfig.Yaml.Tag

/-- The characters of a suffix, apart from escapes. -/
def isSuffixChar (c : Char) : Bool :=
  isNameChar c || [';', '/', '?', ':', '@', '&', '=', '+', '$', '.', '!', '~', '*', '\'', '(',
    ')'].contains c

/-- The characters of a whole tag, apart from escapes. -/
def isVerbatimChar (c : Char) : Bool := isSuffixChar c || c == ',' || c == '[' || c == ']'

/-- An octet that is escaped at the front of a text. -/
def octet? : (text : List Spot) → Option (Rest Spot Nat text.length)
  | [] => none
  | s :: rest =>
    if s.char = '%' then hexadecimal? 2 rest else none

/-- How many octets follow the first octet of a character. -/
def followers? (octet : Nat) : Option Nat :=
  if octet < 0x80 then some 0
  else if octet < 0xC0 then none
  else if octet < 0xE0 then some 1
  else if octet < 0xF0 then some 2
  else if octet < 0xF8 then some 3
  else none

/-- The escaped octets that follow the first octet of a character. -/
def followersOf? (count : Nat) (text : List Spot) :
    Option (Rest Spot (List Nat) (text.length + 1)) :=
  match count with
  | 0 => some (.of [] text)
  | count + 1 =>
    match octet? text with
    | none => none
    | some octet =>
      if 0x80 ≤ octet.value ∧ octet.value < 0xC0 then
        (octet.andThen fun first rest =>
          (followersOf? count rest).map (·.map (first :: ·))).map (·.widen (by simp))
      else none

/-- The escaped octets of a character. -/
def character? (text : List Spot) : Option (Rest Spot (List Nat) text.length) :=
  (octet? text).bind fun octet =>
    octet.andThen fun first rest =>
      (followers? first).bind fun count =>
        (followersOf? count rest).map (·.map (first :: ·))

/-- The octets of the longest run of escapes and of characters that `isMember` admits. -/
def octets? (isMember : Char → Bool) (text : List Spot) :
    Option (Rest Spot (List UInt8) (text.length + 1)) :=
  match text with
  | [] => some ⟨[], [], by simp⟩
  | s :: rest =>
    if s.char = '%' then
      match character? (s :: rest) with
      | none => none
      | some escaped =>
        have : escaped.rest.length < rest.length + 1 := escaped.shorter
        (octets? isMember escaped.rest).map fun others =>
          (others.map (escaped.value.map UInt8.ofNat ++ ·)).widen (by simp; omega)
    else if isMember s.char then
      (octets? isMember rest).map fun others =>
        (others.map (s.char.toUInt8 :: ·)).widen (by simp)
    else some ⟨[], s :: rest, by simp⟩
termination_by text.length

/-- The same, where at least one octet has to be there. -/
def octetsOne? (isMember : Char → Bool) (text : List Spot) :
    Option (Rest Spot (List UInt8) (text.length + 1)) :=
  (octets? isMember text).filter (!·.value.isEmpty)

/-- The octets that count. -/
def upToZero (octets : List UInt8) : List UInt8 := octets.takeWhile (· != 0)

/-- A tag between angle brackets, from the text after the first of them. It has no handle. -/
def verbatim? (text : List Spot) : Option (Rest Spot (String × List UInt8) (text.length + 1)) :=
  (octetsOne? isVerbatimChar text).bind (·.andThen fun octets rest =>
    (mark? '>' rest).map (·.map fun _ => ("", upToZero octets)))

/-- A tag with a name in its handle, from the text after that handle. -/
def named? (name : List Char) (text : List Spot) :
    Option (Rest Spot (String × List UInt8) (text.length + 1)) :=
  (octetsOne? isSuffixChar text).map (·.map fun octets =>
    ("!" ++ String.ofList name ++ "!", upToZero octets))

/-- A tag without a name in its handle, from the text after the first word of its suffix. When the
suffix is empty, the tag is a single exclamation mark. -/
def simple? (word : List Char) (text : List Spot) :
    Option (Rest Spot (String × List UInt8) (text.length + 1)) :=
  (octets? isSuffixChar text).map (·.map fun octets =>
    let suffix := upToZero (word.map Char.toUInt8 ++ octets)
    if suffix.isEmpty then ("", ['!'.toUInt8]) else ("!", suffix))

/-- The handle and the suffix of a tag, from the text after its exclamation mark. -/
def read? (text : List Spot) : Option (Rest Spot (String × List UInt8) (text.length + 1)) :=
  match mark? '<' text with
  | some opened => opened.andThen fun _ rest => verbatim? rest
  | none => (name text).andThen fun word rest =>
      match mark? '!' rest with
      | some marked => marked.andThen fun _ rest => named? word rest
      | none => simple? word rest

end PortalConfig.Yaml.Tag
