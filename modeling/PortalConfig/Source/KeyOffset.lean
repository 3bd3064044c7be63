import PortalConfig.Text.Blank

/-!
# Finding a key in a settings text

A message about a key points to where the key is written. `keyOffset?` looks for a line that
assigns the key, after the first place where the header of its section is written. Offsets count
bytes, and every line end counts as one byte.
-/

namespace PortalConfig.Source

/-- The number of bytes of a text. -/
def byteSize (text : List Char) : Nat := text.foldl (fun size c => size + c.utf8Size) 0

/-- What follows the first occurrence of a pattern, and the number of bytes up to there. -/
def after? (pattern : List Char) (text : List Char) : Option (Nat × List Char) :=
  match pattern.isPrefixOf? text with
  | some rest => some (byteSize pattern, rest)
  | none =>
    match text with
    | [] => none
    | c :: rest => (after? pattern rest).map fun (offset, found) => (offset + c.utf8Size, found)

/-- Leaves out a carriage return at the end of a line. -/
def dropReturn (line : List Char) : List Char :=
  if line.getLast? = some '\r' then line.dropLast else line

/-- The lines of a text, without the characters that end them. -/
def lines (text : List Char) : List (List Char) :=
  (text.splitOn '\n').map dropReturn

/-- Whether a character may stand after a key that is assigned. -/
def isKeyEnd (c : Char) : Bool := c == ' ' || c == '=' || c == '\t'

/-- The offset in a line at which a key is assigned, if the line does that. -/
def lineOffset? (field line : List Char) : Option Nat :=
  let trimmed := Text.trimStart line
  match field.isPrefixOf? trimmed with
  | some (c :: _) => if isKeyEnd c then some (byteSize line - byteSize trimmed) else none
  | _ => none

/-- The offset of the first line that assigns a key, when the first of the lines starts at
`start`. -/
def offsetAmong? (field : List Char) (start : Nat) : List (List Char) → Option Nat
  | [] => none
  | line :: rest =>
    match lineOffset? field line with
    | some offset => some (start + offset)
    | none => offsetAmong? field (start + byteSize line + 1) rest

/-- The offset of a key in the section that the first step of its path names, or anywhere when the
path is empty. -/
def keyOffset? (content : String) (path : List String) (field : String) : Option Nat :=
  match path with
  | [] => offsetAmong? field.toList 0 (lines content.toList)
  | name :: _ =>
    (after? ('[' :: name.toList ++ [']']) content.toList).bind fun (start, rest) =>
      offsetAmong? field.toList start (lines rest)

end PortalConfig.Source
