import PortalConfig.Doc.Basic

/-!
# Writing documents as JSON

A document is written compactly, without any blanks, or laid out over lines with two blanks of
indentation for each level. Strings escape the quote, the backslash and the control characters
below U+0020, and nothing else.
-/

namespace PortalConfig.Json

/-- The digit of a number below sixteen. -/
def hexDigit (n : Nat) : Char := Nat.digitChar n

/-- How a character stands inside a string. -/
def escapeChar (c : Char) : List Char :=
  if c = '"' then ['\\', '"']
  else if c = '\\' then ['\\', '\\']
  else if c = '\x08' then ['\\', 'b']
  else if c = '\x0c' then ['\\', 'f']
  else if c = '\n' then ['\\', 'n']
  else if c = '\r' then ['\\', 'r']
  else if c = '\t' then ['\\', 't']
  else if c.toNat < 0x20 then
    ['\\', 'u', '0', '0', hexDigit (c.toNat / 16), hexDigit (c.toNat % 16)]
  else [c]

/-- A string between its quotes. -/
def quoted (text : String) : List Char := '"' :: text.toList.flatMap escapeChar ++ ['"']

mutual

/-- The compact text of a document. -/
def compact : Doc → List Char
  | .null => "null".toList
  | .bool b => (if b then "true" else "false").toList
  | .number n => n.text.toList
  | .string s => quoted s
  | .array items => '[' :: compactItems items
  | .object members => '{' :: compactMembers members

/-- The items of a list, with the closing bracket. -/
def compactItems : List Doc → List Char
  | [] => [']']
  | [item] => compact item ++ [']']
  | item :: rest => compact item ++ ',' :: compactItems rest

/-- The members of an object, with the closing brace. -/
def compactMembers : List (String × Doc) → List Char
  | [] => ['}']
  | [(key, value)] => quoted key ++ ':' :: compact value ++ ['}']
  | (key, value) :: rest => quoted key ++ ':' :: compact value ++ ',' :: compactMembers rest

end

/-- A line break and the indentation of a level. -/
def newLine (level : Nat) : List Char := '\n' :: List.replicate (2 * level) ' '

mutual

/-- The text of a document laid out over lines, inside `level` brackets. -/
def pretty (level : Nat) : Doc → List Char
  | .array [] => ['[', ']']
  | .array items => '[' :: newLine (level + 1) ++ prettyItems level items
  | .object [] => ['{', '}']
  | .object members => '{' :: newLine (level + 1) ++ prettyMembers level members
  | doc => compact doc

/-- The items of a list, with the closing bracket on a line of its own. -/
def prettyItems (level : Nat) : List Doc → List Char
  | [] => newLine level ++ [']']
  | [item] => pretty (level + 1) item ++ newLine level ++ [']']
  | item :: rest =>
    pretty (level + 1) item ++ ',' :: newLine (level + 1) ++ prettyItems level rest

/-- The members of an object, with the closing brace on a line of its own. -/
def prettyMembers (level : Nat) : List (String × Doc) → List Char
  | [] => newLine level ++ ['}']
  | [(key, value)] =>
    quoted key ++ ':' :: ' ' :: pretty (level + 1) value ++ newLine level ++ ['}']
  | (key, value) :: rest =>
    quoted key ++ ':' :: ' ' :: pretty (level + 1) value ++
      ',' :: newLine (level + 1) ++ prettyMembers level rest

end

/-- How a document is laid out. -/
inductive Layout
  | compact
  | pretty
deriving DecidableEq

/-- The JSON text of a document. -/
def write (layout : Layout) (doc : Doc) : String :=
  String.ofList <| match layout with
    | .compact => compact doc
    | .pretty => pretty 0 doc

end PortalConfig.Json

namespace PortalConfig.Doc

/-- The compact JSON text of the document. -/
def text (doc : Doc) : String := Json.write .compact doc

end PortalConfig.Doc
