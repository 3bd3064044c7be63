import PortalConfig.Number.Reading
import PortalConfig.Settings.Value
import PortalConfig.Text.AsciiCase
import PortalConfig.Text.Blank
import PortalConfig.Toml.Text

/-!
# Settings in the environment

A variable `DEVHUB_LOGGING_LEVEL` sets `logging.level`; letter case does not matter in its name. Its
value is a truth value, a number, a quoted string, a list in brackets or a table in braces, with
white space around it; any other word is a string. A value that does not read to its end is a string
as it stands. Of two variables that set the same, the later one wins.
-/

namespace PortalConfig.Environment

/-- What the names of the variables start with. -/
def start : String := "devhub_"

/-- The sections whose name is followed by the name of a setting in the name of a variable. -/
def sections : List String := ["logging", "sources", "output"]

/-- Replaces the first occurrence of a text. -/
def replaceFirst (old new : List Char) (text : List Char) : List Char :=
  match old.isPrefixOf? text with
  | some rest => new ++ rest
  | none =>
    match text with
    | [] => []
    | c :: rest => c :: replaceFirst old new rest

/-- The path of keys that a variable sets, if its name belongs to a setting. -/
def path? (name : String) : Option (List String) :=
  (start.toList.isPrefixOf? (Text.trim (Text.asciiLower name).toList)).bind fun rest =>
    let dotted := sections.foldl (fun text (name : String) =>
      replaceFirst (name.toList ++ ['_']) (name.toList ++ ['.']) text) rest
    let keys := (Text.trim dotted).splitOn '.'
    if keys.any List.isEmpty then none else some (keys.map String.ofList)

/-- The white space between the parts of a value. -/
def isGap (c : Char) : Bool :=
  c == ' ' || c == '\t' || c == '\n' || c == '\x0c' || c == '\r'

/-- Leaves out white space. -/
def skipGap (text : List Char) : List Char := text.dropWhile isGap

theorem length_skipGap_le (text : List Char) : (skipGap text).length ≤ text.length :=
  length_dropWhile_le isGap text

/-- The characters that end a bare word. -/
def isSeparator (c : Char) : Bool :=
  c == ',' || c == '\x7b' || c == '\x7d' || c == '[' || c == ']'

/-- The characters of bare keys. -/
def isKeyChar (c : Char) : Bool := c.isAlphanum || c == '_' || c == '-'

/-- The value of a bare word: a floating-point number has a point in it. -/
def ofWord (text : List Char) : SettingValue :=
  let word := Text.trim text
  let float? := if word.contains '.' then Binary64.read? word else none
  match float?, Numeral.readUnsigned? 10 UInt64.size word,
      Numeral.readSigned? 10 (Nat.pow 2 63) word with
  | some x, _, _ => .float x
  | none, some n, _ => .unsigned n
  | none, none, some n => .signed n
  | none, none, none => .string (String.ofList word)

/-- The characters at the front of a text that fit into so many bytes. -/
def takeBytes (size : Nat) : List Char → List Char
  | [] => []
  | c :: rest => if c.utf8Size ≤ size then c :: takeBytes (size - c.utf8Size) rest else []

/-- Whether a character in a quoted string stands for itself. -/
def isUnescaped (c : Char) : Bool := c != '\\' && c != '"'

/-- A quoted string, from the text after its first quote. What stands before the first escape keeps
no more bytes than it has characters. -/
def quoted? (text : List Char) : Option (Rest Char (List Char) text.length) :=
  (Toml.basic? text).map fun body =>
    let plain := text.takeWhile isUnescaped
    if (text.drop plain.length).head? = some '\\' then
      body.map fun value => takeBytes plain.length plain ++ value.drop plain.length
    else body

/-- A key of a table, quoted or bare. -/
def key? : (text : List Char) → Option (Rest Char String text.length)
  | [] => none
  | c :: rest =>
    if c = '"' then (quoted? rest).map fun body => (body.map String.ofList).later
    else if isKeyChar c then some ((takeRun isKeyChar c rest).map String.ofList)
    else none

/-- A key, the sign that follows it, and the white space around them. -/
def assigned? (text : List Char) : Option (Rest Char String text.length) :=
  have := length_skipGap_le text
  match key? (skipGap text) with
  | none => none
  | some key =>
    have := key.shorter
    have := length_skipGap_le key.rest
    (here? '=' (skipGap key.rest)).map fun equals =>
      ⟨key.value, equals.rest, by have := equals.shorter; omega⟩

/-- What is left after one of the two words for truth values. -/
def truth? (text : List Char) : Option (Bool × List Char) :=
  match "true".toList.isPrefixOf? text with
  | some rest => some (true, rest)
  | none => ("false".toList.isPrefixOf? text).map fun rest => (false, rest)

/-- A value and what is left of the text after it. -/
abbrev Found (α : Type) (text : List Char) := α × { rest : List Char // rest.length ≤ text.length }

/-- The same with white space left out of what is left. -/
def Found.trim {text : List Char} (found : Found α text) : Found α text :=
  ⟨found.1, skipGap found.2.val, Nat.le_trans (length_skipGap_le _) found.2.property⟩

/-- What is left of a longer text. -/
def Found.widen {short text : List Char} (found : Found α short)
    (h : short.length ≤ text.length) : Found α text :=
  ⟨found.1, found.2.val, Nat.le_trans found.2.property h⟩

/-- The entries of a table; the last value of a repeated key counts. -/
def tableEntries (pairs : List (String × SettingValue)) :
    List (String × SettingOrigin × SettingValue) :=
  Members.insertAll [] (pairs.map fun (key, value) => (key, none, value))

/-- A value that has no parts. -/
def scalar? (text : List Char) : Option (Found SettingValue text) :=
  match truth? text with
  | some (b, rest) => if h : rest.length ≤ text.length then some (.boolean b, ⟨rest, h⟩) else none
  | none =>
    match text with
    | '"' :: rest => (quoted? rest).map fun body =>
        (.string (String.ofList body.value), ⟨body.rest, by have := body.shorter; simp; omega⟩)
    | '\'' :: c :: '\'' :: rest => some (.string (String.singleton c), ⟨rest, by simp; omega⟩)
    | '\'' :: _ => none
    | text => some (ofWord (text.takeWhile (!isSeparator ·)),
        ⟨text.dropWhile (!isSeparator ·), length_dropWhile_le _ _⟩)

mutual

/-- The value at the front of a text, with the white space around it. -/
def value? (text : List Char) : Option (Found SettingValue text) :=
  have le := length_skipGap_le text
  match here? '[' (skipGap text), here? '\x7b' (skipGap text) with
  | some opened, _ =>
    have := opened.shorter
    (items? opened.rest).map fun (items, rest) =>
      Found.trim (.list items, ⟨rest.val, by have := rest.property; omega⟩)
  | none, some opened =>
    have := opened.shorter
    (entries? opened.rest).map fun (entries, rest) =>
      Found.trim (.table (tableEntries entries), ⟨rest.val, by have := rest.property; omega⟩)
  | none, none => (scalar? (skipGap text)).map fun found => (Found.trim found).widen le
termination_by 2 * text.length

/-- The items of a list that are left, up to and with the closing bracket. -/
def items? (text : List Char) : Option (Found (List SettingValue) text) :=
  match here? ']' text with
  | some close => some ([], ⟨close.rest, Nat.le_of_lt close.shorter⟩)
  | none =>
    match value? text with
    | none => none
    | some (item, ⟨rest, le⟩) =>
      match here? ',' rest, here? ']' rest with
      | some comma, _ =>
        have := comma.shorter
        (items? comma.rest).map fun (items, rest) =>
          (item :: items, ⟨rest.val, by have := rest.property; omega⟩)
      | none, some close => some ([item], ⟨close.rest, by have := close.shorter; omega⟩)
      | none, none => none
termination_by 2 * text.length + 1

/-- The entries of a table that are left, up to and with the closing brace. -/
def entries? (text : List Char) : Option (Found (List (String × SettingValue)) text) :=
  match here? '\x7d' text with
  | some close => some ([], ⟨close.rest, Nat.le_of_lt close.shorter⟩)
  | none =>
    match assigned? text with
    | none => none
    | some key =>
      have := key.shorter
      match value? key.rest with
      | none => none
      | some (value, ⟨rest, le⟩) =>
        match here? ',' rest, here? '\x7d' rest with
        | some comma, _ =>
          have := comma.shorter
          (entries? comma.rest).map fun (entries, rest) =>
            ((key.value, value) :: entries, ⟨rest.val, by have := rest.property; omega⟩)
        | none, some close =>
          some ([(key.value, value)], ⟨close.rest, by have := close.shorter; omega⟩)
        | none, none => none
termination_by 2 * text.length + 1

end

/-- The value of a variable. -/
def value (text : String) : SettingValue :=
  match value? text.toList with
  | some (value, ⟨[], _⟩) => value
  | _ => .string text

/-- The table that variables set, the later ones winning. -/
def table (environment : List (String × String)) : SettingValue :=
  environment.foldl (fun acc (name, text) =>
    match path? name with
    | some path => acc.merge ((value text).nest none path)
    | none => acc) (.table [])

end PortalConfig.Environment
