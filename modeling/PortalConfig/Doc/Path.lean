import PortalConfig.Doc.Basic
import PortalConfig.Json.Printer

/-!
# Field paths

A field path such as `metadata.annotations['custom/tier']` names a place in a document. Dots
separate plain keys, brackets hold a key, quoted or not, or an index. Every text is a path: empty
plain keys are skipped, and a bracket that is never closed makes a key of the rest of the text.
-/

namespace PortalConfig

namespace Path

/-- One step of a path. -/
inductive Segment
  | key (name : String)
  | index (n : Nat)
deriving DecidableEq

/-- The position that a text denotes, when it is a numeral below `2 ^ 64`. -/
def position? (text : List Char) : Option Nat := Numeral.readUnsigned? 10 UInt64.size text

/-- The step written between brackets without quotes. -/
def Segment.ofBracket (text : List Char) : Segment :=
  match position? text with
  | some n => .index n
  | none => .key (String.ofList text)

/-- What is being read of a path. Collected characters stand back to front. -/
inductive Reading
  /-- A plain key. -/
  | plain (collected : List Char)
  /-- The first character after an opening bracket. -/
  | opened
  /-- An unquoted bracket. -/
  | unquoted (collected : List Char)
  /-- A bracket quoted by `quote`. -/
  | quoted (quote : Char) (collected : List Char)
  /-- A quoted bracket after one more `quote`, which ends it if a bracket closes it now. -/
  | maybeClosed (quote : Char) (collected : List Char)

/-- The plain key that has been collected, unless it is empty. -/
def plainKey (collected : List Char) : List Segment :=
  if collected.isEmpty then [] else [.key (String.ofList collected.reverse)]

/-- The last step of a path whose text has ended. -/
def Reading.finish : Reading → List Segment
  | .plain collected => plainKey collected
  | .opened => [.key ""]
  | .unquoted collected => [.key (String.ofList collected.reverse)]
  | .quoted quote collected => [.key (String.ofList (quote :: collected.reverse))]
  | .maybeClosed quote collected => [.key (String.ofList (quote :: (quote :: collected).reverse))]

/-- Reads one character: the steps it completes, and what is being read after it. -/
def Reading.next (reading : Reading) (c : Char) : List Segment × Reading :=
  match reading with
  | .plain collected =>
    if c = '.' then (plainKey collected, .plain [])
    else if c = '[' then (plainKey collected, .opened)
    else ([], .plain (c :: collected))
  | .opened =>
    if c = '\'' ∨ c = '"' then ([], .quoted c [])
    else if c = ']' then ([.ofBracket []], .plain [])
    else ([], .unquoted [c])
  | .unquoted collected =>
    if c = ']' then ([.ofBracket collected.reverse], .plain [])
    else ([], .unquoted (c :: collected))
  | .quoted quote collected =>
    if c = quote then ([], .maybeClosed quote collected)
    else ([], .quoted quote (c :: collected))
  | .maybeClosed quote collected =>
    if c = ']' then ([.key (String.ofList collected.reverse)], .plain [])
    else if c = quote then ([], .maybeClosed quote (quote :: collected))
    else ([], .quoted quote (c :: quote :: collected))

/-- The steps written by the rest of a path. -/
def steps (reading : Reading) : List Char → List Segment
  | [] => reading.finish
  | c :: rest =>
    let (done, after) := reading.next c
    done ++ steps after rest

/-- Splits a path into its steps. -/
def parse (path : String) : List Segment := steps (.plain []) path.toList

end Path

namespace Doc

/-- Takes one step into a document. A key that is a numeral also addresses a list, and an index
also addresses an object. -/
def step? (doc : Doc) (segment : Path.Segment) : Option Doc :=
  match segment, doc with
  | .key name, .object members => Members.get? members name
  | .key name, .array items => (Path.position? name.toList).bind fun n => items[n]?
  | .index n, .array items => items[n]?
  | .index n, .object members => Members.get? members (numeral n)
  | _, _ => none

/-- Follows steps from the root of a document. -/
def follow? (doc : Doc) (segments : List Path.Segment) : Option Doc :=
  segments.foldlM step? doc

/-- The value at a path. The empty path leads nowhere, and a `null` counts as nothing. -/
def lookup? (doc : Doc) (path : String) : Option Doc :=
  match Path.parse path with
  | [] => none
  | segments => (doc.follow? segments).filter (!·.isNull)

mutual

/-- The text that a table cell shows for a value, nothing for `null`: strings as they are, lists
as their items with commas between, objects as JSON. -/
def display : Doc → Option String
  | .null => none
  | .string s => some s
  | .array items => some (String.intercalate "," (displayItems items))
  | doc => some doc.text

/-- The cell texts of the items of a list. -/
def displayItems : List Doc → List String
  | [] => []
  | item :: rest => (display item).getD "" :: displayItems rest

end

/-- The text shown for the value at a path. -/
def lookupText? (doc : Doc) (path : String) : Option String := (doc.lookup? path).bind display

end Doc

end PortalConfig
