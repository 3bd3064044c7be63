import PortalConfig.Json.Number
import PortalConfig.Text.Escape

/-!
# JSON tokens

Brackets, separators, strings, numbers and the three words. A string ends at the first quote that
is not escaped and may hold no raw control character.
-/

namespace PortalConfig.Json

/-- A token of a JSON text. -/
inductive Token
  | openArray
  | closeArray
  | openObject
  | closeObject
  | comma
  | colon
  | null
  | bool (value : Bool)
  | number (value : Number)
  | string (value : String)

/-- The blanks between tokens. -/
def isGap (c : Char) : Bool := c == ' ' || c == '\t' || c == '\n' || c == '\r'

/-- The token that a single character makes. -/
def Token.ofChar? (c : Char) : Option Token :=
  if c = '[' then some .openArray
  else if c = ']' then some .closeArray
  else if c = '\x7b' then some .openObject
  else if c = '\x7d' then some .closeObject
  else if c = ',' then some .comma
  else if c = ':' then some .colon
  else none

/-- The token that a run of letters makes. -/
def Token.ofWord? (word : List Char) : Option Token :=
  if word = "null".toList then some .null
  else if word = "true".toList then some (.bool true)
  else if word = "false".toList then some (.bool false)
  else none

/-- Four hexadecimal digits. -/
def fourDigits? : (text : List Char) → Option (Rest Char Nat text.length)
  | a :: b :: c :: d :: rest =>
    (Numeral.readDigits? 16 [a, b, c, d]).map fun n => ⟨n, rest, by simp; omega⟩
  | _ => none

/-- The character after `\u`: four digits, or two halves of a surrogate pair. -/
def unicodeEscape? (text : List Char) : Option (Rest Char Char text.length) :=
  match fourDigits? text with
  | none => none
  | some first =>
    if Text.isHighSurrogate first.value then
      match h : first.rest with
      | '\\' :: 'u' :: more =>
        match fourDigits? more with
        | some second =>
          (Text.ofSurrogates? first.value second.value).map fun c =>
            ⟨c, second.rest, by
              have := first.shorter
              have := second.shorter
              rw [h] at *
              simp at *
              omega⟩
        | none => none
      | _ => none
    else (Text.character? first.value).map fun c => ⟨c, first.rest, first.shorter⟩

/-- The character that a letter after the backslash stands for. -/
def simpleEscape? (c : Char) : Option Char :=
  if c = '"' ∨ c = '\\' ∨ c = '/' then some c
  else if c = 'b' then some '\x08'
  else if c = 'f' then some '\x0c'
  else if c = 'n' then some '\n'
  else if c = 'r' then some '\r'
  else if c = 't' then some '\t'
  else none

/-- The character that an escape stands for, from the text after the backslash. -/
def escape? : (text : List Char) → Option (Rest Char Char text.length)
  | [] => none
  | c :: rest =>
    if c = 'u' then (unicodeEscape? rest).map (·.later)
    else (simpleEscape? c).map fun value => .of value rest

/-- The characters of a string, from the text after its opening quote. -/
def stringBody? (text : List Char) : Option (Rest Char (List Char) text.length) :=
  Text.quotedBody? escape? (fun c => decide (0x20 ≤ c.toNat)) text

/-- The characters that a numeral is made of. -/
def isNumeralChar (c : Char) : Bool :=
  Numeral.isDecimal c || c == '-' || c == '+' || c == '.' || c == 'e' || c == 'E'

/-- The token that starts with the character `c` and is longer than one character. -/
def Token.scan? (c : Char) (rest : List Char) : Option (Rest Char Token (rest.length + 1)) :=
  if c = '"' then
    (stringBody? rest).map fun body =>
      (body.map fun text => .string (String.ofList text)).later
  else if c.isAlpha then
    let run := takeRun Char.isAlpha c rest
    (Token.ofWord? run.value).map fun token => run.map fun _ => token
  else
    let run := takeRun isNumeralChar c rest
    (number? run.value).map fun n => run.map fun _ => .number n

/-- The tokens of a text. -/
def tokens? (text : List Char) : Option (List Token) :=
  match text with
  | [] => some []
  | c :: rest =>
    if isGap c then tokens? rest
    else
      match Token.ofChar? c with
      | some token => (tokens? rest).map (token :: ·)
      | none =>
        match Token.scan? c rest with
        | none => none
        | some scanned =>
          have := scanned.shorter
          (tokens? scanned.rest).map (scanned.value :: ·)
termination_by text.length

end PortalConfig.Json
