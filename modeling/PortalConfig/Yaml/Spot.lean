import PortalConfig.Text.Numeral
import PortalConfig.Text.Rest

/-!
# Characters in their places

The text of a YAML document as a list of characters, each with its offset in bytes and with the line
and the column that it stands in. Line ends of every kind read as a line feed, but for the line and
paragraph separators U+2028 and U+2029, which end a line and stay what they are.
-/

namespace PortalConfig.Yaml

/-- A character and its place. -/
structure Spot where
  char : Char
  /-- How many bytes of the text stand before it. -/
  offset : Nat
  line : Nat
  column : Nat
deriving DecidableEq

/-- The characters that a document may have in it. -/
def isAllowed (c : Char) : Bool :=
  let n := c.toNat
  n == 0x09 || n == 0x0A || n == 0x0D || (0x20 ≤ n && n ≤ 0x7E) || n == 0x85 ||
    (0xA0 ≤ n && n ≤ 0xFFFD) || 0x10000 ≤ n

/-- The characters that end a line, as they are read. -/
def isBreak (c : Char) : Bool := c == '\n' || c == '\u2028' || c == '\u2029'

/-- The blanks within a line. -/
def isGap (c : Char) : Bool := c == ' ' || c == '\t'

/-- The characters of names. -/
def isNameChar (c : Char) : Bool := c.isAlphanum || c == '_' || c == '-'

/-- How a character that ends a line is read. -/
def readBreak (c : Char) : Char := if c = '\r' ∨ c = '\x85' then '\n' else c

/-- Puts the characters of a text into their places. -/
def locate (offset line column : Nat) : List Char → List Spot
  | [] => []
  | '\r' :: '\n' :: rest => ⟨'\n', offset, line, column⟩ :: locate (offset + 2) (line + 1) 0 rest
  | c :: rest =>
    ⟨readBreak c, offset, line, column⟩ ::
      if isBreak (readBreak c) then locate (offset + c.utf8Size) (line + 1) 0 rest
      else locate (offset + c.utf8Size) line (column + 1) rest

/-- The characters of a text in their places. -/
def spots (text : String) : List Spot := locate 0 0 0 text.toList

/-- Whether the text starts with this character. -/
def startsWith (c : Char) : List Spot → Bool
  | s :: _ => s.char == c
  | [] => false

/-- Whether a word ends here: at a blank, a line end or the end of the text. -/
def endsWord : List Spot → Bool
  | s :: _ => isGap s.char || isBreak s.char
  | [] => true

/-- Whether a line ends here. -/
def endsLine : List Spot → Bool
  | s :: _ => isBreak s.char
  | [] => true

/-- Whether the mark made of three characters `c` stands here at the beginning of a line. -/
def marksDocument (c : Char) : List Spot → Bool
  | s :: t :: u :: rest =>
    s.column == 0 && s.char == c && t.char == c && u.char == c && endsWord rest
  | _ => false

/-- Whether the beginning or the end of a document is marked here. -/
def isDocumentMark (text : List Spot) : Bool := marksDocument '-' text || marksDocument '.' text

/-- Leaves out the blanks at the front of a text. -/
def skipGap (text : List Spot) : List Spot := text.dropWhile (isGap ·.char)

theorem length_skipGap_le (text : List Spot) : (skipGap text).length ≤ text.length :=
  length_dropWhile_le _ text

/-- Leaves out what is left of a line, up to its end. -/
def skipLine (text : List Spot) : List Spot := text.dropWhile (!isBreak ·.char)

theorem length_skipLine_le (text : List Spot) : (skipLine text).length ≤ text.length :=
  length_dropWhile_le _ text

/-- Leaves out the blanks at the front of a text. -/
def gap (text : List Spot) : Rest Spot Unit (text.length + 1) :=
  ⟨(), skipGap text, Nat.lt_succ_of_le (length_skipGap_le text)⟩

/-- The name at the front of a text, which may be empty. -/
def name (text : List Spot) : Rest Spot (List Char) (text.length + 1) :=
  ⟨(text.takeWhile (isNameChar ·.char)).map (·.char), text.dropWhile (isNameChar ·.char),
    Nat.lt_succ_of_le (length_dropWhile_le _ text)⟩

/-- What follows a character that has to come first. -/
def mark? (c : Char) (text : List Spot) : Option (Rest Spot Unit (text.length + 1)) :=
  if startsWith c text then some ⟨(), text.drop 1, by simp only [List.length_drop]; omega⟩
  else none

/-- What follows the end of a line that only blanks and a comment may precede. -/
def afterLine? (text : List Spot) : Option (Rest Spot Unit (text.length + 1)) :=
  have := length_skipGap_le text
  let after := if startsWith '#' (skipGap text) then skipLine (skipGap text) else skipGap text
  have : after.length ≤ (skipGap text).length := by
    unfold after
    split
    · exact length_skipLine_le _
    · exact Nat.le_refl _
  if endsLine after then some ⟨(), after.drop 1, by simp; omega⟩ else none

/-- The value of `count` hexadecimal digits, none of which may be missing. -/
def hexadecimal? (count : Nat) (text : List Spot) : Option (Rest Spot Nat (text.length + 1)) :=
  let digits := (text.take count).map (·.char)
  if digits.length = count ∧ digits.all Numeral.isHexadecimal then
    (Numeral.readDigits? 16 digits).map fun n =>
      ⟨n, text.drop count, by simp only [List.length_drop]; omega⟩
  else none

end PortalConfig.Yaml
