import PortalConfig.Toml.Scalar
import PortalConfig.Toml.Table
import PortalConfig.Toml.Text

/-!
# Statements of TOML documents

A document is a sequence of statements, each on a line of its own: headers and assignments. Arrays
may run over several lines, with comments between their items and a comma after the last; inline
tables stay on one line. Brackets are nested at most 79 deep, and a dotted key has at most 79
parts.
-/

namespace PortalConfig.Toml

/-- How deeply brackets may be nested, and how many parts a key may have. -/
def nestingLimit : Nat := 79

/-- Leaves out blanks. -/
def skipGap (text : List Char) : List Char := text.dropWhile isGap

theorem length_skipGap_le (text : List Char) : (skipGap text).length ≤ text.length :=
  length_dropWhile_le isGap text

/-- Leaves out a comment. -/
def skipComment : List Char → List Char
  | '#' :: comment => comment.dropWhile isPlain
  | text => text

theorem length_skipComment_le (text : List Char) : (skipComment text).length ≤ text.length := by
  unfold skipComment
  split
  · next comment =>
    have := length_dropWhile_le isPlain comment
    simp
    omega
  · exact Nat.le_refl _

/-- What is left after the end of the line, which only blanks and a comment may precede. The end of
the text ends its last line. -/
def afterLine? (text : List Char) : Option { rest : List Char // rest.length ≤ text.length } :=
  have := length_skipGap_le text
  have := length_skipComment_le (skipGap text)
  match afterLineEnd? (skipComment (skipGap text)) with
  | some lineEnd => some ⟨lineEnd.rest, by have := lineEnd.shorter; omega⟩
  | none => if (skipComment (skipGap text)).isEmpty then some ⟨[], by simp⟩ else none

/-- Leaves out blanks, line ends and comments. -/
def skipTrivia (text : List Char) : List Char :=
  match text with
  | [] => []
  | '\r' :: '\n' :: rest => skipTrivia rest
  | c :: rest =>
    if isGap c || c == '\n' then skipTrivia rest
    else if c = '#' then
      have := length_dropWhile_le isPlain rest
      skipTrivia (rest.dropWhile isPlain)
    else c :: rest
termination_by text.length

theorem length_skipTrivia_le (text : List Char) : (skipTrivia text).length ≤ text.length := by
  fun_induction skipTrivia text with
  | case1 => exact Nat.le_refl _
  | case2 rest ih => simp; omega
  | case3 c rest _ _ ih => simp; omega
  | case4 rest _ _ shorter ih => simp; omega
  | case5 => exact Nat.le_refl _

/-- The characters of keys without quotes. -/
def isBareKey (c : Char) : Bool := c.isAlphanum || c == '_' || c == '-'

/-- One part of a key. -/
def keyPart? (text : List Char) : Option (Rest Char String text.length) :=
  match lineString? text with
  | some quoted => some (quoted.map String.ofList)
  | none =>
    match text with
    | [] => none
    | c :: rest =>
      if isBareKey c then some ((takeRun isBareKey c rest).map String.ofList) else none

/-- The parts of a dotted key, with blanks around each of them. -/
def keyParts? (text : List Char) : Option (Rest Char (List String) text.length) :=
  have := length_skipGap_le text
  match keyPart? (skipGap text) with
  | none => none
  | some part =>
    have := part.shorter
    have := length_skipGap_le part.rest
    match here? '.' (skipGap part.rest) with
    | some dot =>
      have := dot.shorter
      (keyParts? dot.rest).map fun parts => (parts.map (part.value :: ·)).widen (by omega)
    | none => some ⟨[part.value], skipGap part.rest, by omega⟩
termination_by text.length

/-- A dotted key: the parts before the last one, and the last one. -/
def key? (text : List Char) : Option (Rest Char (List String × String) text.length) :=
  match keyParts? text with
  | none => none
  | some parts =>
    if nestingLimit < parts.value.length then none
    else parts.value.getLast?.map fun last => parts.map fun parts => (parts.dropLast, last)

/-- The time of day after a date and a blank. -/
def timeAfterDate? : (text : List Char) → Option (Rest Char (List Char) text.length)
  | ' ' :: d :: rest =>
    if Numeral.isDecimal d then
      some ((takeRun isWordChar d rest).widen (by simp))
    else none
  | _ => none

/-- A word, or a date and a time with a blank between them. -/
def word? : (text : List Char) → Option (Rest Char Value text.length)
  | [] => none
  | c :: rest =>
    let word := takeRun isWordChar c rest
    match if isDate word.value then timeAfterDate? word.rest else none with
    | some time =>
      if isOffsetTime time.value then
        have := time.shorter
        have := word.shorter
        some ⟨.datetime (String.ofList (word.value ++ ' ' :: time.value)), time.rest, by
          simp
          omega⟩
      else none
    | none => (scalar? word.value).map fun value => word.map fun _ => value

mutual

/-- The value at the front of a text; `room` is how many brackets may still be opened. -/
def value? (room : Nat) (text : List Char) : Option (Rest Char Value text.length) :=
  match text with
  | '[' :: rest =>
    match room with
    | 0 => none
    | room + 1 => (items? room rest).map fun items => (items.map .array).widen (by simp)
  | '\x7b' :: rest =>
    match room with
    | 0 => none
    | room + 1 =>
      have := length_skipGap_le rest
      match here? '\x7d' (skipGap rest) with
      | some close => some ⟨.table [], close.rest, by have := close.shorter; simp; omega⟩
      | none =>
        match assignments? room rest with
        | none => none
        | some assignments => (inlineTableOf? assignments.value).map fun table =>
            (assignments.map fun _ => table).widen (by simp)
  | text =>
    match string? text with
    | some string => some (string.map fun text => .string (String.ofList text))
    | none => word? text
termination_by 2 * text.length

/-- The items of an array that are left, up to and with the closing bracket. -/
def items? (room : Nat) (text : List Char) : Option (Rest Char (List Value) text.length) :=
  have := length_skipTrivia_le text
  match here? ']' (skipTrivia text) with
  | some close => some ⟨[], close.rest, by have := close.shorter; omega⟩
  | none =>
    match value? room (skipTrivia text) with
    | none => none
    | some item =>
      have := item.shorter
      have := length_skipTrivia_le item.rest
      match here? ',' (skipTrivia item.rest), here? ']' (skipTrivia item.rest) with
      | some comma, _ =>
        have := comma.shorter
        (items? room comma.rest).map fun items => (items.map (item.value :: ·)).widen (by omega)
      | none, some close => some ⟨[item.value], close.rest, by have := close.shorter; omega⟩
      | none, none => none
termination_by 2 * text.length + 1

/-- An assignment, without what ends it. -/
def assignment? (room : Nat) (text : List Char) : Option (Rest Char Statement text.length) :=
  match key? text with
  | none => none
  | some key =>
    have := key.shorter
    match here? '=' key.rest with
    | none => none
    | some equals =>
      have := equals.shorter
      have := length_skipGap_le equals.rest
      (value? room (skipGap equals.rest)).map fun value =>
        (value.map (.assign key.value.1 key.value.2)).widen (by omega)
termination_by 2 * text.length

/-- The assignments of an inline table, up to and with the closing brace. -/
def assignments? (room : Nat) (text : List Char) :
    Option (Rest Char (List Statement) text.length) :=
  match assignment? room text with
  | none => none
  | some first =>
    have := first.shorter
    have := length_skipGap_le first.rest
    match here? ',' (skipGap first.rest), here? '\x7d' (skipGap first.rest) with
    | some comma, _ =>
      have := comma.shorter
      (assignments? room comma.rest).map fun others =>
        (others.map (first.value :: ·)).widen (by omega)
    | none, some close => some ⟨[first.value], close.rest, by have := close.shorter; omega⟩
    | none, none => none
termination_by 2 * text.length + 1

end

/-- The key between the brackets of a header. -/
def headerKey? (text : List Char) : Option (Rest Char (List String) text.length) :=
  match key? text with
  | none => none
  | some key => (here? ']' key.rest).map fun close =>
      ⟨key.value.1 ++ [key.value.2], close.rest, Nat.lt_trans close.shorter key.shorter⟩

/-- The key between the doubled brackets of a header. -/
def listHeaderKey? (text : List Char) : Option (Rest Char (List String) text.length) :=
  match headerKey? text with
  | none => none
  | some key => (here? ']' key.rest).map fun close =>
      ⟨key.value, close.rest, Nat.lt_trans close.shorter key.shorter⟩

/-- A header or an assignment, without the end of its line. -/
def statement? : (text : List Char) → Option (Rest Char Statement text.length)
  | '[' :: '[' :: rest =>
    (listHeaderKey? rest).map fun key => (key.map .listHeader).widen (by simp; omega)
  | '[' :: rest => (headerKey? rest).map fun key => (key.map .header).widen (by simp)
  | text => assignment? nestingLimit text

/-- The statements of a document. -/
def statements? (text : List Char) : Option (List Statement) :=
  match text with
  | [] => some []
  | c :: rest =>
    if isGap c then statements? rest
    else if c = '#' then
      have := length_dropWhile_le isPlain rest
      match afterLine? (rest.dropWhile isPlain) with
      | some after =>
        have := after.property
        statements? after.val
      | none => none
    else
      match afterLineEnd? (c :: rest) with
      | some lineEnd =>
        have := lineEnd.shorter
        statements? lineEnd.rest
      | none =>
        match statement? (c :: rest) with
        | none => none
        | some statement =>
          match afterLine? statement.rest with
          | none => none
          | some after =>
            have := statement.shorter
            have := after.property
            (statements? after.val).map (statement.value :: ·)
termination_by text.length
decreasing_by all_goals (simp only [List.length_cons] at *; omega)

end PortalConfig.Toml
