import PortalConfig.Text.Escape

/-!
# Strings of TOML documents

A string is basic or literal, and either of the two may run over several lines between three quotes
on each side. Only basic strings know escapes. In a string over several lines a line end of either
kind reads as a line feed, one right after the opening quotes is left out, and one or two quotes
may stand anywhere, also next to the closing ones.
-/

namespace PortalConfig.Toml

/-- The characters that may stand in a comment or a string: all but control characters other than
the tab. -/
def isPlain (c : Char) : Bool := c == '\t' || (0x20 ≤ c.toNat && c.toNat != 0x7F)

/-- The blanks within a line. -/
def isGap (c : Char) : Bool := c == ' ' || c == '\t'

/-- What follows a line end of either kind. -/
def afterLineEnd? : (text : List Char) → Option (Rest Char Unit text.length)
  | '\n' :: rest => some (.of () rest)
  | '\r' :: '\n' :: rest => some (Rest.of () rest).later
  | _ => none

/-- The character that a letter after the backslash stands for. -/
def simpleEscape? (c : Char) : Option Char :=
  if c = '"' ∨ c = '\\' then some c
  else if c = 'b' then some '\x08'
  else if c = 'f' then some '\x0c'
  else if c = 'n' then some '\n'
  else if c = 'r' then some '\r'
  else if c = 't' then some '\t'
  else none

/-- The character that an escape stands for, from the text after the backslash. -/
def escape? : (text : List Char) → Option (Rest Char Char text.length)
  | [] => none
  | c :: rest =>
    if c = 'u' then (Text.numbered? 4 rest).map (·.later)
    else if c = 'U' then (Text.numbered? 8 rest).map (·.later)
    else (simpleEscape? c).map fun value => .of value rest

/-- A basic string on one line, from the text after its quote. -/
def basic? (text : List Char) : Option (Rest Char (List Char) text.length) :=
  Text.quotedBody? escape? isPlain text

/-- A literal string on one line, from the text after its quote. -/
def literal? (text : List Char) : Option (Rest Char (List Char) text.length) :=
  match text with
  | [] => none
  | c :: rest =>
    if c = '\'' then some (.of [] rest)
    else if isPlain c then (literal? rest).map fun body => (body.map (c :: ·)).later
    else none

/-- The end of a string over several lines: three quotes, before which up to two more belong to the
string. -/
def closing? (quote : Char) : (text : List Char) → Option (Rest Char (List Char) text.length)
  | a :: b :: c :: rest =>
    if a = quote ∧ b = quote ∧ c = quote then
      match rest with
      | d :: e :: rest =>
        if d = quote ∧ e = quote then some ⟨[quote, quote], rest, by simp; omega⟩
        else if d = quote then some ⟨[quote], e :: rest, by simp⟩
        else some ⟨[], d :: e :: rest, by simp⟩
      | [d] =>
        if d = quote then some ⟨[quote], [], by simp⟩ else some ⟨[], [d], by simp⟩
      | [] => some ⟨[], [], by simp⟩
    else none
  | _ => none

/-- Leaves out blanks and line ends. -/
def skipLines (text : List Char) : List Char :=
  match text with
  | [] => []
  | '\r' :: '\n' :: rest => skipLines rest
  | c :: rest => if isGap c || c == '\n' then skipLines rest else c :: rest

theorem length_skipLines_le (text : List Char) : (skipLines text).length ≤ text.length := by
  fun_induction skipLines text with
  | case1 => exact Nat.le_refl _
  | case2 rest ih => simp; omega
  | case3 c rest _ _ ih => simp; omega
  | case4 => exact Nat.le_refl _

/-- What follows an escaped line end, with all blanks and line ends after it; `none` when the
backslash does not stand at the end of a line. -/
def afterEscapedLineEnd? (text : List Char) : Option (Rest Char Unit (text.length + 1)) :=
  match afterLineEnd? (text.dropWhile isGap) with
  | none => none
  | some lineEnd =>
    have := lineEnd.shorter
    have := length_skipLines_le lineEnd.rest
    have := length_dropWhile_le isGap text
    some ⟨(), skipLines lineEnd.rest, by omega⟩

/-- A basic string over several lines, from the text after its quotes. -/
def basicLines? (text : List Char) : Option (Rest Char (List Char) text.length) :=
  match closing? '"' text with
  | some closed => some closed
  | none =>
    match afterLineEnd? text with
    | some lineEnd =>
      have := lineEnd.shorter
      (basicLines? lineEnd.rest).map fun body => lineEnd.followedBy (body.map ('\n' :: ·))
    | none =>
      match text with
      | [] => none
      | c :: rest =>
        if c = '\\' then
          match afterEscapedLineEnd? rest with
          | some skipped =>
            have := skipped.shorter
            (basicLines? skipped.rest).map fun body => skipped.followedBy body
          | none =>
            match escape? rest with
            | none => none
            | some escaped =>
              have := escaped.shorter
              (basicLines? escaped.rest).map fun body =>
                (escaped.followedBy (body.map (escaped.value :: ·))).later
        else if isPlain c then (basicLines? rest).map fun body => (body.map (c :: ·)).later
        else none
termination_by text.length
decreasing_by
  · exact this
  · exact this
  · exact Nat.lt_succ_of_lt this
  · exact Nat.lt_succ_self _

/-- A literal string over several lines, from the text after its quotes. -/
def literalLines? (text : List Char) : Option (Rest Char (List Char) text.length) :=
  match closing? '\'' text with
  | some closed => some closed
  | none =>
    match afterLineEnd? text with
    | some lineEnd =>
      have := lineEnd.shorter
      (literalLines? lineEnd.rest).map fun body => lineEnd.followedBy (body.map ('\n' :: ·))
    | none =>
      match text with
      | [] => none
      | c :: rest =>
        if isPlain c then (literalLines? rest).map fun body => (body.map (c :: ·)).later else none
termination_by text.length
decreasing_by
  · exact this
  · exact Nat.lt_succ_self _

/-- Leaves out a line end at the beginning of a string over several lines. -/
def afterOpening (text : List Char) : List Char :=
  match afterLineEnd? text with
  | some lineEnd => lineEnd.rest
  | none => text

theorem length_afterOpening_le (text : List Char) : (afterOpening text).length ≤ text.length := by
  unfold afterOpening
  split
  · next lineEnd _ => exact Nat.le_of_lt lineEnd.shorter
  · exact Nat.le_refl _

/-- A string of any kind. -/
def string? : (text : List Char) → Option (Rest Char (List Char) text.length)
  | '"' :: '"' :: '"' :: rest =>
    have := length_afterOpening_le rest
    (basicLines? (afterOpening rest)).map (·.widen (by simp; omega))
  | '\'' :: '\'' :: '\'' :: rest =>
    have := length_afterOpening_le rest
    (literalLines? (afterOpening rest)).map (·.widen (by simp; omega))
  | '"' :: rest => (basic? rest).map (·.widen (by simp))
  | '\'' :: rest => (literal? rest).map (·.widen (by simp))
  | _ => none

/-- A string on one line. -/
def lineString? : (text : List Char) → Option (Rest Char (List Char) text.length)
  | '"' :: rest => (basic? rest).map (·.widen (by simp))
  | '\'' :: rest => (literal? rest).map (·.widen (by simp))
  | _ => none

end PortalConfig.Toml
