import PortalConfig.Text.Numeral
import PortalConfig.Text.Rest
import PortalConfig.Text.Surrogates

/-!
# Escapes in quoted strings

A backslash in a quoted string begins an escape. Some escapes name a character by its number, in a
fixed number of hexadecimal digits. Which escapes there are, and which characters stand for
themselves, is up to the format that the string belongs to.
-/

namespace PortalConfig.Text

/-- The character whose number is written in `count` hexadecimal digits, none of which may be
missing. -/
def numbered? (count : Nat) (text : List Char) : Option (Rest Char Char text.length) :=
  if h : 0 < count ∧ count ≤ text.length then
    let digits := text.take count
    if digits.all Numeral.isHexadecimal then
      ((Numeral.readDigits? 16 digits).bind character?).map fun c =>
        ⟨c, text.drop count, by simp; omega⟩
    else none
  else none

/-- The characters of a quoted string, from the text after its quote. The part after a backslash is
read by `escape?`, and `isPlain` admits the characters that stand for themselves. -/
def quotedBody? (escape? : (text : List Char) → Option (Rest Char Char text.length))
    (isPlain : Char → Bool) (text : List Char) : Option (Rest Char (List Char) text.length) :=
  match text with
  | [] => none
  | c :: rest =>
    if c = '"' then some (.of [] rest)
    else if c = '\\' then
      match escape? rest with
      | none => none
      | some escaped =>
        have := escaped.shorter
        (quotedBody? escape? isPlain escaped.rest).map fun body =>
          (escaped.followedBy (body.map (escaped.value :: ·))).later
    else if isPlain c then (quotedBody? escape? isPlain rest).map fun body =>
      (body.map (c :: ·)).later
    else none
termination_by text.length
decreasing_by
  · exact Nat.lt_succ_of_lt this
  · exact Nat.lt_succ_self _

end PortalConfig.Text
