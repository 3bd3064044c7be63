/-!
# Letter case of ASCII

Kinds and types are compared without regard to the case of ASCII letters; every other character
counts as it is. `equalIgnoringCase` is equality of the lower-cased texts.
-/

namespace PortalConfig.Text

/-- The text with ASCII capitals turned into small letters. -/
def asciiLower (text : String) : String := String.ofList (text.toList.map Char.toLower)

/-- Whether two texts are equal up to the case of ASCII letters. -/
def equalIgnoringCase (a b : String) : Bool := asciiLower a == asciiLower b

theorem equalIgnoringCase_iff (a b : String) :
    equalIgnoringCase a b = true ↔ asciiLower a = asciiLower b := by
  simp [equalIgnoringCase]

end PortalConfig.Text
