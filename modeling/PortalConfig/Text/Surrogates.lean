/-!
# Characters by their number

An escape in a text names a character by its number, possibly as two halves of a surrogate pair.
Numbers of surrogates and numbers above U+10FFFF name no character.
-/

namespace PortalConfig.Text

/-- The character with this number. -/
def character? (n : Nat) : Option Char :=
  if h : n.isValidChar then some (Char.ofNatAux n h) else none

def isHighSurrogate (n : Nat) : Bool := 0xD800 ≤ n && n < 0xDC00

def isLowSurrogate (n : Nat) : Bool := 0xDC00 ≤ n && n < 0xE000

/-- The character that a surrogate pair stands for. -/
def ofSurrogates? (high low : Nat) : Option Char :=
  if isHighSurrogate high && isLowSurrogate low then
    character? (0x10000 + (high - 0xD800) * 0x400 + (low - 0xDC00))
  else none

end PortalConfig.Text
