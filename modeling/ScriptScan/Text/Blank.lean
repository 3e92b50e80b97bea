import ScriptScan.Text.CharSet

/-!
# White space

The characters with the Unicode property White_Space: tab to carriage return, the space, the two
spaces of the Latin-1 block, and the typographic spaces and separators.
-/

namespace ScriptScan

/-- The White_Space characters. -/
def blankChars : CharSet where
  changes := [
    9, 0xE, 0x20, 0x21, 0x85, 0x86, 0xA0, 0xA1, 0x1680, 0x1681, 0x2000, 0x200B, 0x2028, 0x202A,
    0x202F, 0x2030, 0x205F, 0x2060, 0x3000, 0x3001]

/-- Whether the character is white space. -/
def isBlank (c : Char) : Bool :=
  blankChars.contains c

end ScriptScan
