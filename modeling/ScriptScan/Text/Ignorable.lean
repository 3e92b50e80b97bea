import ScriptScan.Text.CharSet

/-!
# Characters without a place in a name

Soft hyphens, joiners, fillers, variation selectors and invisible operators show nothing. In a name
that is looked up regardless of how it was typed, such as the name of a host, they do not count.
-/

namespace ScriptScan

/-- The characters that are left out of the name of a host. -/
def ignorableChars : CharSet where
  changes := [
    0xAD, 0xAE, 0x34F, 0x350, 0x115F, 0x1161, 0x17B4, 0x17B6, 0x180B, 0x1810, 0x200B, 0x200C,
    0x2060, 0x2065, 0x206A, 0x2070, 0x3164, 0x3165, 0xFE00, 0xFE10, 0xFEFF, 0xFF00, 0xFFA0, 0xFFA1,
    0x1BCA0, 0x1BCA4, 0x1D173, 0x1D17B, 0xE0100, 0xE01F0]

/-- Whether the character is left out of the name of a host. -/
def isIgnorable (c : Char) : Bool :=
  ignorableChars.contains c

end ScriptScan
