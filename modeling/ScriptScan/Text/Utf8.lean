import ScriptScan.Text.Basic

/-!
# Decoding UTF-8

Bytes become text one character at a time. A sequence that breaks off, or that spells no character,
becomes one replacement character, and the byte that broke it off is read afresh. A byte order mark
at the very beginning is dropped.
-/

namespace ScriptScan

namespace Utf8

/-- A character that has begun: the bits so far, how many bytes are missing, and the range in which
the next one has to lie. -/
structure Partial where
  bits : Nat
  missing : Nat
  low : UInt8
  high : UInt8

/-- What a byte begins: a character of its own, a longer one, or nothing. -/
inductive Lead where
  | single (c : Char)
  | longer (p : Partial)
  | invalid

/-- The meaning of a byte at the start of a character. The second byte is restricted where the
sequence would be longer than needed, spell half of a surrogate pair, or lie beyond the last
character. -/
def lead (b : UInt8) : Lead :=
  if b < 0x80 then .single (Char.ofNat b.toNat)
  else if b < 0xC2 then .invalid
  else if b < 0xE0 then .longer ⟨b.toNat - 0xC0, 1, 0x80, 0xBF⟩
  else if b < 0xF0 then
    .longer ⟨b.toNat - 0xE0, 2, if b = 0xE0 then 0xA0 else 0x80, if b = 0xED then 0x9F else 0xBF⟩
  else if b < 0xF5 then
    .longer ⟨b.toNat - 0xF0, 3, if b = 0xF0 then 0x90 else 0x80, if b = 0xF4 then 0x8F else 0xBF⟩
  else .invalid

/-- The character that stands for bytes that spell none. -/
def replacement : Char := '\ufffd'

/-- What a byte at the start of a character adds to the text, and what it begins. -/
def start (b : UInt8) : Text × Option Partial :=
  match lead b with
  | .single c => ([c], none)
  | .longer p => ([], some p)
  | .invalid => ([replacement], none)

/-- What one more byte adds to the text, and what is then begun. -/
def step (p? : Option Partial) (b : UInt8) : Text × Option Partial :=
  match p? with
  | none => start b
  | some p =>
    if p.low ≤ b ∧ b ≤ p.high then
      let bits := p.bits * 64 + (b.toNat - 0x80)
      if p.missing = 1 then ([Char.ofNat bits], none)
      else ([], some ⟨bits, p.missing - 1, 0x80, 0xBF⟩)
    else
      let (t, p?) := start b
      (replacement :: t, p?)

/-- The text of some bytes after what is begun. -/
def decodeFrom (p? : Option Partial) : List UInt8 → Text
  | [] => if p?.isSome then [replacement] else []
  | b :: bs =>
    let (t, p?) := step p? b
    t ++ decodeFrom p? bs

/-- The text of some bytes. -/
def decode (bytes : List UInt8) : Text :=
  decodeFrom none bytes

/-- The text of a source file: one byte order mark at its beginning is dropped. -/
def decodeSource (bytes : List UInt8) : Text :=
  match decode bytes with
  | '\ufeff' :: t => t
  | t => t

end Utf8

end ScriptScan
