/-!
Contract: text from bytes that need not be valid UTF-8.

Owns:
- reading the longest valid beginning of a character;
- the replacement of what is not the encoding of a character.

Does not own: refusing such bytes, which is what reading a file as text does.
-/

namespace ResourceScaffold.Text

/-- The character that stands for bytes that encode none. -/
def replacement : Char := '\ufffd'

/-- The number of bytes after a leading byte, the bits of a character that it holds, and the bounds
of the byte that follows it. -/
def leadOf? (byte : UInt8) : Option (Nat × Nat × UInt8 × UInt8) :=
  if 0xc2 ≤ byte ∧ byte ≤ 0xdf then some (1, byte.toNat - 0xc0, 0x80, 0xbf)
  else if byte = 0xe0 then some (2, 0, 0xa0, 0xbf)
  else if byte = 0xed then some (2, 0xd, 0x80, 0x9f)
  else if 0xe1 ≤ byte ∧ byte ≤ 0xef then some (2, byte.toNat - 0xe0, 0x80, 0xbf)
  else if byte = 0xf0 then some (3, 0, 0x90, 0xbf)
  else if byte = 0xf4 then some (3, 4, 0x80, 0x8f)
  else if 0xf1 ≤ byte ∧ byte ≤ 0xf3 then some (3, byte.toNat - 0xf0, 0x80, 0xbf)
  else none

/-- A character of which bytes have been read: how many are missing, its bits so far, and the bounds
of the next byte. -/
structure OpenCharacter where
  missing : Nat
  bits : Nat
  least : UInt8
  greatest : UInt8

/-- What a byte that begins a character stands for: the character, a character that has begun, or
the replacement. -/
def beginCharacter (byte : UInt8) : List Char × Option OpenCharacter :=
  if byte < 0x80 then ([Char.ofNat byte.toNat], none)
  else
    match leadOf? byte with
    | some (missing, bits, least, greatest) => ([], some ⟨missing, bits, least, greatest⟩)
    | none => ([replacement], none)

/-- The text of bytes, where a character may have begun. Each longest run of bytes that begins a
character without ending it is replaced as a whole. -/
def lossyFrom : Option OpenCharacter → List UInt8 → List Char
  | none, [] => []
  | some _, [] => [replacement]
  | none, byte :: rest =>
      let begun := beginCharacter byte
      begun.1 ++ lossyFrom begun.2 rest
  | some character, byte :: rest =>
      if character.least ≤ byte ∧ byte ≤ character.greatest then
        let bits := character.bits * 64 + (byte.toNat - 0x80)
        if character.missing ≤ 1 then Char.ofNat bits :: lossyFrom none rest
        else lossyFrom (some ⟨character.missing - 1, bits, 0x80, 0xbf⟩) rest
      else
        let begun := beginCharacter byte
        replacement :: begun.1 ++ lossyFrom begun.2 rest

def lossy (bytes : ByteArray) : String :=
  String.ofList (lossyFrom none bytes.toList)

end ResourceScaffold.Text
