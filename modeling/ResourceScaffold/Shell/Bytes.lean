/-!
Contract: the texts of programs, which are sequences of bytes.

Owns:
- the representation of bytes as characters, so that texts can be matched by letters;
- the steps between strings, arrays and bytes.

Does not own: what bytes mean. A character beyond ASCII takes several bytes here.
-/

namespace ResourceScaffold.Shell

/-- A sequence of bytes. Each character stands for the byte of its code, which is below 256. -/
abbrev Bytes := List Char

namespace Bytes

def ofArray (bytes : ByteArray) : Bytes :=
  bytes.toList.map fun byte => Char.ofNat byte.toNat

def ofString (text : String) : Bytes :=
  ofArray text.toUTF8

def toArray (bytes : Bytes) : ByteArray :=
  ⟨(bytes.map fun byte => UInt8.ofNat byte.toNat).toArray⟩

def ofNat (number : Nat) : Bytes :=
  (toString number).toList

def ofInt (number : Int) : Bytes :=
  (toString number).toList

def joined (separator : Bytes) : List Bytes → Bytes
  | [] => []
  | [text] => text
  | text :: rest => text ++ separator ++ joined separator rest

end Bytes

end ResourceScaffold.Shell
