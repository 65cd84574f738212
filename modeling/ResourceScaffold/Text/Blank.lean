import ResourceScaffold.Text.CharSet

/-!
Contract: white space, and what it means to trim text.

Owns:
- the property White_Space;
- trimming of characters at either end of a text.

Does not own: the narrower blanks (space and tab) of a line's margin, which belong to layout.
-/

namespace ResourceScaffold.Text

def whiteSpace : CharSet where
  ranges := [
    (0x9, 0xd), (0x20, 0x20), (0x85, 0x85), (0xa0, 0xa0), (0x1680, 0x1680), (0x2000, 0x200a),
    (0x2028, 0x2029), (0x202f, 0x202f), (0x205f, 0x205f), (0x3000, 0x3000)]

def isBlank (character : Char) : Bool :=
  whiteSpace.contains character

def trimStartOf (dropped : Char → Bool) (text : List Char) : List Char :=
  text.dropWhile dropped

def trimEndOf (dropped : Char → Bool) (text : List Char) : List Char :=
  (text.reverse.dropWhile dropped).reverse

def trimOf (dropped : Char → Bool) (text : List Char) : List Char :=
  trimEndOf dropped (trimStartOf dropped text)

def trimStart (text : List Char) : List Char :=
  trimStartOf isBlank text

def trimEnd (text : List Char) : List Char :=
  trimEndOf isBlank text

def trim (text : List Char) : List Char :=
  trimOf isBlank text

/-- What trimming at the end removes is a run of the class at the end. -/
theorem trimEndOf_append (dropped : Char → Bool) (text : List Char) :
    trimEndOf dropped text ++ (text.reverse.takeWhile dropped).reverse = text := by
  rw [trimEndOf, ← List.reverse_append, List.takeWhile_append_dropWhile, List.reverse_reverse]

@[simp] theorem trimOf_nil (dropped : Char → Bool) : trimOf dropped [] = [] := rfl

end ResourceScaffold.Text
