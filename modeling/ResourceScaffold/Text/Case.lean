import ResourceScaffold.Text.CaseTable

/-!
Contract: upper and lower case of characters and texts.

Owns:
- the case of one character, which can be several characters;
- lower-casing a text, where a capital sigma at a word's end becomes a final sigma;
- upper-casing a text.

Does not own: how words of a name are told apart.
-/

namespace ResourceScaffold.Text

def upper (character : Char) : List Char :=
  upperCaseMap.apply character

def lower (character : Char) : List Char :=
  lowerCaseMap.apply character

def meetsCased (characters : List Char) : Bool :=
  match characters.dropWhile caseIgnorable.contains with
  | [] => false
  | character :: _ => cased.contains character

/-- A text in lower case, where `before` holds the characters in front of it, nearest first. A
capital sigma that follows a cased character and precedes none is a final sigma. -/
def lowerTextAfter (before : List Char) : List Char → List Char
  | [] => []
  | character :: rest =>
      let image :=
        if character = 'Σ' then
          if meetsCased before && !meetsCased rest then ['ς'] else ['σ']
        else
          lower character
      image ++ lowerTextAfter (character :: before) rest

def lowerText (text : List Char) : List Char :=
  lowerTextAfter [] text

def upperText (text : List Char) : List Char :=
  text.flatMap upper

def upperFirst : List Char → List Char
  | [] => []
  | first :: rest => upper first ++ rest

/-- A text with its first character in upper case and the others in lower case. -/
def capitalized : List Char → List Char
  | [] => []
  | first :: rest => upper first ++ lowerText rest

end ResourceScaffold.Text
