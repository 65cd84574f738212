import ResourceScaffold.Text.ClusterTable
import ResourceScaffold.Text.GraphemeExtend

/-!
Contract: extended grapheme clusters, the user-perceived characters of a text.

Owns:
- the rules that keep two neighbouring characters in one cluster;
- splitting a text into its clusters.

Does not own: the character classes, which are tables.
-/

namespace ResourceScaffold.Text

/-! ## Classes of single characters -/

def codeWithin (first last : Nat) (character : Char) : Bool :=
  first ≤ character.toNat && character.toNat ≤ last

/-- The joiner that builds one pictograph from several. -/
def zeroWidthJoiner : Char := '\u200d'

/-- Marks and emoji modifiers, which extend the character before them. -/
def isExtender (character : Char) : Bool :=
  graphemeExtend.contains character || codeWithin 0x1f3fb 0x1f3ff character

def isRegionalIndicator (character : Char) : Bool :=
  codeWithin 0x1f1e6 0x1f1ff character

def isHangulLeading (character : Char) : Bool :=
  codeWithin 0x1100 0x115f character || codeWithin 0xa960 0xa97c character

def isHangulVowel (character : Char) : Bool :=
  codeWithin 0x1160 0x11a7 character || codeWithin 0xd7b0 0xd7c6 character ||
    codeWithin 0x16d63 0x16d63 character || codeWithin 0x16d67 0x16d6a character

def isHangulTrailing (character : Char) : Bool :=
  codeWithin 0x11a8 0x11ff character || codeWithin 0xd7cb 0xd7fb character

def isHangulSyllable (character : Char) : Bool :=
  codeWithin 0xac00 0xd7a3 character

def isOpenSyllable (character : Char) : Bool :=
  isHangulSyllable character && (character.toNat - 0xac00) % 28 == 0

/-! ## Joining rules -/

def joinsHangul (left right : Char) : Bool :=
  (isHangulLeading left &&
      (isHangulLeading right || isHangulVowel right || isHangulSyllable right)) ||
    ((isHangulVowel left || isOpenSyllable left) &&
      (isHangulVowel right || isHangulTrailing right)) ||
    ((isHangulTrailing left || isHangulSyllable left) && isHangulTrailing right)

/-- Whether a cluster, given from its end, is a pictograph, extenders and a joiner. -/
def awaitsPictograph : List Char → Bool
  | [] => false
  | last :: before =>
      last == zeroWidthJoiner &&
        match before.dropWhile isExtender with
        | [] => false
        | character :: _ => extendedPictographic.contains character

def isConjunctFiller (character : Char) : Bool :=
  conjunctLinker.contains character || character == zeroWidthJoiner ||
    (isExtender character && character != '\u200c')

/-- Whether a cluster, given from its end, is a consonant and fillers with a linker among them. -/
def awaitsConsonant (cluster : List Char) : Bool :=
  (cluster.takeWhile isConjunctFiller).any conjunctLinker.contains &&
    match cluster.dropWhile isConjunctFiller with
    | [] => false
    | character :: _ => conjunctConsonant.contains character

/-- Whether a character belongs to the cluster before it. The cluster is given from its end. -/
def joinsCluster (cluster : List Char) (next : Char) : Bool :=
  match cluster with
  | [] => true
  | last :: _ =>
      if last == '\r' && next == '\n' then true
      else if clusterControl.contains last || clusterControl.contains next then false
      else if joinsHangul last next then true
      else if isExtender next || next == zeroWidthJoiner then true
      else if clusterSpacingMark.contains next then true
      else if clusterPrepend.contains last then true
      else if awaitsConsonant cluster && conjunctConsonant.contains next then true
      else if awaitsPictograph cluster && extendedPictographic.contains next then true
      else
        isRegionalIndicator next && (cluster.takeWhile isRegionalIndicator).length % 2 == 1

/-! ## Segmentation -/

/-- The clusters of a text after an unfinished cluster, which is given from its end. -/
def clustersAfter (cluster : List Char) : List Char → List (List Char)
  | [] => if cluster.isEmpty then [] else [cluster.reverse]
  | next :: rest =>
      if joinsCluster cluster next then
        clustersAfter (next :: cluster) rest
      else
        cluster.reverse :: clustersAfter [next] rest

def clusters (text : List Char) : List (List Char) :=
  clustersAfter [] text

theorem flatten_clustersAfter (cluster text : List Char) :
    (clustersAfter cluster text).flatten = cluster.reverse ++ text := by
  induction text generalizing cluster with
  | nil =>
      cases cluster <;> simp [clustersAfter]
  | cons next rest inductionHypothesis =>
      simp only [clustersAfter]
      split
      · simp [inductionHypothesis]
      · simp [inductionHypothesis]

theorem flatten_clusters (text : List Char) : (clusters text).flatten = text := by
  simpa [clusters] using flatten_clustersAfter [] text

end ResourceScaffold.Text
