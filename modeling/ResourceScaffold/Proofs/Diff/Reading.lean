import ResourceScaffold.Diff.Unified
import ResourceScaffold.Proofs.Diff.Applying
import ResourceScaffold.Proofs.Text.Lines

/-!
Contract: what is printed for hunks is read as the hunks of a patch.

Owns:
- counts, ranges and headers are read as they are meant;
- marked lines are found again, those that nothing ends as well;
- the patch that printed hunks are read as.

Does not own: which hunks are printed.
-/

namespace ResourceScaffold.Diff

/-! ## Headers -/

def digitsOf (number : Nat) : List Char := Nat.toDigits 10 number

theorem toList_toString (number : Nat) : (toString number).toList = digitsOf number := by
  rw [Nat.toString_eq_ofList_toDigits, String.toList_ofList, digitsOf]

theorem isDigit_of_mem_digitsOf {number : Nat} {digit : Char} (member : digit ∈ digitsOf number) :
    digit.isDigit = true :=
  Nat.isDigit_of_mem_toDigits (by decide) (Nat.le_refl 10) member

theorem comma_not_mem_digitsOf (number : Nat) : ',' ∉ digitsOf number := by
  intro member
  have isDigit := isDigit_of_mem_digitsOf member
  revert isDigit
  decide

theorem readCount?_digitsOf (number : Nat) : readCount? (digitsOf number) = some number := by
  have nonempty : (digitsOf number).isEmpty = false :=
    List.isEmpty_eq_false_iff.2 Nat.toDigits_ne_nil
  have digits : (digitsOf number).all Char.isDigit = true :=
    List.all_eq_true.2 fun _ member => isDigit_of_mem_digitsOf member
  have value : Numeral.natOfDigits (digitsOf number) = number := by
    have spelled : Nat.ofDigitChars 10 (digitsOf number) 0 = number :=
      Nat.ofDigitChars_ten_toDigits
    rw [Nat.ofDigitChars_eq_foldl] at spelled
    simpa only [Numeral.natOfDigits, Nat.mul_comm] using spelled
  rw [readCount?, nonempty, digits, value]
  rfl

/-- A range is written as one number, or as two with a comma between them. -/
theorem toList_rangeText (start stop : Nat) :
    (rangeText start stop).toList =
      if stop - start = 1 then digitsOf (start + 1)
      else if stop - start = 0 then digitsOf start ++ ',' :: digitsOf 0
      else digitsOf (start + 1) ++ ',' :: digitsOf (stop - start) := by
  have zero : ",0".toList = ',' :: digitsOf 0 := by decide
  have comma : ",".toList = [','] := rfl
  rw [rangeText]
  split_ifs
  · exact toList_toString _
  · rw [String.toList_append, toList_toString, zero]
  · rw [String.toList_append, String.toList_append, toList_toString, toList_toString, comma]
    simp

theorem readRange?_pair (first count : Nat) :
    readRange? (digitsOf first ++ ',' :: digitsOf count) = rangeFrom? first count := by
  rw [readRange?, List.splitOn_append_cons_self_of_not_mem (comma_not_mem_digitsOf first),
    List.splitOn_eq_singleton (comma_not_mem_digitsOf count)]
  simp [readCount?_digitsOf]

theorem readRange?_rangeText (start stop : Nat) :
    readRange? (rangeText start stop).toList = some ⟨start, stop - start⟩ := by
  rw [toList_rangeText]
  split_ifs with one none
  · rw [readRange?, List.splitOn_eq_singleton (comma_not_mem_digitsOf _)]
    simp [readCount?_digitsOf, rangeFrom?, one]
  · rw [readRange?_pair, rangeFrom?, if_pos rfl, none]
  · rw [readRange?_pair, rangeFrom?, if_neg none, if_neg (Nat.succ_ne_zero start),
      Nat.add_sub_cancel]

theorem mem_rangeText {start stop : Nat} {character : Char}
    (member : character ∈ (rangeText start stop).toList) :
    character.isDigit = true ∨ character = ',' := by
  have pair {first count : Nat} (member : character ∈ digitsOf first ++ ',' :: digitsOf count) :
      character.isDigit = true ∨ character = ',' := by
    rw [List.mem_append, List.mem_cons] at member
    obtain first | comma | count := member
    · exact Or.inl (isDigit_of_mem_digitsOf first)
    · exact Or.inr comma
    · exact Or.inl (isDigit_of_mem_digitsOf count)
  rw [toList_rangeText] at member
  split_ifs at member
  · exact Or.inl (isDigit_of_mem_digitsOf member)
  · exact pair member
  · exact pair member

theorem not_mem_rangeText {character : Char} (start stop : Nat)
    (other : (character.isDigit || character = ',') = false) :
    character ∉ (rangeText start stop).toList := by
  intro member
  obtain digit | comma := mem_rangeText member
  · simp [digit] at other
  · simp [comma] at other

theorem toList_hunkHeader (first last : Region) :
    (hunkHeader first last).toList =
      ['@', '@'] ++ ' ' :: (('-' :: (rangeText first.oldStart last.oldEnd).toList) ++
        ' ' :: (('+' :: (rangeText first.newStart last.newEnd).toList) ++
          ' ' :: ['@', '@', '\n'])) := by
  simp [hunkHeader, String.toList_append]

theorem read?_hunkHeader (first last : Region) :
    PatchLine.read? (hunkHeader first last).toList =
      some (.header ⟨first.oldStart, last.oldEnd - first.oldStart⟩
        ⟨first.newStart, last.newEnd - first.newStart⟩) := by
  have noBlank (sign : Char) (isSign : sign ≠ ' ') (start stop : Nat) :
      ' ' ∉ sign :: (rangeText start stop).toList := by
    rw [List.mem_cons, not_or]
    exact ⟨isSign.symm, not_mem_rangeText start stop (by decide)⟩
  have words : (hunkHeader first last).toList.splitOn ' ' =
      [['@', '@'], '-' :: (rangeText first.oldStart last.oldEnd).toList,
        '+' :: (rangeText first.newStart last.newEnd).toList, ['@', '@', '\n']] := by
    rw [toList_hunkHeader, List.splitOn_append_cons_self_of_not_mem (by decide),
      List.splitOn_append_cons_self_of_not_mem (noBlank '-' (by decide) _ _),
      List.splitOn_append_cons_self_of_not_mem (noBlank '+' (by decide) _ _),
      List.splitOn_eq_singleton (by decide)]
  have isHeader : PatchLine.read? (hunkHeader first last).toList =
      readHeader? (hunkHeader first last).toList := by
    rw [toList_hunkHeader]
    rfl
  rw [isHeader, readHeader?, words]
  simp [readRange?_rangeText]

theorem standsAlone_hunkHeader (first last : Region) :
    Text.StandsAlone (hunkHeader first last).toList := by
  have range (start stop : Nat) : ∀ character ∈ (rangeText start stop).toList,
      Text.isLineEnd character = false := by
    intro character member
    cases isEnd : Text.isLineEnd character with
    | false => rfl
    | true =>
        obtain rfl | rfl : character = '\n' ∨ character = '\r' := by
          simpa [Text.isLineEnd] using isEnd
        all_goals exact absurd member (not_mem_rangeText start stop (by decide))
  have whole : (hunkHeader first last).toList =
      ['@', '@', ' ', '-'] ++ (rangeText first.oldStart last.oldEnd).toList ++ [' ', '+'] ++
        (rangeText first.newStart last.newEnd).toList ++ [' ', '@', '@'] ++ ['\n'] := by
    simp [toList_hunkHeader]
  rw [whole]
  refine Text.standsAlone_append_feed (by simp) ?_
  simp only [List.forall_mem_append]
  refine ⟨⟨⟨⟨?_, range _ _⟩, ?_⟩, range _ _⟩, ?_⟩ <;> simp [Text.isLineEnd]

/-! ## Printed lines -/

/-- Whether a text is made of lines that stand alone and are read as lines of a patch. -/
def ReadsAs (text : List Char) (lines : List PatchLine) : Prop :=
  ∃ printed : List (List Char), (∀ line ∈ printed, Text.StandsAlone line) ∧
    printed.flatten = text ∧ printed.mapM PatchLine.read? = some lines

namespace ReadsAs

theorem line {text : List Char} {line : PatchLine} (alone : Text.StandsAlone text)
    (read : PatchLine.read? text = some line) : ReadsAs text [line] :=
  ⟨[text], by simpa using alone, by simp, by simp [read]⟩

theorem append {first second : List Char} {firstLines secondLines : List PatchLine}
    (readsFirst : ReadsAs first firstLines) (readsSecond : ReadsAs second secondLines) :
    ReadsAs (first ++ second) (firstLines ++ secondLines) := by
  obtain ⟨printed, alone, rfl, read⟩ := readsFirst
  obtain ⟨printed', alone', rfl, read'⟩ := readsSecond
  refine ⟨printed ++ printed', List.forall_mem_append.2 ⟨alone, alone'⟩, by simp, ?_⟩
  rw [List.mapM_append, read, read']
  rfl

theorem flatMap {α : Type} {items : List α} {text : α → List Char} {lines : α → List PatchLine}
    (reads : ∀ item ∈ items, ReadsAs (text item) (lines item)) :
    ReadsAs (items.flatMap text) (items.flatMap lines) := by
  induction items with
  | nil => exact ⟨[], nofun, rfl, rfl⟩
  | cons item rest inductionHypothesis =>
      rw [List.forall_mem_cons] at reads
      exact reads.1.append (inductionHypothesis reads.2)

end ReadsAs

theorem readsAs_hunkHeader (first last : Region) :
    ReadsAs (hunkHeader first last).toList
      [.header ⟨first.oldStart, last.oldEnd - first.oldStart⟩
        ⟨first.newStart, last.newEnd - first.newStart⟩] :=
  .line (standsAlone_hunkHeader first last) (read?_hunkHeader first last)

def Mark.character : Mark → Char
  | kept => ' '
  | removed => '-'
  | added => '+'

/-- What a marked line is read as: a line that nothing ends gets a line feed and a remark. -/
def readLinesOf (line : MarkedLine) : List PatchLine :=
  if Text.lineIsEnded line.2 then [.marked line.1 line.2]
  else [.marked line.1 (line.2 ++ ['\n']), .remark]

theorem read?_mark (mark : Mark) (line : List Char) :
    PatchLine.read? (mark.character :: line) = some (.marked mark line) := by
  cases mark <;> rfl

/-- The remark that nothing ends the line in front of it, as a line. -/
def remarkLine : List Char := "\\ No newline at end of file\n".toList

theorem missingEndMark_eq : missingEndMark = '\n' :: remarkLine := by decide

theorem readsAs_remarkLine : ReadsAs remarkLine [.remark] :=
  .line ⟨by decide, by decide, by decide⟩ (by decide)

theorem readsAs_markedLine {line : MarkedLine} (isLine : Text.IsLine line.2) :
    ReadsAs (markedLine line.1.character line.2) (readLinesOf line) := by
  have inside : Text.isLineEnd line.1.character = false := by cases line.1 <;> rfl
  rw [markedLine, readLinesOf]
  cases ended : Text.lineIsEnded line.2 with
  | true =>
      have nonempty : line.2 ≠ [] := by
        intro none
        rw [none] at ended
        cases ended
      rw [if_pos rfl, if_pos rfl, List.append_nil]
      refine .line ⟨(Text.isLine_cons_iff inside _).2 (Or.inr isLine), ?_, ?_⟩
        (read?_mark line.1 line.2)
      · rw [Text.lineIsEnded, List.getLast?_cons_of_ne_nil nonempty]
        exact ended
      · intro first
        rw [Option.some.inj first] at inside
        cases inside
  | false =>
      have alone := Text.standsAlone_append_feed (List.cons_ne_nil _ _)
        (List.forall_mem_cons.2 ⟨inside, isLine.inside ended⟩)
      have reads := (ReadsAs.line alone (read?_mark line.1 _)).append readsAs_remarkLine
      rw [if_neg Bool.false_ne_true, if_neg Bool.false_ne_true, missingEndMark_eq]
      simpa using reads

theorem print_eq_flatMap (region : Region) :
    region.print = region.marked.flatMap fun line => markedLine line.1.character line.2 := by
  cases region <;>
    simp [Region.print, Region.marked, markedLines, List.flatMap_map, Mark.character]

/-! ## Hunks -/

def PatchHunk.readLines (hunk : PatchHunk) : List PatchLine :=
  .header hunk.old hunk.new :: hunk.lines.flatMap readLinesOf

theorem readsAs_print {hunk : Hunk} (nonempty : hunk ≠ [])
    (isLine : ∀ line ∈ hunk.patchHunk.lines, Text.IsLine line.2) :
    ReadsAs hunk.print hunk.patchHunk.readLines := by
  obtain ⟨first, rest, rfl⟩ := List.exists_cons_of_ne_nil nonempty
  obtain ⟨last, isLast⟩ : ∃ last, (first :: rest).getLast? = some last :=
    ⟨_, List.getLast?_eq_some_getLast nonempty⟩
  have old : Hunk.oldRange (first :: rest) = ⟨first.oldStart, last.oldEnd - first.oldStart⟩ := by
    rw [Hunk.oldRange, List.head?_cons, isLast]
  have new : Hunk.newRange (first :: rest) = ⟨first.newStart, last.newEnd - first.newStart⟩ := by
    rw [Hunk.newRange, List.head?_cons, isLast]
  have regions : List.flatMap Region.print (first :: rest) =
      (Hunk.patchHunk (first :: rest)).lines.flatMap fun line =>
        markedLine line.1.character line.2 := by
    rw [Hunk.patchHunk, List.flatMap_assoc]
    exact List.flatMap_congr fun region _ => print_eq_flatMap region
  have printed : Hunk.print (first :: rest) =
      (hunkHeader first last).toList ++ List.flatMap Region.print (first :: rest) := by
    rw [Hunk.print, List.head?_cons, isLast]
  rw [printed, regions, PatchHunk.readLines, Hunk.patchHunk, old, new]
  exact (readsAs_hunkHeader first last).append
    (.flatMap fun line member => readsAs_markedLine (isLine line member))

theorem gather_marked (mark : Mark) (line : List Char) {rest : List PatchLine}
    (noRemark : rest.head? ≠ some .remark) :
    gather (.marked mark line :: rest) =
      (gather rest).map fun gathered => ((mark, line) :: gathered.1, gathered.2) := by
  rw [gather]
  rintro others rfl
  exact noRemark rfl

/-- Marked lines are gathered in front of what follows them, unless that is a remark. -/
theorem gather_readLinesOf (lines : List MarkedLine) {rest : List PatchLine}
    (noRemark : rest.head? ≠ some .remark) :
    gather (lines.flatMap readLinesOf ++ rest) =
      (gather rest).map fun gathered => (lines ++ gathered.1, gathered.2) := by
  induction lines with
  | nil => simp
  | cons line others inductionHypothesis =>
      have noRemark' : (others.flatMap readLinesOf ++ rest).head? ≠ some .remark := by
        cases others with
        | nil => exact noRemark
        | cons next more =>
            rw [List.flatMap_cons, readLinesOf]
            split_ifs <;> nofun
      rw [List.flatMap_cons, List.append_assoc, readLinesOf]
      cases Text.lineIsEnded line.2 with
      | true =>
          rw [if_pos rfl, List.singleton_append, gather_marked _ _ noRemark', inductionHypothesis,
            Option.map_map]
          rfl
      | false =>
          rw [if_neg Bool.false_ne_true, List.cons_append, List.singleton_append, gather,
            inductionHypothesis, Option.map_map, List.dropLast_concat]
          rfl

theorem gather_readLines (hunks : List PatchHunk) :
    gather (hunks.flatMap PatchHunk.readLines) = some ([], hunks) := by
  induction hunks with
  | nil => rfl
  | cons hunk rest inductionHypothesis =>
      have noRemark : (rest.flatMap PatchHunk.readLines).head? ≠ some .remark := by
        cases rest <;> nofun
      rw [List.flatMap_cons, PatchHunk.readLines, List.cons_append, gather,
        gather_readLinesOf _ noRemark, inductionHypothesis]
      simp

/-! ## Patches -/

def nameLine (sign : Char) (name : List Char) : List Char :=
  sign :: sign :: sign :: ' ' :: name ++ ['\n']

theorem readName?_nameLine (sign : Char) (name : List Char) :
    readName? sign (nameLine sign name) = some name := by
  simp [nameLine, readName?]

theorem standsAlone_nameLine {sign : Char} (isSign : Text.isLineEnd sign = false) {name : List Char}
    (inside : ∀ character ∈ name, Text.isLineEnd character = false) :
    Text.StandsAlone (nameLine sign name) := by
  refine Text.standsAlone_append_feed (List.cons_ne_nil _ _) ?_
  simp only [List.forall_mem_cons]
  exact ⟨isSign, isSign, isSign, by decide, inside⟩

/-- Two names and what is read as hunks are read as a patch. -/
theorem read?_of_readsAs {oldName newName text : List Char} {hunks : List PatchHunk}
    (oldInside : ∀ character ∈ oldName, Text.isLineEnd character = false)
    (newInside : ∀ character ∈ newName, Text.isLineEnd character = false)
    (reads : ReadsAs text (hunks.flatMap PatchHunk.readLines)) :
    Patch.read? (nameLine '-' oldName ++ nameLine '+' newName ++ text) =
      some ⟨oldName, newName, hunks⟩ := by
  obtain ⟨printed, alone, rfl, read⟩ := reads
  have oldAlone : Text.StandsAlone (nameLine '-' oldName) := standsAlone_nameLine rfl oldInside
  have newAlone : Text.StandsAlone (nameLine '+' newName) := standsAlone_nameLine rfl newInside
  have lines : Text.linesWithEnds (nameLine '-' oldName ++ nameLine '+' newName ++ printed.flatten) =
      nameLine '-' oldName :: nameLine '+' newName :: printed := by
    simpa using Text.linesWithEnds_flatten
      (List.forall_mem_cons.2 ⟨oldAlone, List.forall_mem_cons.2 ⟨newAlone, alone⟩⟩)
  rw [Patch.read?, lines]
  simp [readName?_nameLine, read, gather_readLines]

end ResourceScaffold.Diff
