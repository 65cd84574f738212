import ResourceScaffold.Proofs.Text.Occurrence

/-!
Contract: how often a needle occurs in a text.

Owns:
- the number of places at which a needle begins;
- the number for a text of two parts, where no occurrence lies across both;
- statements, which end in a semicolon and hold no other one, and what inserting one changes.

Does not own: which statements there are.
-/

namespace ResourceScaffold.Text

/-! ## Occurrences -/

/-- The number of places at which a needle begins in a text. -/
def count (needle : List Char) : List Char → Nat
  | [] => if needle = [] then 1 else 0
  | character :: rest =>
      (if needle <+: character :: rest then 1 else 0) + count needle rest

theorem count_eq_zero_iff {needle text : List Char} : count needle text = 0 ↔ ¬ needle <:+: text := by
  induction text with
  | nil =>
      rw [List.infix_nil]
      simp [count]
  | cons character rest inductionHypothesis =>
      rw [List.infix_cons_iff, count]
      split_ifs with here
      · simp [here]
      · simp [here, inductionHypothesis]

theorem count_self {text : List Char} (nonempty : text ≠ []) : count text text = 1 := by
  cases text with
  | nil => exact absurd rfl nonempty
  | cons character rest =>
      have shorter : count (character :: rest) rest = 0 := by
        rw [count_eq_zero_iff]
        intro part
        have lengths := part.length_le
        rw [List.length_cons] at lengths
        omega
      rw [count, if_pos (List.prefix_refl _), shorter]

/-! ## Two parts -/

/-- No occurrence of a needle begins in one text and ends in another one behind it. -/
def NoneAcross (needle before after : List Char) : Prop :=
  ∀ start rest, needle = start ++ rest → start ≠ [] → start <:+ before → rest <+: after → rest = []

theorem NoneAcross.tail {needle before after : List Char} {character : Char}
    (apart : NoneAcross needle (character :: before) after) : NoneAcross needle before after :=
  fun start rest split nonempty ends leads =>
    apart start rest split nonempty (ends.trans (List.suffix_cons _ _)) leads

/-- The occurrences in a text of two parts are those in the parts, if none lies across. -/
theorem count_append {needle before after : List Char} (nonempty : needle ≠ [])
    (apart : NoneAcross needle before after) :
    count needle (before ++ after) = count needle before + count needle after := by
  induction before with
  | nil => simp [count, nonempty]
  | cons character rest inductionHypothesis =>
      have here : needle <+: character :: (rest ++ after) ↔ needle <+: character :: rest := by
        constructor
        · intro occurs
          rw [← List.cons_append] at occurs
          rcases prefix_append_cases occurs with within | ⟨part, split, leads⟩
          · exact within
          · have none := apart _ part split (List.cons_ne_nil _ _) List.suffix_rfl leads
            rw [split, none, List.append_nil]
        · exact fun within => within.trans (List.prefix_append (character :: rest) after)
      rw [List.cons_append, count, count, inductionHypothesis apart.tail]
      simp only [here]
      omega

/-! ## Statements -/

/-- A separator that neither front holds stands at the same place in both texts. -/
theorem append_cons_inj {separator : Char} {front back front' back' : List Char}
    (first : separator ∉ front) (first' : separator ∉ front')
    (same : front ++ separator :: back = front' ++ separator :: back') :
    front = front' ∧ back = back' := by
  rcases List.append_eq_append_iff.1 same with ⟨gap, rfl, split⟩ | ⟨gap, rfl, split⟩
  · cases gap with
    | nil => exact ⟨(List.append_nil _).symm, (List.cons.inj split).2⟩
    | cons character rest =>
        obtain ⟨rfl, -⟩ := List.cons.inj split
        simp at first'
  · cases gap with
    | nil => exact ⟨List.append_nil _, (List.cons.inj split).2.symm⟩
    | cons character rest =>
        obtain ⟨rfl, -⟩ := List.cons.inj split
        simp at first

/-- A text that ends in a semicolon and holds no other one. -/
def IsStatement (text : List Char) : Prop :=
  ∃ body, text = body ++ [';'] ∧ ';' ∉ body

namespace IsStatement

variable {statement needle front back : List Char}

theorem ne_nil (isStatement : IsStatement statement) : statement ≠ [] := by
  obtain ⟨body, rfl, -⟩ := isStatement
  simp

theorem of_suffix (isStatement : IsStatement statement) (nonempty : back ≠ [])
    (ends : back <:+ statement) : IsStatement back := by
  obtain ⟨body, rfl, single⟩ := isStatement
  rcases List.suffix_concat_iff.1 ends with empty | ⟨start, rfl, inner⟩
  · exact absurd empty nonempty
  · exact ⟨start, rfl, fun member => single (inner.subset member)⟩

theorem eq_of_prefix (isStatement : IsStatement statement) (isNeedle : IsStatement needle)
    (leads : needle <+: statement ++ back) : needle = statement := by
  obtain ⟨body, rfl, single⟩ := isStatement
  obtain ⟨body', rfl, single'⟩ := isNeedle
  obtain ⟨others, same⟩ := leads
  simp only [List.append_assoc, List.singleton_append] at same
  rw [(append_cons_inj single' single same).1]

/-- No occurrence of a statement lies across the start of another one that it does not end in. -/
theorem noneAcross (isStatement : IsStatement statement) (isNeedle : IsStatement needle)
    (whole : statement <:+ needle → statement = needle) (front back : List Char) :
    NoneAcross needle front (statement ++ back) := by
  intro start rest split nonempty _ leads
  by_contra more
  have ends : rest <:+ needle := ⟨start, split.symm⟩
  have same := isStatement.eq_of_prefix (isNeedle.of_suffix more ends) leads
  have all := whole (same ▸ ends)
  rw [same, ← all] at split
  exact nonempty (by simpa using split)

/-- A statement inside another one is the end of it. -/
theorem suffix_of_infix (isStatement : IsStatement statement) (isNeedle : IsStatement needle)
    (part : needle <:+: statement) : needle <:+ statement := by
  obtain ⟨body, rfl, single⟩ := isStatement
  obtain ⟨body', rfl, -⟩ := isNeedle
  obtain ⟨before, after, split⟩ := part
  rcases List.eq_nil_or_concat after with rfl | ⟨after', last, rfl⟩
  · exact ⟨before, by simpa using split⟩
  · rw [List.concat_eq_append, ← List.append_assoc] at split
    have inner := (List.append_inj' split rfl).1
    refine absurd ?_ single
    rw [← inner]
    simp

/-- A statement occurs in another one only as the whole of it, unless it is its end. -/
theorem count_eq (isStatement : IsStatement statement) (isNeedle : IsStatement needle)
    (whole : needle <:+ statement → needle = statement) :
    count needle statement = if needle = statement then 1 else 0 := by
  split_ifs with same
  · rw [same, count_self isStatement.ne_nil]
  · rw [count_eq_zero_iff]
    exact fun part => same (whole (isStatement.suffix_of_infix isNeedle part))

end IsStatement

/-! ## Insertions -/

/-- A statement and a blank line, put in front of another statement, add the occurrences that are the
new statement itself. -/
theorem count_insert {needle line anchor : List Char} (before after : List Char)
    (isNeedle : IsStatement needle) (isLine : IsStatement line) (isAnchor : IsStatement anchor)
    (oneLine : '\n' ∉ needle)
    (leads : anchor <+: after) (wholeAnchor : anchor <:+ needle → anchor = needle)
    (wholeLine : line <:+ needle → line = needle) (wholeNeedle : needle <:+ line → needle = line) :
    count needle (before ++ (line ++ ['\n', '\n']) ++ after) =
      count needle (before ++ after) + if needle = line then 1 else 0 := by
  obtain ⟨rest, rfl⟩ := leads
  have nonempty := isNeedle.ne_nil
  have inLine : NoneAcross needle line ['\n', '\n'] := by
    intro start part split _ _ leads
    cases part with
    | nil => rfl
    | cons character others =>
        obtain ⟨more, same⟩ := leads
        obtain ⟨rfl, -⟩ := List.cons.inj same
        exact absurd (by simp [split]) oneLine
  have inBlank : count needle ['\n', '\n'] = 0 := by
    rw [count_eq_zero_iff]
    intro part
    obtain ⟨body, rfl, -⟩ := isNeedle
    have member := part.subset (List.mem_append_right body List.mem_cons_self)
    simp at member
  have behindLine : NoneAcross needle (line ++ ['\n', '\n']) (anchor ++ rest) := by
    intro start part split more ends _
    -- What ends the snippet ends with a line end, which no needle holds.
    have last : start.getLast? = some '\n' := by
      obtain ⟨front, same⟩ := ends
      have lasts := congrArg List.getLast? same
      rw [List.getLast?_append_of_ne_nil _ more] at lasts
      simpa using lasts
    refine absurd ?_ oneLine
    rw [split]
    exact List.mem_append_left _ (List.mem_of_getLast? last)
  have ahead := isAnchor.noneAcross isNeedle wholeAnchor before rest
  have aheadLine := isLine.noneAcross isNeedle wholeLine before
    (['\n', '\n'] ++ (anchor ++ rest))
  rw [List.append_assoc, List.append_assoc, count_append nonempty aheadLine, ← List.append_assoc,
    count_append nonempty behindLine, count_append nonempty inLine, inBlank,
    isLine.count_eq isNeedle wholeNeedle, count_append nonempty ahead]
  omega

end ResourceScaffold.Text
