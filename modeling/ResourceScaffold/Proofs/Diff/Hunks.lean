import ResourceScaffold.Proofs.Diff.Patch
import ResourceScaffold.Proofs.Diff.Regions

/-!
Contract: the hunks that are cut from the regions of a script.

Owns:
- hunks and the kept lines between them make up the texts of the regions;
- hunks of regions with right line numbers begin where these say;
- hunks show no more kept lines at their start and at their end than the context has.

Does not own: how a hunk is printed.
-/

namespace ResourceScaffold.Diff

/-! ## Kept lines that are left out -/

theorem numbered_cut_iff {oldFront newFront oldIndex newIndex : Nat} {first second : List Line}
    {rest : List Region} :
    Numbered oldFront newFront (.kept (first ++ second) oldIndex newIndex :: rest) ↔
      Numbered oldFront newFront (.kept first oldIndex newIndex ::
        .kept second (oldIndex + first.length) (newIndex + first.length) :: rest) := by
  simp only [Numbered, Region.oldStart, Region.newStart, Region.oldLines, Region.newLines,
    List.length_append, Nat.add_assoc]
  constructor
  · rintro ⟨⟨rfl, rfl⟩, numbered⟩
    exact ⟨⟨rfl, rfl⟩, ⟨rfl, rfl⟩, numbered⟩
  · rintro ⟨starts, -, numbered⟩
    exact ⟨starts, numbered⟩

/-- A kept run at the start is cut down by lines that both texts begin with. -/
theorem trimFirst_skips (context : Nat) (regions : List Region) :
    ∃ run, oldText regions = run ++ oldText (trimFirst context regions) ∧
      newText regions = run ++ newText (trimFirst context regions) ∧
      ∀ old new, Numbered old new regions →
        Numbered (old + run.length) (new + run.length) (trimFirst context regions) := by
  unfold trimFirst
  split
  · rename_i lines oldIndex newIndex rest
    have size : (lines.take (lines.length - context)).length = lines.length - context := by simp
    refine ⟨lines.take (lines.length - context), ?_, ?_, fun old new numbered => ?_⟩
    · simp [Region.oldLines, ← List.append_assoc]
    · simp [Region.newLines, ← List.append_assoc]
    · rw [← List.take_append_drop (lines.length - context) lines, numbered_cut_iff, size] at numbered
      rw [size]
      simpa [Numbered, Region.oldLines, Region.newLines] using numbered.2
  · exact ⟨[], rfl, rfl, fun old new numbered => numbered⟩

/-- A kept run at the end is cut down by lines that both texts end with. -/
theorem trimLast_skips (context : Nat) (regions : List Region) :
    ∃ run, oldText regions = oldText (trimLast context regions) ++ run ∧
      newText regions = newText (trimLast context regions) ++ run ∧
      ∀ old new, Numbered old new regions → Numbered old new (trimLast context regions) := by
  fun_induction trimLast context regions with
  | case1 lines oldIndex newIndex =>
      refine ⟨lines.drop context, ?_, ?_, fun old new numbered => ⟨numbered.1, trivial⟩⟩
      · simp [Region.oldLines]
      · simp [Region.newLines]
  | case2 region rest _ inductionHypothesis =>
      obtain ⟨run, old, new, numbered⟩ := inductionHypothesis
      refine ⟨run, by simp [old], by simp [new], fun _ _ counted => ?_⟩
      exact ⟨counted.1, numbered _ _ counted.2⟩
  | case3 => exact ⟨[], rfl, rfl, fun _ _ numbered => numbered⟩

/-! ## Hunks in place -/

/-- Hunks and the kept lines between them make up an old and a new text. If a condition holds, the
hunks are numbered by the lines in front of them, given how many lie in front of both texts. -/
inductive HunksTile (condition : Prop) : Nat → Nat → List Hunk → List Line → List Line → Prop
  | rest {oldFront newFront : Nat} (lines : List Line) :
      HunksTile condition oldFront newFront [] lines lines
  | hunk {oldFront newFront : Nat} (kept : List Line) {hunk : Hunk} {hunks : List Hunk}
      {old new : List Line}
      (numbered : condition → Numbered (oldFront + kept.length) (newFront + kept.length) hunk)
      (others : HunksTile condition (oldFront + kept.length + (oldText hunk).length)
        (newFront + kept.length + (newText hunk).length) hunks old new) :
      HunksTile condition oldFront newFront (hunk :: hunks) (kept ++ oldText hunk ++ old)
        (kept ++ newText hunk ++ new)

namespace HunksTile

variable {condition : Prop} {oldFront newFront : Nat} {hunks : List Hunk} {old new : List Line}

theorem eq_of_nil (tile : HunksTile condition oldFront newFront [] old new) : old = new := by
  cases tile
  rfl

theorem start {hunk : Hunk} (numbered : condition → Numbered oldFront newFront hunk)
    (others : HunksTile condition (oldFront + (oldText hunk).length)
      (newFront + (newText hunk).length) hunks old new) :
    HunksTile condition oldFront newFront (hunk :: hunks) (oldText hunk ++ old)
      (newText hunk ++ new) :=
  .hunk [] numbered others

theorem keepFirst (run : List Line)
    (tile : HunksTile condition (oldFront + run.length) (newFront + run.length) hunks old new) :
    HunksTile condition oldFront newFront hunks (run ++ old) (run ++ new) := by
  cases tile with
  | rest lines => exact .rest _
  | hunk kept numbered others =>
      rw [← List.append_assoc, ← List.append_assoc, ← List.append_assoc, ← List.append_assoc]
      refine .hunk (run ++ kept) (fun holds => ?_) ?_
      · simpa [Nat.add_assoc] using numbered holds
      · simpa [Nat.add_assoc] using others

theorem keepLast (run : List Line) (tile : HunksTile condition oldFront newFront hunks old new) :
    HunksTile condition oldFront newFront hunks (old ++ run) (new ++ run) := by
  induction tile with
  | rest lines => exact .rest _
  | hunk kept numbered others inductionHypothesis =>
      rw [List.append_assoc _ _ run, List.append_assoc _ _ run]
      exact .hunk kept numbered inductionHypothesis

/-- A kept run is cut in three: the last lines of a hunk, lines that are left out, and lines that the
further hunks begin with. -/
theorem cut {begun rest : List Region} {lines first middle last : List Line}
    {oldIndex newIndex : Nat} (whole : first ++ middle ++ last = lines)
    (numbered : condition →
      Numbered oldFront newFront (begun ++ .kept lines oldIndex newIndex :: rest))
    (others : ∀ {oldFront newFront : Nat},
      (condition → Numbered oldFront newFront (.kept last (oldIndex + (first ++ middle).length)
        (newIndex + (first ++ middle).length) :: rest)) →
      HunksTile condition oldFront newFront hunks (last ++ oldText rest) (last ++ newText rest)) :
    HunksTile condition oldFront newFront ((begun ++ [.kept first oldIndex newIndex]) :: hunks)
      (oldText (begun ++ .kept lines oldIndex newIndex :: rest))
      (newText (begun ++ .kept lines oldIndex newIndex :: rest)) := by
  subst whole
  have parts (holds : condition) := numbered_append_iff.1 (numbered holds)
  have old : oldText (begun ++ .kept (first ++ middle ++ last) oldIndex newIndex :: rest) =
      oldText (begun ++ [.kept first oldIndex newIndex]) ++ (middle ++ (last ++ oldText rest)) := by
    simp [Region.oldLines]
  have new : newText (begun ++ .kept (first ++ middle ++ last) oldIndex newIndex :: rest) =
      newText (begun ++ [.kept first oldIndex newIndex]) ++ (middle ++ (last ++ newText rest)) := by
    simp [Region.newLines]
  rw [old, new]
  refine .start (fun holds => ?_) (keepFirst middle (others fun holds => ?_))
  · exact numbered_append_iff.2 ⟨(parts holds).1, (parts holds).2.1, trivial⟩
  · have tail := (numbered_cut_iff.1 (parts holds).2).2
    simpa [Numbered, Region.oldLines, Region.newLines, Nat.add_assoc] using tail

end HunksTile

theorem cutHunks_tile {condition : Prop} (context : Nat) (begun rest : List Region)
    {oldFront newFront : Nat}
    (numbered : condition → Numbered oldFront newFront (begun.reverse ++ rest)) :
    HunksTile condition oldFront newFront (cutHunks context begun rest)
      (oldText (begun.reverse ++ rest)) (newText (begun.reverse ++ rest)) := by
  fun_induction cutHunks context begun rest generalizing oldFront newFront with
  | case1 => exact .rest []
  | case2 lines oldIndex newIndex => exact .rest _
  | case3 begun _ _ =>
      rw [List.append_nil] at numbered ⊢
      simpa using HunksTile.start numbered (.rest [])
  | case4 begun lines oldIndex newIndex rest long skipped =>
      rename_i inductionHypothesis
      -- Between the hunks lie the lines after the context of one and in front of that of the other.
      obtain ⟨middle, cut⟩ : lines.take context <+: lines.take skipped :=
        List.take_prefix_take_left (by omega)
      have whole : lines.take context ++ middle ++ lines.drop skipped = lines := by
        rw [cut, List.take_append_drop]
      have size : (lines.take context ++ middle).length = skipped := by
        rw [cut]
        simp [skipped]
      rw [List.reverse_cons]
      refine .cut whole numbered fun numbered => ?_
      rw [size] at numbered
      exact inductionHypothesis numbered
  | case5 begun lines oldIndex newIndex rest short inductionHypothesis =>
      rw [List.reverse_cons, List.append_assoc] at inductionHypothesis
      exact inductionHypothesis numbered
  | case6 begun change rest _ inductionHypothesis =>
      rw [List.reverse_cons, List.append_assoc] at inductionHypothesis
      exact inductionHypothesis numbered

/-- The hunks of regions make up their texts, and are numbered if the regions are. -/
theorem hunksOf_tile {condition : Prop} (context : Nat) {regions : List Region}
    {oldFront newFront : Nat} (numbered : condition → Numbered oldFront newFront regions) :
    HunksTile condition oldFront newFront (hunksOf context regions) (oldText regions)
      (newText regions) := by
  obtain ⟨first, oldFirst, newFirst, numberedFirst⟩ := trimFirst_skips context regions
  obtain ⟨last, oldLast, newLast, numberedLast⟩ :=
    trimLast_skips context (trimFirst context regions)
  rw [oldFirst, newFirst, oldLast, newLast]
  refine .keepFirst first (.keepLast last (cutHunks_tile context [] _ fun holds => ?_))
  exact numberedLast _ _ (numberedFirst _ _ (numbered holds))

/-! ## Context -/

/-- Whether a region has no more kept lines than the context. -/
def Region.Fits (context : Nat) (region : Region) : Prop :=
  region.isKept = true → region.oldLines.length ≤ context

/-- Regions in good order that begin and end with no more kept lines than the context has. -/
structure Framed (context : Nat) (regions : List Region) : Prop extends Regular regions where
  start : ∀ region ∈ regions.head?, region.Fits context
  stop : ∀ region ∈ regions.getLast?, region.Fits context

/-- The order of regions depends on which are kept, and on those that are not. -/
theorem Regular.of_map {regions others : List Region} (regular : Regular regions)
    (same : others.map Region.isKept = regions.map Region.isKept)
    (changes : ∀ region ∈ others, region.isKept = false → region ∈ regions) : Regular others where
  changes region member changed := regular.changes region (changes region member changed) changed
  apart := by
    have general (list : List Region) :
        (list.IsChain fun first second => ¬(first.isKept = true ∧ second.isKept = true)) ↔
          (list.map Region.isKept).IsChain fun first second => ¬(first = true ∧ second = true) :=
      (List.isChain_map (R := fun first second => ¬(first = true ∧ second = true)) _).symm
    rw [general, same, ← general]
    exact regular.apart

/-- Cutting down a kept run at the start leaves regions in good order, with a short run there. -/
theorem trimFirst_regular {context : Nat} {regions : List Region} (regular : Regular regions) :
    Regular (trimFirst context regions) ∧
      ∀ region ∈ (trimFirst context regions).head?, region.Fits context := by
  unfold trimFirst
  split
  · rename_i lines oldIndex newIndex rest
    refine ⟨regular.replace rfl nofun, ?_⟩
    rintro region ⟨⟩ -
    simp only [Region.oldLines, List.length_drop]
    omega
  · rename_i notKept
    refine ⟨regular, ?_⟩
    rintro (_ | _) first isKept
    · obtain ⟨rest, rfl⟩ := List.head?_eq_some_iff.1 first
      exact absurd rfl (notKept _ _ _ _)
    · cases isKept

theorem Region.fits_take (context : Nat) (lines : List Line) (oldIndex newIndex : Nat) :
    (Region.kept (lines.take context) oldIndex newIndex).Fits context := by
  intro _
  rw [Region.oldLines, List.length_take]
  exact Nat.min_le_left _ _

theorem map_isKept_trimLast (context : Nat) (regions : List Region) :
    (trimLast context regions).map Region.isKept = regions.map Region.isKept := by
  fun_induction trimLast context regions with
  | case1 => rfl
  | case2 region rest _ inductionHypothesis => rw [List.map_cons, List.map_cons, inductionHypothesis]
  | case3 => rfl

theorem mem_of_mem_trimLast {context : Nat} {regions : List Region} {region : Region}
    (member : region ∈ trimLast context regions) (changed : region.isKept = false) :
    region ∈ regions := by
  fun_induction trimLast context regions with
  | case1 =>
      obtain rfl := List.mem_singleton.1 member
      cases changed
  | case2 first rest _ inductionHypothesis =>
      rw [List.mem_cons] at member ⊢
      exact member.imp_right inductionHypothesis
  | case3 => cases member

theorem fits_head?_trimLast {context : Nat} {regions : List Region}
    (start : ∀ region ∈ regions.head?, region.Fits context) :
    ∀ region ∈ (trimLast context regions).head?, region.Fits context := by
  unfold trimLast
  split
  · simpa using Region.fits_take context _ _ _
  · exact start
  · nofun

theorem fits_getLast?_trimLast (context : Nat) (regions : List Region) :
    ∀ region ∈ (trimLast context regions).getLast?, region.Fits context := by
  fun_induction trimLast context regions with
  | case1 => simpa using Region.fits_take context _ _ _
  | case2 region rest notLast inductionHypothesis =>
      cases trimmed : trimLast context rest with
      | cons next others =>
          rw [List.getLast?_cons_cons, ← trimmed]
          exact inductionHypothesis
      | nil =>
          obtain rfl : rest = [] := by
            simpa [trimmed] using (map_isKept_trimLast context rest).symm
          rintro _ ⟨⟩ isKept
          cases region with
          | kept lines oldIndex newIndex => exact absurd rfl (notLast lines oldIndex newIndex rfl)
          | changed => cases isKept
  | case3 => nofun

/-- Cutting down a kept run at the end as well frames regions by short runs. -/
theorem trimLast_framed {context : Nat} {regions : List Region} (regular : Regular regions)
    (start : ∀ region ∈ regions.head?, region.Fits context) :
    Framed context (trimLast context regions) where
  toRegular := regular.of_map (map_isKept_trimLast context regions) fun _ => mem_of_mem_trimLast
  start := fits_head?_trimLast start
  stop := fits_getLast?_trimLast context regions

/-- The regions up to a kept one, of which only the first lines are left, are framed. -/
theorem Framed.upTo {context : Nat} {begun rest : List Region} {lines : List Line}
    {oldIndex newIndex : Nat}
    (framed : Framed context (begun ++ .kept lines oldIndex newIndex :: rest)) :
    Framed context (begun ++ [.kept (lines.take context) oldIndex newIndex]) where
  toRegular := by
    have regular : Regular (begun ++ [.kept lines oldIndex newIndex]) :=
      framed.toRegular.infix (List.IsPrefix.isInfix ⟨rest, by simp⟩)
    refine regular.of_map (by simp [Region.isKept]) fun region member changed => ?_
    obtain inside | last := List.mem_append.1 member
    · exact List.mem_append_left _ inside
    · obtain rfl := List.mem_singleton.1 last
      cases changed
  start := by
    cases begun with
    | nil => simpa using Region.fits_take context lines oldIndex newIndex
    | cons first others => exact framed.start
  stop := by simpa using Region.fits_take context lines oldIndex newIndex

/-- The regions from a kept one on, of which no more lines than the context are left, are framed. -/
theorem Framed.from {context : Nat} {begun rest : List Region} {lines others : List Line}
    {oldIndex newIndex oldIndex' newIndex' : Nat}
    (framed : Framed context (begun ++ .kept lines oldIndex newIndex :: rest))
    (short : others.length ≤ context) :
    Framed context (.kept others oldIndex' newIndex' :: rest) where
  toRegular := by
    have regular : Regular (.kept lines oldIndex newIndex :: rest) :=
      framed.toRegular.infix (List.suffix_append begun _).isInfix
    exact regular.replace rfl nofun
  start := by
    rintro region ⟨⟩ -
    exact short
  stop := by
    cases rest with
    | nil =>
        rintro region ⟨⟩ -
        exact short
    | cons next more =>
        have stop := framed.stop
        rw [List.getLast?_append_of_ne_nil _ (List.cons_ne_nil _ _)] at stop
        exact stop

theorem cutHunks_framed {context : Nat} {begun rest : List Region}
    (framed : Framed context (begun.reverse ++ rest)) :
    ∀ hunk ∈ cutHunks context begun rest, hunk ≠ [] ∧ Framed context hunk := by
  fun_induction cutHunks context begun rest with
  | case1 => nofun
  | case2 lines oldIndex newIndex => nofun
  | case3 begun notNil _ =>
      rw [List.append_nil] at framed
      rw [List.forall_mem_singleton]
      exact ⟨by simpa using notNil, framed⟩
  | case4 begun lines oldIndex newIndex rest long skipped =>
      rename_i inductionHypothesis
      rw [List.reverse_cons]
      have short : (lines.drop skipped).length ≤ context := by
        rw [List.length_drop]
        omega
      exact List.forall_mem_cons.2
        ⟨⟨by simp, framed.upTo⟩, inductionHypothesis (framed.from short)⟩
  | case5 begun lines oldIndex newIndex rest short inductionHypothesis =>
      rw [List.reverse_cons, List.append_assoc] at inductionHypothesis
      exact inductionHypothesis framed
  | case6 begun change rest _ inductionHypothesis =>
      rw [List.reverse_cons, List.append_assoc] at inductionHypothesis
      exact inductionHypothesis framed

theorem hunksOf_framed {context : Nat} {regions : List Region} (regular : Regular regions) :
    ∀ hunk ∈ hunksOf context regions, hunk ≠ [] ∧ Framed context hunk := by
  obtain ⟨trimmed, start⟩ := trimFirst_regular regular
  exact cutHunks_framed (trimLast_framed trimmed start)

end ResourceScaffold.Diff
