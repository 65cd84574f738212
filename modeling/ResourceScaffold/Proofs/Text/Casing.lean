import ResourceScaffold.Text.Case

/-!
Contract: what the case maps do to single characters.

Owns:
- the ways in which a character gets an image;
- sets of characters that a case map neither leaves nor enters, such as separators and dots;
- that a character in lower case stays as it is in lower case.

Does not own: the case of whole texts, and which characters a name can have.
-/

namespace ResourceScaffold.Text

/-! ## Runs -/

namespace CaseRun

def lastImage (run : CaseRun) : Nat :=
  run.image + (run.last - run.first)

/-- From the first image of a run to the last one, every code point is a character. -/
def YieldsCharacters (run : CaseRun) : Prop :=
  run.lastImage < 0xd800 ∨ 0xdfff < run.image ∧ run.lastImage < 0x110000

instance (run : CaseRun) : Decidable run.YieldsCharacters :=
  inferInstanceAs (Decidable (_ ∨ _))

/-- No character of a range is moved by a run, or is the image of one that is. -/
def Misses (run : CaseRun) (range : Nat × Nat) : Prop :=
  (run.last < range.1 ∨ range.2 < run.first) ∧ (run.lastImage < range.1 ∨ range.2 < run.image)

instance (run : CaseRun) (range : Nat × Nat) : Decidable (run.Misses range) :=
  inferInstanceAs (Decidable (_ ∧ _))

/-- Whether the code points that a run covers are all even, or all odd. -/
def goesByTwo (run : CaseRun) : Bool :=
  run.step == 2 || run.first == run.last

/-- Whether no image of a run is moved by another run: they lie apart, or take turns. A map has many
pairs of runs, so this is a Boolean test on numerals that the kernel compares quickly. -/
def skips (run other : CaseRun) : Bool :=
  Nat.blt run.lastImage other.first || Nat.blt other.last run.image ||
    run.goesByTwo && other.goesByTwo && (run.image + other.first) % 2 == 1

variable {run other : CaseRun} {code : Nat}

theorem covers_iff :
    run.covers code = true ↔
      run.first ≤ code ∧ code ≤ run.last ∧ (code - run.first) % run.step = 0 := by
  simp [covers, and_assoc]

theorem image_le_apply (run : CaseRun) (code : Nat) : run.image ≤ run.apply code :=
  Nat.le_add_right _ _

theorem apply_le_lastImage (covered : run.covers code = true) : run.apply code ≤ run.lastImage :=
  Nat.add_le_add_left (Nat.sub_le_sub_right (covers_iff.1 covered).2.1 _) _

theorem toNat_ofNat_apply (yields : run.YieldsCharacters) (covered : run.covers code = true) :
    (Char.ofNat (run.apply code)).toNat = run.apply code := by
  have least := image_le_apply run code
  have greatest := apply_le_lastImage covered
  have valid : (run.apply code).isValidChar := by
    unfold YieldsCharacters at yields
    unfold Nat.isValidChar
    omega
  rw [Char.ofNat, dif_pos valid]
  rfl

theorem even_sub_first (turns : run.goesByTwo = true) (covered : run.covers code = true) :
    (code - run.first) % 2 = 0 := by
  obtain ⟨begun, ending, met⟩ := covers_iff.1 covered
  simp only [goesByTwo, Bool.or_eq_true, beq_iff_eq] at turns
  rcases turns with two | single
  · rwa [two] at met
  · omega

theorem not_covers_apply (skips : run.skips other = true) (covered : run.covers code = true) :
    other.covers (run.apply code) = false := by
  have least := image_le_apply run code
  have greatest := apply_le_lastImage covered
  simp only [CaseRun.skips, Bool.or_eq_true, Bool.and_eq_true, Nat.blt_eq, beq_iff_eq] at skips
  rw [← Bool.not_eq_true]
  intro covered'
  obtain ⟨begun, ending, -⟩ := covers_iff.1 covered'
  rcases skips with (ahead | behind) | ⟨⟨turns, turns'⟩, odd⟩
  · omega
  · omega
  · -- An image is as far from the first image as its origin from the first code point.
    have even := even_sub_first turns covered
    have even' := even_sub_first turns' covered'
    unfold apply at begun even'
    omega

end CaseRun

/-! ## Maps -/

namespace CaseMap

variable {map : CaseMap} {character image : Char}

/-- An image comes from an expansion or from a run, or it is the character itself, which then has no
other one. -/
theorem mem_apply_cases (member : image ∈ map.apply character) :
    (∃ expansion ∈ map.expansions, expansion.1 = character.toNat ∧
      ∃ code ∈ expansion.2, Char.ofNat code = image) ∨
    (∃ run ∈ map.runs, run.covers character.toNat = true ∧
      Char.ofNat (run.apply character.toNat) = image) ∨
    (map.apply character = [character] ∧ character = image) := by
  unfold apply at member ⊢
  split at member
  · rename_i expansion found
    left
    obtain ⟨code, isCode, same⟩ := List.mem_map.1 member
    exact ⟨expansion, List.mem_of_find?_eq_some found, by simpa using List.find?_some found,
      code, isCode, same⟩
  · split at member
    · rename_i run found
      right; left
      have covered := List.find?_some found
      exact ⟨run, List.mem_of_find?_eq_some found, covered, (List.mem_singleton.1 member).symm⟩
    · right; right
      exact ⟨rfl, (List.mem_singleton.1 member).symm⟩

theorem apply_eq_self (unnamed : ∀ expansion ∈ map.expansions, expansion.1 ≠ character.toNat)
    (uncovered : ∀ run ∈ map.runs, run.covers character.toNat = false) :
    map.apply character = [character] := by
  have noExpansion : map.expansions.find? (fun expansion => expansion.1 == character.toNat) = none :=
    List.find?_eq_none.2 fun expansion member => by simpa using unnamed expansion member
  have noRun : map.runs.find? (fun run => run.covers character.toNat) = none :=
    List.find?_eq_none.2 fun run member => by simpa using uncovered run member
  rw [apply, noExpansion]
  simp only [noRun]

theorem apply_ne_nil (longer : ∀ expansion ∈ map.expansions, expansion.2 ≠ [])
    (character : Char) : map.apply character ≠ [] := by
  unfold apply
  split
  · rename_i expansion found
    simpa using longer expansion (List.mem_of_find?_eq_some found)
  · split <;> simp

/-! ## Sets that stay apart -/

/-- A map neither moves the characters of a set nor maps others into it. -/
def KeepsApart (map : CaseMap) (set : CharSet) : Prop :=
  (∀ expansion ∈ map.expansions, ∀ code ∈ expansion.1 :: expansion.2,
    set.contains (Char.ofNat code) = false) ∧
  ∀ run ∈ map.runs, run.YieldsCharacters ∧ ∀ range ∈ set.ranges, run.Misses range

instance (map : CaseMap) (set : CharSet) : Decidable (map.KeepsApart set) :=
  inferInstanceAs (Decidable (_ ∧ _))

variable {set : CharSet}

theorem KeepsApart.apply_of_contains (apart : map.KeepsApart set)
    (inside : set.contains character = true) : map.apply character = [character] := by
  apply apply_eq_self
  · intro expansion member same
    have outside := apart.1 expansion member _ List.mem_cons_self
    rw [same, Char.ofNat_toNat, inside] at outside
    cases outside
  · intro run member
    obtain ⟨range, isRange, least, greatest⟩ := (CharSet.contains_iff _ _).1 inside
    have misses := ((apart.2 run member).2 range isRange).1
    rw [← Bool.not_eq_true, CaseRun.covers_iff]
    omega

theorem KeepsApart.contains_of_mem_apply (apart : map.KeepsApart set)
    (member : image ∈ map.apply character) : set.contains image = set.contains character := by
  cases inside : set.contains character with
  | true =>
      rw [apart.apply_of_contains inside, List.mem_singleton] at member
      rw [member, inside]
  | false =>
      rcases mem_apply_cases member with
        ⟨expansion, isExpansion, -, code, isCode, rfl⟩ | ⟨run, isRun, covered, rfl⟩ | ⟨-, rfl⟩
      · exact apart.1 expansion isExpansion code (List.mem_cons_of_mem _ isCode)
      · obtain ⟨yields, misses⟩ := apart.2 run isRun
        rw [← Bool.not_eq_true, CharSet.contains_iff, CaseRun.toNat_ofNat_apply yields covered]
        rintro ⟨range, isRange, begun, ending⟩
        have outside := (misses range isRange).2
        have least := CaseRun.image_le_apply run character.toNat
        have greatest := CaseRun.apply_le_lastImage covered
        omega
      · exact inside

/-! ## Images that stay -/

/-- A map does not move the images that it gives. -/
def Settles (map : CaseMap) : Prop :=
  (∀ expansion ∈ map.expansions, ∀ code ∈ expansion.2,
    map.apply (Char.ofNat code) = [Char.ofNat code]) ∧
  ∀ run ∈ map.runs, run.YieldsCharacters ∧
    (∀ expansion ∈ map.expansions, expansion.1 < run.image ∨ run.lastImage < expansion.1) ∧
    map.runs.all run.skips = true

instance (map : CaseMap) : Decidable map.Settles :=
  inferInstanceAs (Decidable (_ ∧ _))

theorem Settles.apply_of_mem_apply (settles : map.Settles)
    (member : image ∈ map.apply character) : map.apply image = [image] := by
  rcases mem_apply_cases member with
    ⟨expansion, isExpansion, -, code, isCode, rfl⟩ | ⟨run, isRun, covered, rfl⟩ | ⟨same, rfl⟩
  · exact settles.1 expansion isExpansion code isCode
  · obtain ⟨yields, unnamed, skips⟩ := settles.2 run isRun
    have toNat := CaseRun.toNat_ofNat_apply yields covered
    apply apply_eq_self
    · intro expansion isExpansion same
      have outside := unnamed expansion isExpansion
      have least := CaseRun.image_le_apply run character.toNat
      have greatest := CaseRun.apply_le_lastImage covered
      omega
    · intro other isOther
      rw [toNat]
      exact CaseRun.not_covers_apply (List.all_eq_true.1 skips other isOther) covered
  · exact same

end CaseMap

/-! ## Upper case -/

theorem upper_ne_nil (character : Char) : upper character ≠ [] :=
  CaseMap.apply_ne_nil (by decide +kernel) character

/-- Nothing but a separator is a separator in upper case, and nothing but a dot is a dot. -/
theorem notMem_upper {mark character : Char} (isMark : mark = '/' ∨ mark = '.')
    (different : character ≠ mark) : mark ∉ upper character := by
  have apart : upperCaseMap.KeepsApart ⟨[('.'.toNat, '/'.toNat)]⟩ := by decide +kernel
  have marked : CharSet.contains ⟨[('.'.toNat, '/'.toNat)]⟩ mark = true := by
    rcases isMark with rfl | rfl <;> decide
  intro member
  rw [apart.contains_of_mem_apply member] at marked
  rw [upper, apart.apply_of_contains marked, List.mem_singleton] at member
  exact different member.symm

/-! ## Lower case -/

theorem lower_ne_nil (character : Char) : lower character ≠ [] :=
  CaseMap.apply_ne_nil (by decide +kernel) character

theorem lower_of_mem_lower {character image : Char} (member : image ∈ lower character) :
    lower image = [image] := by
  have settles : lowerCaseMap.Settles := by decide +kernel
  exact settles.apply_of_mem_apply member

end ResourceScaffold.Text
