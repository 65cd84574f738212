import ResourceScaffold.Proofs.Text.Occurrence

/-!
Contract: where a text first occurs in another one, counted in bytes.

Owns:
- the places, counted in the bytes of UTF-8, at which the bytes of a needle stand;
- that a needle with a character stands between characters only, and at none of their inner bytes;
- the cut of a text in front of the first place, which is where the characters of the needle first
  occur.

Does not own: what is inserted at the cut.
-/

namespace ResourceScaffold.Text

variable {needle text before after before' after' : String} {position : Nat}

/-! ## Places -/

/-- The bytes of the needle stand in the text from a position on. The position counts bytes, and may
be inside a character of the text. -/
def StandsAt (needle text : String) (position : Nat) : Prop :=
  text.toByteArray.extract position (position + needle.utf8ByteSize) = needle.toByteArray

instance (needle text : String) (position : Nat) : Decidable (StandsAt needle text position) :=
  inferInstanceAs (Decidable (_ = _))

theorem standsAt_append (before needle after : String) :
    StandsAt needle (before ++ needle ++ after) before.utf8ByteSize := by
  have skipped := ByteArray.extract_append_size_add (a := before.toByteArray)
    (b := needle.toByteArray ++ after.toByteArray) (i := 0) (j := needle.toByteArray.size)
  rw [Nat.add_zero, ByteArray.extract_append_eq_left rfl] at skipped
  rw [StandsAt, String.append_assoc, String.toByteArray_append, String.toByteArray_append]
  exact skipped

/-- The places at the two ends of a stretch that is text itself are between characters. -/
theorem StandsAt.isValid (stands : StandsAt needle text position) (nonempty : needle ≠ "") :
    position + needle.utf8ByteSize ≤ text.utf8ByteSize ∧
      String.Pos.Raw.IsValid text ⟨position⟩ ∧
      String.Pos.Raw.IsValid text ⟨position + needle.utf8ByteSize⟩ := by
  have positive : 0 < needle.utf8ByteSize :=
    Nat.pos_of_ne_zero (mt String.utf8ByteSize_eq_zero_iff.1 nonempty)
  have sizes := congrArg ByteArray.size stands
  rw [ByteArray.size_extract, String.size_toByteArray, String.size_toByteArray] at sizes
  have inside : position + needle.utf8ByteSize ≤ text.utf8ByteSize := by omega
  refine ⟨inside, ?_⟩
  have ends := String.Pos.Raw.isValidUTF8_extract_iff (s := text) ⟨position⟩
    ⟨position + needle.utf8ByteSize⟩ (Nat.le_add_right _ _) inside
  rw [stands] at ends
  refine (ends.1 needle.isValidUTF8).resolve_left fun same => ?_
  have bytes : position = position + needle.utf8ByteSize := congrArg String.Pos.Raw.byteIdx same
  omega

theorem StandsAt.exists_parts (stands : StandsAt needle text position) (nonempty : needle ≠ "") :
    ∃ before after, text = before ++ needle ++ after ∧ before.utf8ByteSize = position := by
  obtain ⟨inside, valid, valid'⟩ := stands.isValid nonempty
  obtain ⟨before, rest, split, start⟩ := String.Pos.Raw.isValid_iff_exists_append.1 valid
  obtain ⟨front, after, split', stop⟩ := String.Pos.Raw.isValid_iff_exists_append.1 valid'
  have starts : position = before.toByteArray.size := congrArg String.Pos.Raw.byteIdx start
  have stops : position + needle.utf8ByteSize = front.toByteArray.size :=
    congrArg String.Pos.Raw.byteIdx stop
  have ahead : text.toByteArray.extract 0 position = before.toByteArray := by
    rw [split, String.toByteArray_append, ByteArray.extract_append_eq_left starts]
  have behind : text.toByteArray.extract (position + needle.utf8ByteSize) text.toByteArray.size =
      after.toByteArray := by
    rw [split', String.toByteArray_append]
    exact ByteArray.extract_append_eq_right stops ByteArray.size_append
  refine ⟨before, after, String.toByteArray_inj.1 ?_, starts.symm⟩
  calc text.toByteArray
      = text.toByteArray.extract 0 text.toByteArray.size := ByteArray.extract_zero_size.symm
    _ = text.toByteArray.extract 0 (position + needle.utf8ByteSize) ++
          text.toByteArray.extract (position + needle.utf8ByteSize) text.toByteArray.size :=
        ByteArray.extract_eq_extract_append_extract _ (Nat.zero_le _) inside
    _ = before.toByteArray ++ needle.toByteArray ++ after.toByteArray := by
        rw [behind, ByteArray.extract_eq_extract_append_extract position (Nat.zero_le _)
          (Nat.le_add_right _ _), ahead, stands]
    _ = (before ++ needle ++ after).toByteArray := by
        rw [String.toByteArray_append, String.toByteArray_append]

/-! ## Cuts -/

/-- A cut of a text in front of the first needle: the second part begins with the needle, and the
needle stands at no place before it, nor at one that it would overlap. -/
structure CutsAtFirst (needle text before after : String) : Prop where
  whole : text = before ++ after
  leads : ∃ rest, after = needle ++ rest
  least : ∀ position, StandsAt needle text position → before.utf8ByteSize ≤ position

theorem CutsAtFirst.standsAt (cuts : CutsAtFirst needle text before after) :
    StandsAt needle text before.utf8ByteSize := by
  obtain ⟨rest, leads⟩ := cuts.leads
  rw [cuts.whole, leads, ← String.append_assoc]
  exact standsAt_append before needle rest

theorem CutsAtFirst.unique (cuts : CutsAtFirst needle text before after)
    (cuts' : CutsAtFirst needle text before' after') : before' = before ∧ after' = after := by
  have sizes : before'.toByteArray.size = before.toByteArray.size :=
    Nat.le_antisymm (cuts'.least _ cuts.standsAt) (cuts.least _ cuts'.standsAt)
  have same : before' ++ after' = before ++ after := cuts'.whole.symm.trans cuts.whole
  have bytes : before'.toByteArray ++ after'.toByteArray = before.toByteArray ++ after.toByteArray := by
    rw [← String.toByteArray_append, ← String.toByteArray_append, same]
  obtain rfl : before' = before := String.toByteArray_inj.1 (ByteArray.append_inj_left bytes sizes)
  exact ⟨rfl, (String.append_right_inj _).1 same⟩

/-- Of two beginnings of a text, one that has no more characters has no more bytes. -/
theorem utf8ByteSize_le_of_length_le (same : before ++ after = before' ++ after')
    (shorter : before.toList.length ≤ before'.toList.length) :
    before.utf8ByteSize ≤ before'.utf8ByteSize := by
  have chars := congrArg String.toList same
  rw [String.toList_append, String.toList_append] at chars
  obtain ⟨gap, longer⟩ : before.toList <+: before'.toList :=
    List.prefix_of_prefix_length_le ⟨_, chars⟩ (List.prefix_append _ _) shorter
  have grown : before' = before ++ String.ofList gap := by
    rw [← String.toList_inj, String.toList_append, String.toList_ofList, longer]
  rw [grown, String.utf8ByteSize_append]
  exact Nat.le_add_right _ _

/-- The first occurrence, counted in characters, is the first place, counted in bytes. -/
theorem IsFirst.cutsAtFirst (first : IsFirst needle.toList before.toList after.toList)
    (nonempty : needle ≠ "") : CutsAtFirst needle (before ++ after) before after := by
  obtain ⟨rest, leads⟩ := first.1
  refine ⟨rfl, ⟨String.ofList rest, ?_⟩, fun position stands => ?_⟩
  · rw [← String.toList_inj, String.toList_append, String.toList_ofList, leads]
  · obtain ⟨earlier, behind, split, rfl⟩ := stands.exists_parts nonempty
    rw [String.append_assoc] at split
    have chars := congrArg String.toList split
    rw [String.toList_append, String.toList_append, String.toList_append] at chars
    exact utf8ByteSize_le_of_length_le split
      (first.2 _ _ chars.symm (List.prefix_append _ _))

end ResourceScaffold.Text
