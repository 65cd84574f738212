import Mathlib.Data.List.DropRight
import ResourceScaffold.Text.Blank

/-!
Contract: texts without the characters of a class at their ends.

Owns:
- that trimming only leaves characters out, and which texts it leaves as they are;
- that a trimmed text neither begins nor ends with a character of the class;
- which texts are trimmed away.

Does not own: which characters make up the class.
-/

namespace ResourceScaffold.Text

variable {dropped : Char → Bool} {text : List Char} {character : Char}

theorem trimOf_eq_rdropWhile : trimOf dropped text = (text.dropWhile dropped).rdropWhile dropped := rfl

theorem trimOf_subset (dropped : Char → Bool) (word : List Char) :
    trimOf dropped word ⊆ word := by
  intro character member
  have kept := (List.rdropWhile_prefix dropped _).subset member
  exact (List.dropWhile_sublist _).subset kept

/-- A text that has nothing to trim at its two ends is trimmed to itself. -/
theorem trimOf_eq_self (starts : ∀ character ∈ text.head?, dropped character = false)
    (ends : ∀ character ∈ text.getLast?, dropped character = false) : trimOf dropped text = text := by
  have start : text.dropWhile dropped = text := by
    cases text with
    | nil => rfl
    | cons first rest => rw [List.dropWhile_cons_of_neg (by simp [starts first rfl])]
  have finish : text.reverse.dropWhile dropped = text.reverse := by
    cases back : text.reverse with
    | nil => rfl
    | cons last front =>
        have isLast : text.getLast? = some last := by
          rw [← List.head?_reverse, back, List.head?_cons]
        rw [List.dropWhile_cons_of_neg (by simp [ends last isLast])]
  rw [trimOf, trimEndOf, trimStartOf, start, finish, List.reverse_reverse]

theorem not_dropped_of_head?_dropWhile (starts : character ∈ (text.dropWhile dropped).head?) :
    dropped character = false := by
  have kept := List.head?_dropWhile_not dropped text
  rw [Option.mem_def.1 starts] at kept
  exact kept

theorem not_dropped_of_head?_trimOf (starts : character ∈ (trimOf dropped text).head?) :
    dropped character = false := by
  obtain ⟨rest, split⟩ := List.rdropWhile_prefix dropped (text.dropWhile dropped)
  have starts' : character ∈ (text.dropWhile dropped).head? := by
    rw [← split, List.head?_append, ← trimOf_eq_rdropWhile, Option.mem_def.1 starts]
    rfl
  exact not_dropped_of_head?_dropWhile starts'

theorem not_dropped_of_getLast?_trimOf (ends : character ∈ (trimOf dropped text).getLast?) :
    dropped character = false := by
  rw [trimOf, trimEndOf, List.getLast?_reverse] at ends
  exact not_dropped_of_head?_dropWhile ends

theorem trimOf_eq_nil_iff :
    trimOf dropped text = [] ↔ ∀ character ∈ text, dropped character = true := by
  rw [trimOf_eq_rdropWhile, List.rdropWhile_eq_nil_iff]
  constructor
  · intro rest character member
    rw [← List.takeWhile_append_dropWhile (p := dropped) (l := text)] at member
    rcases List.mem_append.1 member with ahead | behind
    · exact List.mem_takeWhile_imp ahead
    · exact rest character behind
  · intro all character member
    exact all character ((List.dropWhile_sublist _).subset member)

end ResourceScaffold.Text
