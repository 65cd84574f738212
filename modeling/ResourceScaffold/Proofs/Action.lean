import ResourceScaffold.Session
import Mathlib.Tactic.Common

/-!
Contract: running actions one after the other.

Owns:
- what two actions in a row end with, when the first one succeeds and when it fails;
- whether an action succeeds, and with what, which is decidable;
- the steps that read a result, and the steps that change the files.

Does not own: any particular action of the program.
-/

namespace ResourceScaffold.Action

variable {Error First Second : Type} {action : Action Error First}
  {next : First → Action Error Second} {before after : Session}

theorem bind_of_ok {first : First} (ran : action before = .ok first after) :
    (action >>= next) before = next first after := by
  change EStateM.bind action next before = _
  rw [EStateM.bind, ran]

theorem bind_of_error {error : Error} (ran : action before = .error error after) :
    (action >>= next) before = .error error after := by
  change EStateM.bind action next before = _
  rw [EStateM.bind, ran]

theorem bind_eq_ok_iff {second : Second} :
    (action >>= next) before = .ok second after ↔
      ∃ first middle, action before = .ok first middle ∧ next first middle = .ok second after := by
  cases ran : action before with
  | ok first middle =>
      rw [bind_of_ok ran]
      constructor
      · exact fun ends => ⟨first, middle, rfl, ends⟩
      · rintro ⟨_, _, same, ends⟩
        cases same
        exact ends
  | error error middle =>
      rw [bind_of_error ran]
      constructor
      · nofun
      · rintro ⟨_, _, same, _⟩
        cases same

/-- Two actions in a row fail when the first does, or the second after it. -/
theorem bind_eq_error_iff {error : Error} :
    (action >>= next) before = .error error after ↔
      action before = .error error after ∨
        ∃ first middle, action before = .ok first middle ∧ next first middle = .error error after := by
  cases ran : action before with
  | ok first middle =>
      rw [bind_of_ok ran]
      constructor
      · exact fun ends => Or.inr ⟨first, middle, rfl, ends⟩
      · rintro (same | ⟨_, _, same, ends⟩)
        · cases same
        · cases same
          exact ends
  | error fault middle =>
      rw [bind_of_error ran]
      constructor
      · intro ends
        cases ends
        exact Or.inl rfl
      · rintro (same | ⟨_, _, same, _⟩)
        · cases same
          rfl
        · cases same

/-! ## Steps over a list -/

section Lists

variable {Item : Type} {step : Item → Action Error First} {item : Item} {rest : List Item}

theorem mapM_cons_eq_ok {results : List First}
    (ran : (item :: rest).mapM step before = .ok results after) :
    ∃ result middle results', step item before = .ok result middle ∧
      rest.mapM step middle = .ok results' after ∧ results = result :: results' := by
  rw [List.mapM_cons] at ran
  obtain ⟨result, middle, first, others⟩ := bind_eq_ok_iff.1 ran
  obtain ⟨results', last, second, ends⟩ := bind_eq_ok_iff.1 others
  cases ends
  exact ⟨result, middle, results', first, second, rfl⟩

theorem mapM_cons_eq_error {error : Error}
    (ran : (item :: rest).mapM step before = .error error after) :
    step item before = .error error after ∨
      ∃ result middle, step item before = .ok result middle ∧
        rest.mapM step middle = .error error after := by
  rw [List.mapM_cons] at ran
  rcases bind_eq_error_iff.1 ran with failed | ⟨result, middle, first, others⟩
  · exact Or.inl failed
  · rcases bind_eq_error_iff.1 others with failed | ⟨_, _, _, ends⟩
    · exact Or.inr ⟨result, middle, first, failed⟩
    · cases ends

end Lists

/-! ## Success -/

def succeeds (action : Action Error First) (before : Session) : Bool :=
  match action before with
  | .ok _ _ => true
  | .error _ _ => false

theorem succeeds_iff :
    action.succeeds before = true ↔ ∃ first after, action before = .ok first after := by
  rw [succeeds]
  cases action before with
  | ok first after => simp
  | error error after => simp

/-! ## Runs that are evaluated -/

section Evaluated

variable (run : EStateM.Result Error Session First)

/-- What a run succeeds with is seen by carrying it out. -/
instance decidableExistsOk (holds : First → Session → Prop)
    [∀ first after, Decidable (holds first after)] :
    Decidable (∃ first after, run = .ok first after ∧ holds first after) :=
  match run with
  | .ok first after => decidable_of_iff (holds first after)
      ⟨fun held => ⟨first, after, rfl, held⟩, by rintro ⟨_, _, ⟨⟩, held⟩; exact held⟩
  | .error _ _ => isFalse (by rintro ⟨_, _, ⟨⟩, _⟩)

instance decidableExistsOkWith [DecidableEq First] (first : First) :
    Decidable (∃ after, run = .ok first after) :=
  match run with
  | .ok found after => decidable_of_iff (found = first)
      ⟨fun same => ⟨after, by rw [same]⟩, by rintro ⟨_, ⟨⟩⟩; rfl⟩
  | .error _ _ => isFalse (by rintro ⟨_, ⟨⟩⟩)

end Evaluated

/-! ## Steps that change the files -/

theorem changing_eq_ok_iff {path : Path} {change : FileTree → Except Fault FileTree} :
    changing path change before = .ok () after ↔
      ∃ files, change before.files = .ok files ∧ after = { before with files } := by
  rw [changing]
  cases change before.files with
  | ok files =>
      constructor
      · intro ran
        cases ran
        exact ⟨files, rfl, rfl⟩
      · rintro ⟨_, same, rfl⟩
        cases same
        rfl
  | error fault =>
      constructor
      · nofun
      · rintro ⟨_, same, _⟩
        cases same

theorem changing_eq_error {path : Path} {change : FileTree → Except Fault FileTree}
    {failure : Failure} (ran : changing path change before = .error failure after) :
    after = before := by
  rw [changing] at ran
  split at ran
  · cases ran
  · cases ran
    rfl

/-! ## Steps that read -/

theorem reading_eq_ok_iff {Result : Type} {path : Path} {read : FileTree → Except Fault Result}
    {result : Result} :
    reading path read before = .ok result after ↔ read before.files = .ok result ∧ after = before := by
  rw [reading]
  cases read before.files with
  | ok found =>
      constructor
      · intro ran
        cases ran
        exact ⟨rfl, rfl⟩
      · rintro ⟨same, rfl⟩
        cases same
        rfl
  | error fault =>
      constructor
      · nofun
      · rintro ⟨same, -⟩
        cases same

theorem ofExcept_eq_ok_iff {result : Except Error First} {first : First} :
    (ofExcept result : Action Error First) before = .ok first after ↔
      result = .ok first ∧ after = before := by
  cases result with
  | ok found =>
      constructor
      · intro ran
        cases ran
        exact ⟨rfl, rfl⟩
      · rintro ⟨same, rfl⟩
        cases same
        rfl
  | error error =>
      constructor
      · nofun
      · rintro ⟨same, -⟩
        cases same

theorem mapError_eq_ok_iff {Other : Type} {words : Error → Other} {first : First} :
    action.mapError words before = .ok first after ↔ action before = .ok first after := by
  rw [mapError]
  cases action before <;> simp

/-! ## Steps without effects -/

@[simp] theorem pure_run (first : First) (session : Session) :
    (pure first : Action Error First) session = .ok first session := rfl

@[simp] theorem ofExcept_ok_run (first : First) (session : Session) :
    (ofExcept (.ok first) : Action Error First) session = .ok first session := rfl

end ResourceScaffold.Action
