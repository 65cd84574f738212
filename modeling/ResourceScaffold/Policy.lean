import ResourceScaffold.CommandLine.Options

/-!
Contract: the policy that a run carries its plan out with.

Owns:
- when the user is asked, and what the answer means.

Does not own: how the user is asked.
-/

namespace ResourceScaffold

/-- The policy for a choice. The user is asked only if the choice says so and a file would be
replaced; without consent there is no policy, and nothing is to be written. -/
def resolvePolicy {m : Type → Type} [Monad m] (choice : ConflictChoice) (conflicts : List Path)
    (confirm : List Path → m Bool) : m (Option OverwritePolicy) :=
  match choice.policy? with
  | some policy => pure (some policy)
  | none =>
      if conflicts.isEmpty then pure (some .force)
      else do
        let consents ← confirm conflicts
        pure (if consents then some .force else none)

theorem resolvePolicy_of_policy? {m : Type → Type} [Monad m] {choice : ConflictChoice}
    {policy : OverwritePolicy} (conflicts : List Path) (confirm : List Path → m Bool)
    (direct : choice.policy? = some policy) :
    resolvePolicy choice conflicts confirm = pure (some policy) := by
  simp [resolvePolicy, direct]

end ResourceScaffold
