import AbiBridge.Issue

/-!
# Progress of a run

What a stage of a run made, the issues it met, in their order, and the names of all
entities that were left out until then.
-/

namespace AbiBridge

/-- The outcome of a stage that may leave entities out. -/
structure Progress (α : Type) where
  made : List α
  log : List EntityIssue
  dropped : List String

namespace Progress

variable {α : Type}

def start (dropped : List String) : Progress α := ⟨[], [], dropped⟩

/-- Put something made, and the issues met with it, before the rest. -/
def keep (item : α) (log : List EntityIssue) (rest : Progress α) : Progress α :=
  { rest with made := item :: rest.made, log := log ++ rest.log }

def note (issue : EntityIssue) (rest : Progress α) : Progress α :=
  { rest with log := issue :: rest.log }

end Progress

end AbiBridge
