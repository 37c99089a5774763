/-!
# Tables of the latest registration

A table keeps for each key what was registered last under it.
-/

namespace PageSession

/-- A table, the latest registrations first. -/
structure Registry (key entry : Type) where
  entries : List (key × entry) := []

namespace Registry

variable {key entry : Type} [DecidableEq key]

/-- What was registered last under a key. -/
def find? (registry : Registry key entry) (wanted : key) : Option entry :=
  registry.entries.findSome? fun (name, held) => if name = wanted then some held else none

/-- Register something under a key, in the place of what was there. -/
def register (registry : Registry key entry) (name : key) (held : entry) : Registry key entry :=
  { entries := (name, held) :: registry.entries.filter fun pair => pair.1 ≠ name }

theorem find?_register (registry : Registry key entry) (name wanted : key) (held : entry) :
    (registry.register name held).find? wanted
      = if wanted = name then some held else registry.find? wanted := by
  unfold register find?
  by_cases same : wanted = name
  · simp [same]
  · have differs : name ≠ wanted := fun equal => same equal.symm
    simp only [List.findSome?_cons, differs, if_false, same]
    induction registry.entries with
    | nil => rfl
    | cons head rest hypothesis =>
        by_cases kept : head.1 = name
        · have other : head.1 ≠ wanted := fun equal => same (equal.symm.trans kept)
          simpa [kept, differs] using hypothesis
        · simp only [ne_eq, kept, not_false_eq_true, decide_true, List.filter_cons_of_pos,
            List.findSome?_cons, hypothesis]

end Registry

end PageSession
