/-!
# Sets of capability names

A set is a list in strictly ascending order of code points.
-/

namespace PageSession

/-- A set of names. -/
abbrev Names := List String

namespace Names

/-- A set with one name more. -/
def insert (name : String) : Names → Names
  | [] => [name]
  | head :: rest =>
      if name = head then head :: rest
      else if name < head then name :: head :: rest
      else head :: insert name rest

/-- The union of a set and a list of names. -/
def union (set : Names) (names : List String) : Names :=
  names.foldl (fun set name => insert name set) set

/-- The set of the names in a list. -/
def ofList (names : List String) : Names :=
  union [] names

theorem mem_insert {name other : String} {set : Names} :
    other ∈ insert name set ↔ other = name ∨ other ∈ set := by
  induction set with
  | nil => simp [insert]
  | cons head rest hypothesis =>
      unfold insert
      split
      · next same => subst same; simp
      · split
        · simp
        · simp only [List.mem_cons, hypothesis]
          constructor
          · rintro (equal | equal | member) <;> simp_all
          · rintro (equal | equal | member) <;> simp_all

theorem mem_union {other : String} {set : Names} {names : List String} :
    other ∈ union set names ↔ other ∈ set ∨ other ∈ names := by
  induction names generalizing set with
  | nil => simp [union]
  | cons head rest hypothesis =>
      have step : union set (head :: rest) = union (insert head set) rest := rfl
      rw [step, hypothesis, mem_insert, List.mem_cons]
      constructor
      · rintro ((equal | member) | member)
        · exact .inr (.inl equal)
        · exact .inl member
        · exact .inr (.inr member)
      · rintro (member | equal | member)
        · exact .inl (.inr member)
        · exact .inl (.inl equal)
        · exact .inr member

theorem mem_ofList {other : String} {names : List String} :
    other ∈ ofList names ↔ other ∈ names := by
  simp [ofList, mem_union]

end Names

end PageSession
