/-!
# Texts between marks

A text is split at every occurrence of a mark.  Parts without the mark are found
again in the text that they are joined to by it.
-/

namespace PageSession

namespace Text

/-- The parts of a text between marks, one more than there are marks. -/
def split (mark : Char) : List Char → List (List Char)
  | [] => [[]]
  | char :: rest =>
      if char = mark then [] :: split mark rest else (split mark rest).modifyHead (char :: ·)

theorem split_of_not_mem {mark : Char} {chars : List Char} (absent : mark ∉ chars) :
    split mark chars = [chars] := by
  induction chars with
  | nil => rfl
  | cons char rest hypothesis =>
      have differs : char ≠ mark := fun equal => absent (by simp [equal])
      have behind : mark ∉ rest := fun member => absent (List.mem_cons_of_mem char member)
      simp [split, differs, hypothesis behind]

theorem split_append_cons {mark : Char} {part : List Char} (absent : mark ∉ part)
    (rest : List Char) : split mark (part ++ mark :: rest) = part :: split mark rest := by
  induction part with
  | nil => simp [split]
  | cons char tail hypothesis =>
      have differs : char ≠ mark := fun equal => absent (by simp [equal])
      have behind : mark ∉ tail := fun member => absent (List.mem_cons_of_mem char member)
      simp [split, differs, hypothesis behind]

/-- Parts without the mark are found again in what they are joined to by it. -/
theorem split_intercalate {mark : Char} {parts : List (List Char)} (nonempty : parts ≠ [])
    (absent : ∀ part ∈ parts, mark ∉ part) :
    split mark ([mark].intercalate parts) = parts := by
  induction parts with
  | nil => contradiction
  | cons part rest hypothesis =>
      obtain ⟨first, later⟩ := List.forall_mem_cons.mp absent
      cases rest with
      | nil => rw [List.intercalate_singleton, split_of_not_mem first]
      | cons next rest =>
          rw [List.intercalate_cons_cons, List.append_assoc, List.singleton_append,
            split_append_cons first, hypothesis (List.cons_ne_nil next rest) later]

end Text

end PageSession
