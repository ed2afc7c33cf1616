/-
This file cuts texts at a separator: at every occurrence, or only at the last one.
-/

namespace Bolt11.Text

/-- The parts of a text between the occurrences of a separator. There is one part more than there
are occurrences. -/
def splitAll (separator : Char) : List Char → List (List Char)
  | [] => [[]]
  | c :: rest =>
    if c = separator then [] :: splitAll separator rest
    else match splitAll separator rest with
      | [] => [[c]]
      | part :: parts => (c :: part) :: parts

/-- The parts of a text before and after the last occurrence of a separator. -/
def splitLast (separator : Char) : List Char → Option (List Char × List Char)
  | [] => none
  | c :: rest =>
    match splitLast separator rest with
    | some (before, after) => some (c :: before, after)
    | none => if c = separator then some ([], rest) else none

/-- A text in which the separator does not occur is one part. -/
theorem splitAll_of_absent {separator : Char} {text : List Char} (absent : separator ∉ text) :
    splitAll separator text = [text] := by
  induction text with
  | nil => rfl
  | cons c rest inductionHypothesis =>
    obtain ⟨other, later⟩ := List.ne_and_not_mem_of_not_mem_cons absent
    rw [splitAll, if_neg other.symm, inductionHypothesis later]

/-- What stands before the first occurrence of the separator is the first part. -/
theorem splitAll_append {separator : Char} {part : List Char} (absent : separator ∉ part)
    (rest : List Char) :
    splitAll separator (part ++ separator :: rest) = part :: splitAll separator rest := by
  induction part with
  | nil => rw [List.nil_append, splitAll, if_pos rfl]
  | cons c others inductionHypothesis =>
    obtain ⟨other, later⟩ := List.ne_and_not_mem_of_not_mem_cons absent
    rw [List.cons_append, splitAll, if_neg other.symm, inductionHypothesis later]

theorem eq_of_splitLast {separator : Char} {text before after : List Char}
    (found : splitLast separator text = some (before, after)) :
    text = before ++ separator :: after := by
  induction text generalizing before with
  | nil => simp [splitLast] at found
  | cons c rest inductionHypothesis =>
    rw [splitLast] at found
    cases later : splitLast separator rest with
    | some parts =>
      rw [later] at found
      obtain ⟨rfl, rfl⟩ := by simpa using found
      rw [inductionHypothesis later, List.cons_append]
    | none =>
      rw [later] at found
      simp only at found
      split at found
      · rename_i here
        obtain ⟨rfl, rfl⟩ := by simpa using found
        rw [here, List.nil_append]
      · simp at found

end Bolt11.Text
