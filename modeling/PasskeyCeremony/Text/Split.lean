/-!
# Splitting at separators

The parts of a text between separators. There is always one part more than separators, so the parts
are never an empty list.
-/

namespace PasskeyCeremony.Text

/-- The parts between the characters that are separators. -/
def splitAt (separator : Char → Bool) : List Char → List (List Char)
  | [] => [[]]
  | c :: rest =>
    if separator c then [] :: splitAt separator rest
    else
      match splitAt separator rest with
      | part :: parts => (c :: part) :: parts
      | [] => [[c]]

def joinWith (separator : List Char) : List (List Char) → List Char
  | [] => []
  | [part] => part
  | part :: parts => part ++ separator ++ joinWith separator parts

theorem splitAt_eq_singleton {separator : Char → Bool} {cs : List Char}
    (h : ∀ c ∈ cs, separator c = false) : splitAt separator cs = [cs] := by
  induction cs with
  | nil => rfl
  | cons c rest ih =>
    have hc : separator c = false := h c List.mem_cons_self
    simp [splitAt, hc, ih fun d hd ↦ h d (List.mem_cons_of_mem _ hd)]

end PasskeyCeremony.Text
