import Mathlib.Data.List.Basic
import PasskeyCeremony.Page.Markup
import PasskeyCeremony.Text.Numeral

/-!
# Reading markup

What a reader of markup makes of a text that was escaped. A numeric character reference stands for
the character with its number (`unescape`), so an escaped text is read as the text that was meant
(`unescape_escape_append`). Four of the five characters that are escaped are marks: they end a value
in quotes or a running text, and an escaped text holds none of them (`not_mem_escape`).

From this follow the two things that are said of a template filled with escaped texts. A text in a
hole is found again by looking for the fixed text after the hole, provided that there is a mark in
it (`readHole?_escape`); what comes before the mark may well occur in the text too. And a text in a
hole does not change the tags around it (`tags_append_escape_append`).
-/

namespace PasskeyCeremony.Page.Markup

variable {cs fixed rest : List Char} {mark : Char}

/-! ## Character references -/

/-- The character that a numeric reference at the start of a text stands for, and what follows. -/
def reference? : List Char → Option (Char × List Char)
  | '&' :: '#' :: rest =>
    match rest.takeWhile Text.isDigit, rest.dropWhile Text.isDigit with
    | d :: digits, ';' :: rest => some (Char.ofNat (Text.digitsValue (d :: digits)), rest)
    | _, _ => none
  | _ => none

theorem length_lt_of_reference? {c : Char} (h : reference? cs = some (c, rest)) :
    rest.length < cs.length := by
  unfold reference? at h
  split at h
  · rename_i inside
    split at h
    · rename_i hdrop
      obtain ⟨-, rfl⟩ := Prod.mk.inj (Option.some.inj h)
      have hle := (List.dropWhile_suffix (l := inside) Text.isDigit).length_le
      simp only [hdrop, List.length_cons] at hle ⊢
      omega
    · cases h
  · cases h

/-- The text that markup without tags stands for. -/
def unescape (cs : List Char) : List Char :=
  match _h : reference? cs with
  | some (c, rest) => c :: unescape rest
  | none =>
    match cs with
    | [] => []
    | c :: rest => c :: unescape rest
termination_by cs.length
decreasing_by
  · exact length_lt_of_reference? ‹_›
  · exact Nat.lt_succ_self _

theorem unescape_of_reference? {c : Char} (h : reference? cs = some (c, rest)) :
    unescape cs = c :: unescape rest := by
  rw [unescape]
  split
  · rename_i h'
    obtain ⟨rfl, rfl⟩ := Prod.mk.inj (Option.some.inj (h'.symm.trans h))
    rfl
  · rename_i h'
    cases h'.symm.trans h

theorem unescape_cons_of_ne {c : Char} (h : c ≠ '&') :
    unescape (c :: rest) = c :: unescape rest := by
  have hnone : reference? (c :: rest) = none := by
    rw [reference?]
    rintro _ heq
    exact h (List.cons.inj heq).1
  rw [unescape]
  split
  · rename_i hsome
    cases hnone.symm.trans hsome
  · rfl

@[simp] theorem unescape_escapeChar_append (c : Char) (rest : List Char) :
    unescape (escapeChar c ++ rest) = c :: unescape rest := by
  rw [escapeChar]
  split_ifs with hlt hgt hamp hquote hapostrophe
  · rw [hlt]
    exact unescape_of_reference? rfl
  · rw [hgt]
    exact unescape_of_reference? rfl
  · rw [hamp]
    exact unescape_of_reference? rfl
  · rw [hquote]
    exact unescape_of_reference? rfl
  · rw [hapostrophe]
    exact unescape_of_reference? rfl
  · exact unescape_cons_of_ne hamp

@[simp] theorem escape_cons (c : Char) (cs : List Char) :
    escape (c :: cs) = escapeChar c ++ escape cs :=
  List.flatMap_cons

/-- **An escaped text is read** as the text that was meant. -/
@[simp] theorem unescape_escape_append (cs rest : List Char) :
    unescape (escape cs ++ rest) = cs ++ unescape rest := by
  induction cs with
  | nil => rfl
  | cons c cs ih =>
    rw [escape_cons, List.append_assoc, unescape_escapeChar_append, ih, List.cons_append]

theorem unescape_escape (cs : List Char) : unescape (escape cs) = cs := by
  have hread := unescape_escape_append cs []
  have hnil : unescape [] = [] := by
    rw [unescape]
    rfl
  rwa [List.append_nil, hnil, List.append_nil] at hread

/-! ## Marks -/

def marks : List Char := ['<', '>', '"', '\x27']

theorem lt_mem_marks : '<' ∈ marks := by decide

theorem quote_mem_marks : '"' ∈ marks := by decide

theorem not_mem_escapeChar (hmark : mark ∈ marks) (c : Char) : mark ∉ escapeChar c := by
  have hcases : mark = '<' ∨ mark = '>' ∨ mark = '"' ∨ mark = '\x27' := by
    simpa [marks] using hmark
  rw [escapeChar]
  split_ifs with hlt hgt hamp hquote hapostrophe
  any_goals rcases hcases with rfl | rfl | rfl | rfl <;> decide
  rw [List.mem_singleton]
  rintro rfl
  simp only [hlt, hgt, hquote, hapostrophe, or_self] at hcases

/-- **An escaped text holds no mark.** -/
theorem not_mem_escape (hmark : mark ∈ marks) (cs : List Char) : mark ∉ escape cs := by
  rw [escape, List.mem_flatMap]
  rintro ⟨c, -, hc⟩
  exact not_mem_escapeChar hmark c hc

theorem count_escape (hmark : mark ∈ marks) (cs : List Char) : (escape cs).count mark = 0 :=
  List.count_eq_zero_of_not_mem (not_mem_escape hmark cs)

/-! ## Fixed texts -/

/-- What follows a fixed text at the start. -/
def dropFixed? (fixed cs : List Char) : Option (List Char) :=
  if fixed <+: cs then some (cs.drop fixed.length) else none

/-- What comes before the first place at which a fixed text stands, and what follows it there. -/
def splitAt? (fixed : List Char) : List Char → Option (List Char × List Char)
  | [] => (dropFixed? fixed []).map ([], ·)
  | c :: cs =>
    match dropFixed? fixed (c :: cs) with
    | some rest => some ([], rest)
    | none => (splitAt? fixed cs).map fun r ↦ (c :: r.1, r.2)

/-- The text in a hole with a fixed text after it, and what follows that. -/
def readHole? (fixed cs : List Char) : Option (String × List Char) :=
  (splitAt? fixed cs).map fun r ↦ (String.ofList (unescape r.1), r.2)

@[simp] theorem dropFixed?_append (fixed rest : List Char) :
    dropFixed? fixed (fixed ++ rest) = some rest := by
  rw [dropFixed?, if_pos (List.prefix_append fixed rest), List.drop_left]

theorem splitAt?_of_dropFixed? (h : dropFixed? fixed cs = some rest) :
    splitAt? fixed cs = some ([], rest) := by
  cases cs with
  | nil => rw [splitAt?, h, Option.map_some]
  | cons c cs => rw [splitAt?, h]

theorem eq_nil_of_isPrefix {before : List Char} (hfixed : mark ∈ fixed) (hbefore : mark ∉ before)
    (h : fixed <+: before ++ (fixed ++ rest)) : before = [] := by
  obtain ⟨after, hafter⟩ := h
  have hfirst : (fixed ++ after).idxOf mark = fixed.idxOf mark := List.idxOf_append_of_mem hfixed
  have hplace : (before ++ (fixed ++ rest)).idxOf mark = before.length + fixed.idxOf mark := by
    rw [List.idxOf_append_of_notMem hbefore, List.idxOf_append_of_mem hfixed]
  rw [hafter, hplace] at hfirst
  exact List.length_eq_zero_iff.mp (by omega)

theorem splitAt?_append {before : List Char} (hfixed : mark ∈ fixed) (hbefore : mark ∉ before) :
    splitAt? fixed (before ++ (fixed ++ rest)) = some (before, rest) := by
  induction before with
  | nil => exact splitAt?_of_dropFixed? (dropFixed?_append fixed rest)
  | cons c before ih =>
    have hlater : dropFixed? fixed (c :: (before ++ (fixed ++ rest))) = none := by
      rw [dropFixed?, if_neg]
      intro hprefix
      exact List.cons_ne_nil _ _ (eq_nil_of_isPrefix hfixed hbefore hprefix)
    rw [List.cons_append, splitAt?, hlater, ih fun hin ↦ hbefore (List.mem_cons_of_mem c hin)]
    rfl

/-- **A text in a hole is read back**, if there is a mark in the fixed text after it. -/
theorem readHole?_escape (hmark : mark ∈ marks) (hfixed : mark ∈ fixed) (s : String)
    (rest : List Char) :
    readHole? fixed (escape s.toList ++ (fixed ++ rest)) = some (s, rest) := by
  rw [readHole?, splitAt?_append hfixed (not_mem_escape hmark _), Option.map_some, unescape_escape,
    String.ofList_toList]

/-! ## Tags -/

/-- Where a reader of markup stands, and what has been read of the tag there. -/
inductive Place where
  /-- In running text. -/
  | text
  /-- Inside a tag. -/
  | tag (seen : List Char)
  /-- Inside a tag, in a value in quotes, where an angle bracket does not end the tag. -/
  | value (seen : List Char)
  deriving DecidableEq, Repr

/-- Where the reader stands after one more character. -/
def Place.next : Place → Char → Place
  | text, c => if c = '<' then tag [] else text
  | tag seen, c =>
    if c = '>' then text else if c = '"' then value (seen ++ [c]) else tag (seen ++ [c])
  | value seen, c => if c = '"' then tag (seen ++ [c]) else value (seen ++ [c])

/-- The tag that a character ends, if it does. -/
def Place.ended? : Place → Char → Option (List Char)
  | tag seen, c => if c = '>' then some seen else none
  | text, _ | value _, _ => none

/-- The tags that end in a text that is read from a place on. -/
def tagsFrom : Place → List Char → List (List Char)
  | _, [] => []
  | p, c :: cs => (p.ended? c).toList ++ tagsFrom (p.next c) cs

/-- The tags of markup, in order, each without its angle brackets. -/
def tags (cs : List Char) : List (List Char) := tagsFrom .text cs

theorem tagsFrom_append (p : Place) (cs rest : List Char) :
    tagsFrom p (cs ++ rest) = tagsFrom p cs ++ tagsFrom (cs.foldl Place.next p) rest := by
  induction cs generalizing p with
  | nil => rfl
  | cons c cs ih =>
    rw [List.cons_append, tagsFrom, tagsFrom, ih, List.foldl_cons, List.append_assoc]

/-- **A running text** without angle brackets holds no tag, and the reader does not leave it. -/
theorem text_of_not_mem (h : '<' ∉ cs) :
    tagsFrom .text cs = [] ∧ cs.foldl Place.next .text = .text := by
  induction cs with
  | nil => exact ⟨rfl, rfl⟩
  | cons c cs ih =>
    rw [List.mem_cons, not_or] at h
    have hnext : Place.text.next c = .text := if_neg (Ne.symm h.1)
    rw [tagsFrom, List.foldl_cons, hnext]
    exact ih h.2

/-- **A value** without quotes does not end. -/
theorem foldl_value_of_not_mem (h : '"' ∉ cs) (seen : List Char) :
    cs.foldl Place.next (.value seen) = .value (seen ++ cs) := by
  induction cs generalizing seen with
  | nil => rw [List.foldl_nil, List.append_nil]
  | cons c cs ih =>
    rw [List.mem_cons, not_or] at h
    have hnext : (Place.value seen).next c = .value (seen ++ [c]) := if_neg (Ne.symm h.1)
    rw [List.foldl_cons, hnext, ih h.2, List.append_assoc, List.singleton_append]

theorem foldl_value_escape (seen cs : List Char) :
    (escape cs).foldl Place.next (.value seen) = .value (seen ++ escape cs) :=
  foldl_value_of_not_mem (not_mem_escape quote_mem_marks cs) seen

/-- An escaped text among running text can be left out. -/
theorem tags_append_escape_append (h : fixed.foldl Place.next .text = .text)
    (cs rest : List Char) : tags (fixed ++ (escape cs ++ rest)) = tags fixed ++ tags rest := by
  have hescaped := text_of_not_mem (not_mem_escape lt_mem_marks cs)
  rw [tags, tagsFrom_append, h, tagsFrom_append, hescaped.1, hescaped.2, List.nil_append]
  rfl

end PasskeyCeremony.Page.Markup
