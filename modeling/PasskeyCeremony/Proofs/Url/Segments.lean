import PasskeyCeremony.Proofs.Text.Ends
import PasskeyCeremony.Proofs.Url.Percent
import PasskeyCeremony.Url.Reader

/-!
# Paths of encoded segments

A path whose segments are encoded is resolved against an address of the web segment by segment: each
of them is kept as it is (`addSegment_encodeSegment`), unless it is a dot segment. Encoding does not
touch dots, so a dot segment comes from exactly the two texts that are one themselves
(`isSingleDot_encodeSegment`, `isDoubleDot_encodeSegment`).
-/

namespace PasskeyCeremony

open Text (splitAt)

/-! ## Splitting -/

theorem Text.splitAt_append_cons {separator : Char → Bool} {cs : List Char} {x : Char}
    (hcs : ∀ c ∈ cs, separator c = false) (hx : separator x = true) (ds : List Char) :
    splitAt separator (cs ++ x :: ds) = cs :: splitAt separator ds := by
  induction cs with
  | nil => rw [List.nil_append, splitAt, if_pos hx]
  | cons c cs ih =>
    have hc : ¬separator c = true := by rw [hcs c List.mem_cons_self]; exact Bool.false_ne_true
    rw [List.cons_append, splitAt, if_neg hc, ih fun d hd ↦ hcs d (List.mem_cons_of_mem c hd)]

/-- Parts with a separator before each but the first are read back. -/
theorem Text.splitAt_append_flatMap {separator : Char → Bool} {x : Char} (hx : separator x = true)
    {part : List Char} {parts : List (List Char)} (hpart : ∀ c ∈ part, separator c = false)
    (hparts : ∀ p ∈ parts, ∀ c ∈ p, separator c = false) :
    splitAt separator (part ++ parts.flatMap (x :: ·)) = part :: parts := by
  induction parts generalizing part with
  | nil => rw [List.flatMap_nil, List.append_nil, splitAt_eq_singleton hpart]
  | cons p parts ih =>
    rw [List.flatMap_cons, List.cons_append, splitAt_append_cons hpart hx,
      ih (hparts p List.mem_cons_self) fun q hq ↦ hparts q (List.mem_cons_of_mem p hq)]

namespace Url

open Text Percent

/-! ## Characters of segments -/

/-- What the reader does not do with a character of a segment. -/
theorem reads_isSegmentChar {c : Char} (h : isSegmentChar c = true) :
    0x20 < c.toNat ∧ isEitherSlash c = false ∧ endsPath c = false ∧ inPathSet c = false := by
  have hall : ∀ n < 0x80, isSegmentChar (Char.ofNat n) = true →
      0x20 < (Char.ofNat n).toNat ∧ isEitherSlash (Char.ofNat n) = false ∧
        endsPath (Char.ofNat n) = false ∧ inPathSet (Char.ofNat n) = false := by decide
  -- such a character is ASCII, and of those all can be looked at
  have hascii : c.toNat < 0x80 := by
    simp only [isSegmentChar, isUnreserved, Bool.or_eq_true, Bool.and_eq_true, decide_eq_true_eq,
      Char.le_def, UInt32.le_iff_toNat_le, List.mem_cons, List.not_mem_nil, or_false,
      beq_iff_eq] at h
    rcases h with ((((h | h) | h) | (rfl | rfl | rfl | rfl)) | rfl)
    · exact Nat.lt_of_le_of_lt h.2 (by decide)
    · exact Nat.lt_of_le_of_lt h.2 (by decide)
    · exact Nat.lt_of_le_of_lt h.2 (by decide)
    all_goals decide
  have hc := hall c.toNat hascii
  rw [Char.ofNat_toNat] at hc
  exact hc h

theorem isSlash_of_isSegmentChar {kind : SchemeKind} {c : Char} (h : isSegmentChar c = true) :
    isSlash kind c = false := by
  have hslash := (reads_isSegmentChar h).2.1
  rw [isEitherSlash, Bool.or_eq_false_iff] at hslash
  rw [isSlash, hslash.1, hslash.2, Bool.and_false, Bool.or_false]

theorem clean_eq_self {cs : List Char} (h : ∀ c ∈ cs, 0x20 < c.toNat) : clean cs = cs := by
  have hedge : ∀ c ∈ cs, decide (c.toNat ≤ 0x20) = false := fun c hc ↦
    decide_eq_false (Nat.not_le.mpr (h c hc))
  have hstart : cs.dropWhile (fun c ↦ decide (c.toNat ≤ 0x20)) = cs :=
    dropWhile_eq_self fun c hc ↦ hedge c (List.mem_of_mem_head? hc)
  have hend : cs.reverse.dropWhile (fun c ↦ decide (c.toNat ≤ 0x20)) = cs.reverse :=
    dropWhile_eq_self fun c hc ↦ hedge c (List.mem_reverse.mp (List.mem_of_mem_head? hc))
  rw [clean, hstart, hend, List.reverse_reverse, List.filter_eq_self]
  intro c hc
  have hc' := h c hc
  rw [Bool.not_eq_true', ← Bool.not_eq_true]
  intro hbreak
  simp only [Bool.or_eq_true, beq_iff_eq] at hbreak
  rcases hbreak with (rfl | rfl) | rfl <;> exact absurd hc' (by decide)

/-! ## Dot segments -/

theorem decode_of_dropDot? {cs rest : List Char} (h : dropDot? cs = some rest) :
    decode cs = 0x2E :: decode rest := by
  rw [dropDot?.eq_def] at h
  split at h
  · obtain rfl := Option.some.inj h
    rw [decode_cons_of_ne (by decide)]
    rfl
  · obtain rfl := Option.some.inj h
    rfl
  · obtain rfl := Option.some.inj h
    rfl
  · cases h

theorem isSingleDot_encodeSegment {cs : List Char} :
    isSingleDot (encodeSegment cs) = true ↔ cs = ['.'] := by
  refine ⟨fun h ↦ ?_, fun h ↦ by rw [h]; rfl⟩
  rw [isSingleDot, beq_iff_eq] at h
  have hdecode := decode_of_dropDot? h
  rw [decode_encodeSegment] at hdecode
  exact Utf8.encode_inj.mp hdecode

theorem isDoubleDot_encodeSegment {cs : List Char} :
    isDoubleDot (encodeSegment cs) = true ↔ cs = ['.', '.'] := by
  refine ⟨fun h ↦ ?_, fun h ↦ by rw [h]; rfl⟩
  rw [isDoubleDot, beq_iff_eq, Option.bind_eq_some_iff] at h
  obtain ⟨rest, hfirst, hsecond⟩ := h
  have hdecode := decode_of_dropDot? hfirst
  rw [decode_encodeSegment, decode_of_dropDot? hsecond] at hdecode
  exact Utf8.encode_inj.mp hdecode

/-! ## Collecting segments -/

private theorem keptSegment_network (first : Bool) (cs : List Char) :
    keptSegment .network first cs = component inPathSet cs := by
  rw [keptSegment]
  exact fun _ _ hkind ↦ nomatch hkind

theorem addSegment_encodeSegment {cs : List Char} (hdot : cs ≠ ['.']) (hdots : cs ≠ ['.', '.'])
    (segments : List String) (last : Bool) :
    addSegment .network segments last (encodeSegment cs) =
      segments ++ [String.ofList (encodeSegment cs)] := by
  have hkept : encode inPathSet (encodeSegment cs) = encodeSegment cs :=
    encode_eq_self fun c hc ↦ (reads_isSegmentChar (isSegmentChar_of_mem_encodeSegment hc)).2.2.2
  rw [addSegment, if_neg (mt isDoubleDot_encodeSegment.mp hdots),
    if_neg (mt isSingleDot_encodeSegment.mp hdot), keptSegment_network, component, hkept]

theorem addSegments_append_singleton (kind : SchemeKind) (segments : List String)
    (parts : List (List Char)) (last : List Char) :
    addSegments kind segments (parts ++ [last]) =
      addSegment kind (parts.foldl (fun ss cs ↦ addSegment kind ss false cs) segments) true
        last := by
  induction parts generalizing segments with
  | nil => rfl
  | cons part parts ih =>
    rw [List.cons_append, List.foldl_cons, ← ih]
    cases parts with
    | nil => rfl
    | cons _ _ => rfl

/-- A segment that is kept as it is written: not empty, no dot segment, and of unreserved characters
only. -/
structure IsPlain (s : String) : Prop where
  ne_empty : s ≠ ""
  ne_dot : s ≠ "."
  ne_dots : s ≠ ".."
  unreserved : ∀ c ∈ s.toList, isUnreserved c = true

theorem foldl_addSegment_plain {ss : List String} (h : ∀ s ∈ ss, IsPlain s)
    (segments : List String) :
    (ss.map String.toList).foldl (fun ss cs ↦ addSegment .network ss false cs) segments =
      segments ++ ss := by
  induction ss generalizing segments with
  | nil => rw [List.map_nil, List.foldl_nil, List.append_nil]
  | cons s ss ih =>
    have hs := h s List.mem_cons_self
    have hself : encodeSegment s.toList = s.toList := encodeSegment_eq_self hs.unreserved
    have hdot : s.toList ≠ ['.'] := fun hdot ↦ hs.ne_dot (String.toList_inj.mp hdot)
    have hdots : s.toList ≠ ['.', '.'] := fun hdots ↦ hs.ne_dots (String.toList_inj.mp hdots)
    have hadd := addSegment_encodeSegment hdot hdots segments false
    rw [hself, String.ofList_toList] at hadd
    rw [List.map_cons, List.foldl_cons, hadd, ih (fun t ht ↦ h t (List.mem_cons_of_mem s ht)),
      List.append_assoc, List.singleton_append]

end Url

end PasskeyCeremony
