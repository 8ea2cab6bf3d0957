import PasskeyCeremony.Url.Percent

/-!
# Percent encoding, read back

Decoding undoes encoding by any set that contains the percent sign: otherwise a percent sign of the
text could be taken for the start of an encoded byte. The set for the segments of a path does
contain it (`decode_encodeSegment`), and as UTF-8 can be read back too, two texts never share a
segment (`encodeSegment_inj`).
-/

namespace PasskeyCeremony

/-- UTF-8 can be read back. -/
theorem Text.Utf8.encode_inj {cs ds : List Char} : Utf8.encode cs = Utf8.encode ds ↔ cs = ds := by
  refine ⟨fun h ↦ ?_, fun h ↦ by rw [h]⟩
  have hbytes : cs.utf8Encode = ds.utf8Encode := congrArg List.toByteArray h
  have harrays : some cs.toArray = some ds.toArray := by
    rw [← List.utf8Decode?_utf8Encode, hbytes, List.utf8Decode?_utf8Encode]
  exact congrArg Array.toList (Option.some.inj harrays)

namespace Url.Percent

open Text

variable {set : Char → Bool}

/-! ## One byte -/

private theorem hexValue?_hexDigit {n : Nat} (h : n < 16) : hexValue? (hexDigit n) = some n := by
  have hall : ∀ m < 16, hexValue? (hexDigit m) = some m := by decide
  exact hall n h

private theorem isUnreserved_hexDigit {n : Nat} (h : n < 16) :
    isUnreserved (hexDigit n) = true := by
  have hall : ∀ m < 16, isUnreserved (hexDigit m) = true := by decide
  exact hall n h

theorem byte?_hexDigit (b : UInt8) :
    byte? (hexDigit (b.toNat / 16)) (hexDigit (b.toNat % 16)) = some b := by
  have hb : b.toNat < 256 := b.toNat_lt
  rw [byte?, hexValue?_hexDigit (by omega), hexValue?_hexDigit (by omega)]
  simp only [Option.bind_eq_bind, Option.bind_some, Option.pure_def, Nat.div_add_mod,
    UInt8.ofNat_toNat]

@[simp] theorem decode_encodeByte_append (b : UInt8) (rest : List Char) :
    decode (encodeByte b ++ rest) = b :: decode rest := by
  rw [encodeByte, List.cons_append, List.cons_append, List.cons_append, List.nil_append, decode,
    if_pos rfl, byte?_hexDigit]

theorem decode_cons_of_ne {c : Char} (h : c ≠ '%') (rest : List Char) :
    decode (c :: rest) = Utf8.encodeChar c ++ decode rest := by
  match rest with
  | [] => rw [decode, decode, List.append_nil]
  | [d] => rw [decode, decode]
  | d :: e :: rest => rw [decode, if_neg h]

/-! ## A text -/

@[simp] theorem decode_flatMap_encodeByte_append (bs : List UInt8) (rest : List Char) :
    decode (bs.flatMap encodeByte ++ rest) = bs ++ decode rest := by
  induction bs with
  | nil => rfl
  | cons b bs ih =>
    rw [List.flatMap_cons, List.append_assoc, decode_encodeByte_append, ih, List.cons_append]

theorem decode_encodeChar_append (hset : set '%' = true) (c : Char) (rest : List Char) :
    decode (encodeChar set c ++ rest) = Utf8.encodeChar c ++ decode rest := by
  rw [encodeChar]
  by_cases hc : set c = true
  · rw [if_pos hc, decode_flatMap_encodeByte_append]
  · rw [if_neg hc, List.singleton_append, decode_cons_of_ne]
    rintro rfl
    exact hc hset

/-- **Decoding undoes encoding**, where percent signs are encoded. -/
theorem decode_encode (hset : set '%' = true) (cs : List Char) :
    decode (encode set cs) = Utf8.encode cs := by
  induction cs with
  | nil => rfl
  | cons c cs ih =>
    rw [encode, List.flatMap_cons, decode_encodeChar_append hset, ← encode, ih, Utf8.encode,
      Utf8.encode, List.flatMap_cons]

theorem encode_eq_self {cs : List Char} (h : ∀ c ∈ cs, set c = false) : encode set cs = cs := by
  induction cs with
  | nil => rfl
  | cons c cs ih =>
    have hc : ¬set c = true := by rw [h c List.mem_cons_self]; exact Bool.false_ne_true
    rw [encode, List.flatMap_cons, encodeChar, if_neg hc, ← encode,
      ih fun d hd ↦ h d (List.mem_cons_of_mem c hd), List.singleton_append]

/-! ## A segment -/

theorem decode_encodeSegment (cs : List Char) : decode (encodeSegment cs) = Utf8.encode cs :=
  decode_encode rfl cs

theorem encodeSegment_inj {cs ds : List Char} : encodeSegment cs = encodeSegment ds ↔ cs = ds := by
  refine ⟨fun h ↦ ?_, fun h ↦ by rw [h]⟩
  rw [← Utf8.encode_inj, ← decode_encodeSegment, h, decode_encodeSegment]

theorem encodeSegment_eq_self {cs : List Char} (h : ∀ c ∈ cs, isUnreserved c = true) :
    encodeSegment cs = cs :=
  encode_eq_self fun c hc ↦ by rw [h c hc]; rfl

/-- A character that a segment may hold: one that is left as it is, or the percent sign of an
encoded byte. -/
def isSegmentChar (c : Char) : Bool := isUnreserved c || c == '%'

theorem isSegmentChar_of_isUnreserved {c : Char} (h : isUnreserved c = true) :
    isSegmentChar c = true := by
  rw [isSegmentChar, h, Bool.true_or]

theorem isSegmentChar_of_mem_encodeSegment {cs : List Char} {c : Char}
    (h : c ∈ encodeSegment cs) : isSegmentChar c = true := by
  rw [encodeSegment, encode, List.mem_flatMap] at h
  obtain ⟨d, -, hd⟩ := h
  rw [encodeChar] at hd
  by_cases hunreserved : isUnreserved d = true
  · rw [if_neg (by rw [hunreserved]; exact Bool.false_ne_true), List.mem_singleton] at hd
    rw [hd]
    exact isSegmentChar_of_isUnreserved hunreserved
  · rw [if_pos (by simp [hunreserved]), List.mem_flatMap] at hd
    obtain ⟨b, -, hb⟩ := hd
    have hbyte : b.toNat < 256 := b.toNat_lt
    rw [encodeByte, List.mem_cons, List.mem_cons, List.mem_singleton] at hb
    rcases hb with rfl | rfl | rfl
    · rfl
    · exact isSegmentChar_of_isUnreserved (isUnreserved_hexDigit (by omega))
    · exact isSegmentChar_of_isUnreserved (isUnreserved_hexDigit (by omega))

end Url.Percent

end PasskeyCeremony
