import PasskeyCeremony.Credential.Encoding
import PasskeyCeremony.Proofs.Base64.Encoding
import PasskeyCeremony.Proofs.Text.Ends

/-!
# Repairing an encoding

A byte string has four encodings: two alphabets, each with padding or without. The repair takes all
four to one of them, so it loses nothing of the bytes: they can be read back from the repaired text,
and two byte strings never meet in one.

The repair works on characters and knows nothing of bytes. What connects the two is that the
alphabets differ in two characters only (`repairChar_char`) and that padding is a row of equals
signs behind an unpadded encoding (`exists_encode_eq_append`).
-/

namespace PasskeyCeremony.Base64

variable {a : Alphabet} {cs : List Char} {n : Nat} {bs : List UInt8}

/-! ## The alphabets -/

@[simp] theorem repairChar_char (a : Alphabet) (h : n < 64) :
    repairChar (a.char n) = Alphabet.urlSafe.char n := by
  have hall : ∀ m < 64, repairChar (a.char m) = Alphabet.urlSafe.char m := by cases a <;> decide
  exact hall n h

theorem map_repairChar_encode (a : Alphabet) (bs : List UInt8) :
    (encode a false bs).map repairChar = encode .urlSafe false bs := by
  induction bs using encode.induct with
  | case1 => rfl
  | case2 x =>
    have hx := x.toNat_lt
    simp only [encode, Bool.false_eq_true, if_false, List.map_cons, List.map_nil]
    rw [repairChar_char a (by omega), repairChar_char a (by omega)]
  | case3 x y =>
    have hx := x.toNat_lt
    have hy := y.toNat_lt
    simp only [encode, Bool.false_eq_true, if_false, List.map_cons, List.map_nil]
    rw [repairChar_char a (by omega), repairChar_char a (by omega), repairChar_char a (by omega)]
  | case4 x y z rest ih =>
    have hx := x.toNat_lt
    have hy := y.toNat_lt
    have hz := z.toNat_lt
    simp only [encode, List.map_cons, ih]
    rw [repairChar_char a (by omega), repairChar_char a (by omega), repairChar_char a (by omega),
      repairChar_char a (by omega)]

/-! ## The padding -/

theorem exists_encode_eq_append (a : Alphabet) (padded : Bool) (bs : List UInt8) :
    ∃ k, encode a padded bs = encode a false bs ++ List.replicate k '=' := by
  cases padded with
  | false => exact ⟨0, (List.append_nil _).symm⟩
  | true =>
    induction bs using encode.induct with
    | case1 => exact ⟨0, rfl⟩
    | case2 x => exact ⟨2, rfl⟩
    | case3 x y => exact ⟨1, rfl⟩
    | case4 x y z rest ih =>
      obtain ⟨k, hk⟩ := ih
      refine ⟨k, ?_⟩
      simp only [encode, hk, List.cons_append]

theorem dropPadding_append_replicate (cs : List Char) (k : Nat) :
    dropPadding (cs ++ List.replicate k '=') = dropPadding cs := by
  have hpadding : ∀ c ∈ List.replicate k '=', (c == '=') = true := by
    intro c hc
    rw [List.eq_of_mem_replicate hc]
    rfl
  rw [dropPadding, List.reverse_append, List.reverse_replicate,
    List.dropWhile_append_of_pos hpadding, dropPadding]

theorem dropPadding_eq_self (h : '=' ∉ cs) : dropPadding cs = cs := by
  have hhead : ∀ c ∈ cs.reverse.head?, (c == '=') = false := by
    intro c hc
    refine beq_false_of_ne ?_
    rintro rfl
    exact h (List.mem_reverse.mp (List.mem_of_head? hc))
  rw [dropPadding, Text.dropWhile_eq_self hhead, List.reverse_reverse]

theorem equals_not_mem_encode (bs : List UInt8) : '=' ∉ encode .urlSafe false bs := by
  intro h
  have hnone : Alphabet.urlSafe.value? '=' = none := by decide
  obtain ⟨n, hn⟩ := (isEncoding_iff_isSound.mp ⟨bs, rfl⟩).characters '=' h
  rw [hnone] at hn
  cases hn

/-! ## The four encodings -/

theorem repair_encode (a : Alphabet) (padded : Bool) (bs : List UInt8) :
    repair (encode a padded bs) = encode .urlSafe false bs := by
  obtain ⟨k, hk⟩ := exists_encode_eq_append a padded bs
  rw [repair, hk, List.map_append, List.map_replicate, map_repairChar_encode]
  exact (dropPadding_append_replicate _ k).trans (dropPadding_eq_self (equals_not_mem_encode bs))

/-- The encoding of a byte string as a text. -/
def text (a : Alphabet) (padded : Bool) (bs : List UInt8) : String :=
  String.ofList (encode a padded bs)

@[simp] theorem toList_text (a : Alphabet) (padded : Bool) (bs : List UInt8) :
    (text a padded bs).toList = encode a padded bs := String.toList_ofList

theorem text_urlSafe_inj {bs bs' : List UInt8} :
    text .urlSafe false bs = text .urlSafe false bs' ↔ bs = bs' := by
  refine ⟨fun h ↦ Option.some.inj ?_, fun h ↦ by rw [h]⟩
  rw [← decodeUrl?_encode, ← toList_text, h, toList_text, decodeUrl?_encode]

/-- The four encodings of a byte string become one. -/
theorem repairText_text (a : Alphabet) (padded : Bool) (bs : List UInt8) :
    Credential.repairText (text a padded bs) = text .urlSafe false bs := by
  rw [Credential.repairText, toList_text, repair_encode, text]

/-- **The repair keeps the bytes.** Each of the four encodings of a byte string is repaired to the
unpadded URL-safe one, from which the bytes are read back, and two encodings are repaired to the
same text only if they encode the same bytes. -/
theorem repairText_keeps_bytes (a : Alphabet) (padded : Bool) (bs : List UInt8) :
    Credential.repairText (text a padded bs) = text .urlSafe false bs ∧
      decodeUrl? (Credential.repairText (text a padded bs)).toList = some bs ∧
      ∀ a' padded' bs',
        Credential.repairText (text a padded bs) = Credential.repairText (text a' padded' bs') ↔
          bs = bs' := by
  refine ⟨repairText_text a padded bs, ?_, fun a' padded' bs' ↦ ?_⟩
  · rw [repairText_text, toList_text, decodeUrl?_encode]
  · rw [repairText_text, repairText_text, text_urlSafe_inj]

/-- Bytes whose encodings differ in their characters and in their padding. -/
example : text .standard true [0xFB, 0xFF, 0xBF, 0xFE] = "+/+//g==" ∧
    text .urlSafe false [0xFB, 0xFF, 0xBF, 0xFE] = "-_-__g" := by decide

end PasskeyCeremony.Base64
