import Mathlib.Data.List.Basic
import PasskeyCeremony.Base64.Basic

/-!
# Encodings, read back

Strict decoding accepts exactly the unpadded URL-safe encodings (`decodeUrl?_eq_some_iff`), so a
byte string has one of them and a text is one of at most one byte string. Both directions are
needed: that encodings are read back is no reason to refuse anything else, and the bits of the last
character that no byte needs are what a lenient decoder would let pass.

`IsEncoding` is the property that is decided, and `isEncoding_iff_isSound` describes it by what can
be seen on the text itself: its length, its characters, and the last one of them.
-/

namespace PasskeyCeremony.Base64

variable {a : Alphabet} {c : Char} {cs : List Char} {n : Nat} {bs : List UInt8}

/-! ## One character -/

theorem Alphabet.value?_char (a : Alphabet) (h : n < 64) : a.value? (a.char n) = some n := by
  have hall : ∀ m < 64, a.value? (a.char m) = some m := by cases a <;> decide
  exact hall n h

theorem Alphabet.char_of_value? (h : a.value? c = some n) : n < 64 ∧ a.char n = c := by
  have hupper : 'A' ≤ c ∧ c ≤ 'Z' ↔ 0x41 ≤ c.toNat ∧ c.toNat ≤ 0x5A := Iff.rfl
  have hlower : 'a' ≤ c ∧ c ≤ 'z' ↔ 0x61 ≤ c.toNat ∧ c.toNat ≤ 0x7A := Iff.rfl
  have hdigit : '0' ≤ c ∧ c ≤ '9' ↔ 0x30 ≤ c.toNat ∧ c.toNat ≤ 0x39 := Iff.rfl
  simp only [value?, Bool.and_eq_true, decide_eq_true_eq, hupper, hlower, hdigit] at h
  split at h
  · cases h
    refine ⟨by omega, ?_⟩
    rw [char, if_pos (by omega), Nat.add_sub_cancel' (by omega), Char.ofNat_toNat]
  split at h
  · cases h
    refine ⟨by omega, ?_⟩
    rw [char, if_neg (by omega), if_pos (by omega), Nat.add_sub_cancel,
      Nat.add_sub_cancel' (by omega), Char.ofNat_toNat]
  split at h
  · cases h
    refine ⟨by omega, ?_⟩
    rw [char, if_neg (by omega), if_neg (by omega), if_pos (by omega), Nat.add_sub_cancel,
      Nat.add_sub_cancel' (by omega), Char.ofNat_toNat]
  split at h
  · rename_i hc
    cases h
    exact ⟨by decide, hc.symm⟩
  split at h
  · rename_i hc
    cases h
    exact ⟨by decide, hc.symm⟩
  · cases h

/-! ## Decoding an encoding -/

private theorem ofNat_eq {x : UInt8} (h : n = x.toNat) : UInt8.ofNat n = x := by
  rw [h, UInt8.ofNat_toNat]

theorem decodeUrl?_encode (bs : List UInt8) : decodeUrl? (encode .urlSafe false bs) = some bs := by
  induction bs using encode.induct with
  | case1 => rfl
  | case2 x =>
    have hx := x.toNat_lt
    have hlast : x.toNat % 4 * 16 % 16 = 0 := by omega
    have hbyte : UInt8.ofNat (x.toNat / 4 * 4 + x.toNat % 4 * 16 / 16) = x := ofNat_eq (by omega)
    simp only [encode, Bool.false_eq_true, if_false, decodeUrl?]
    rw [Alphabet.value?_char _ (by omega), Alphabet.value?_char _ (by omega)]
    simp only [Option.bind_eq_bind, Option.bind_some, Option.pure_def, hlast, if_true, hbyte]
  | case3 x y =>
    have hx := x.toNat_lt
    have hy := y.toNat_lt
    generalize hn : x.toNat * 256 + y.toNat = n
    have hgroup : (n / 1024 * 64 + n / 16 % 64) * 64 + n % 16 * 4 = n * 4 := by omega
    have hlast : n * 4 % 4 = 0 := by omega
    have hfirst : UInt8.ofNat (n * 4 / 1024) = x := ofNat_eq (by omega)
    have hsecond : UInt8.ofNat (n * 4 / 4 % 256) = y := ofNat_eq (by omega)
    simp only [encode, Bool.false_eq_true, if_false, decodeUrl?, hn]
    rw [Alphabet.value?_char _ (by omega), Alphabet.value?_char _ (by omega),
      Alphabet.value?_char _ (by omega)]
    simp only [Option.bind_eq_bind, Option.bind_some, Option.pure_def, hgroup, hlast, if_true,
      hfirst, hsecond]
  | case4 x y z rest ih =>
    have hx := x.toNat_lt
    have hy := y.toNat_lt
    have hz := z.toNat_lt
    generalize hn : (x.toNat * 256 + y.toNat) * 256 + z.toNat = n
    have hgroup : ((n / 262144 * 64 + n / 4096 % 64) * 64 + n / 64 % 64) * 64 + n % 64 = n := by
      omega
    have hfirst : UInt8.ofNat (n / 65536) = x := ofNat_eq (by omega)
    have hsecond : UInt8.ofNat (n / 256 % 256) = y := ofNat_eq (by omega)
    have hthird : UInt8.ofNat (n % 256) = z := ofNat_eq (by omega)
    simp only [encode, decodeUrl?, hn, ih]
    rw [Alphabet.value?_char _ (by omega), Alphabet.value?_char _ (by omega),
      Alphabet.value?_char _ (by omega), Alphabet.value?_char _ (by omega)]
    simp only [Option.bind_eq_bind, Option.bind_some, Option.pure_def, hgroup, hfirst, hsecond,
      hthird]

/-! ## What is decoded was encoded -/

private theorem toNat_ofNat (h : n < 256) : (UInt8.ofNat n).toNat = n :=
  UInt8.toNat_ofNat_of_lt' h

theorem eq_encode_of_decodeUrl? (h : decodeUrl? cs = some bs) :
    cs = encode .urlSafe false bs := by
  induction cs using decodeUrl?.induct generalizing bs with
  | case1 =>
    simp only [decodeUrl?, Option.some.injEq] at h
    rw [← h, encode]
  | case2 c => simp only [decodeUrl?, reduceCtorEq] at h
  | case3 c d =>
    simp only [decodeUrl?, Option.bind_eq_bind, Option.bind_eq_some_iff] at h
    obtain ⟨p, hp, q, hq, h⟩ := h
    obtain ⟨hp64, rfl⟩ := Alphabet.char_of_value? hp
    obtain ⟨hq64, rfl⟩ := Alphabet.char_of_value? hq
    -- the last character is determined by the byte only because its other bits are zero
    obtain ⟨hlast, h⟩ := Option.ite_none_right_eq_some.mp h
    cases h
    have hbyte : (UInt8.ofNat (p * 4 + q / 16)).toNat = p * 4 + q / 16 := toNat_ofNat (by omega)
    have hfirst : (p * 4 + q / 16) / 4 = p := by omega
    have hsecond : (p * 4 + q / 16) % 4 * 16 = q := by omega
    simp only [encode, hbyte, hfirst, hsecond, Bool.false_eq_true, if_false]
  | case4 c d e =>
    simp only [decodeUrl?, Option.bind_eq_bind, Option.bind_eq_some_iff] at h
    obtain ⟨p, hp, q, hq, r, hr, h⟩ := h
    obtain ⟨hp64, rfl⟩ := Alphabet.char_of_value? hp
    obtain ⟨hq64, rfl⟩ := Alphabet.char_of_value? hq
    obtain ⟨hr64, rfl⟩ := Alphabet.char_of_value? hr
    generalize hn : (p * 64 + q) * 64 + r = n at h
    -- of eighteen bits sixteen are kept, and the other two are zero
    obtain ⟨hlast, h⟩ := Option.ite_none_right_eq_some.mp h
    cases h
    have hbytes : (UInt8.ofNat (n / 1024)).toNat * 256 + (UInt8.ofNat (n / 4 % 256)).toNat
        = n / 4 := by
      rw [toNat_ofNat (by omega), toNat_ofNat (by omega)]
      omega
    have hfirst : n / 4 / 1024 = p := by omega
    have hsecond : n / 4 / 16 % 64 = q := by omega
    have hthird : n / 4 % 16 * 4 = r := by omega
    simp only [encode, hbytes, hfirst, hsecond, hthird, Bool.false_eq_true, if_false]
  | case5 c d e f rest ih =>
    simp only [decodeUrl?, Option.bind_eq_bind, Option.bind_eq_some_iff] at h
    obtain ⟨p, hp, q, hq, r, hr, s, hs, bytes, hbytes, h⟩ := h
    obtain ⟨hp64, rfl⟩ := Alphabet.char_of_value? hp
    obtain ⟨hq64, rfl⟩ := Alphabet.char_of_value? hq
    obtain ⟨hr64, rfl⟩ := Alphabet.char_of_value? hr
    obtain ⟨hs64, rfl⟩ := Alphabet.char_of_value? hs
    generalize hn : ((p * 64 + q) * 64 + r) * 64 + s = n at h
    cases h
    have hgroup : ((UInt8.ofNat (n / 65536)).toNat * 256 + (UInt8.ofNat (n / 256 % 256)).toNat)
        * 256 + (UInt8.ofNat (n % 256)).toNat = n := by
      rw [toNat_ofNat (by omega), toNat_ofNat (by omega), toNat_ofNat (by omega)]
      omega
    have hfirst : n / 262144 = p := by omega
    have hsecond : n / 4096 % 64 = q := by omega
    have hthird : n / 64 % 64 = r := by omega
    have hfourth : n % 64 = s := by omega
    simp only [encode, hgroup, hfirst, hsecond, hthird, hfourth, ← ih hbytes]

/-- **Strict decoding accepts exactly the encodings.** -/
theorem decodeUrl?_eq_some_iff : decodeUrl? cs = some bs ↔ cs = encode .urlSafe false bs := by
  refine ⟨eq_encode_of_decodeUrl?, ?_⟩
  rintro rfl
  exact decodeUrl?_encode bs

/-! ## Being an encoding -/

/-- The text is the unpadded URL-safe encoding of some byte string. -/
def IsEncoding (cs : List Char) : Prop := ∃ bs, cs = encode .urlSafe false bs

theorem isUrlEncoding_iff : isUrlEncoding cs = true ↔ IsEncoding cs := by
  rw [isUrlEncoding, Option.isSome_iff_exists]
  exact exists_congr fun _ ↦ decodeUrl?_eq_some_iff

instance : Decidable (IsEncoding cs) := decidable_of_iff _ isUrlEncoding_iff

/-- What can be seen on an encoding without reading it back. -/
structure IsSound (cs : List Char) : Prop where
  /-- No single character is left over behind the groups of four. -/
  length : cs.length % 4 ≠ 1
  /-- Every character is one of the alphabet. -/
  characters : ∀ c ∈ cs, ∃ n, Alphabet.urlSafe.value? c = some n
  /-- Where two are left over, the last four bits are zero. -/
  two : cs.length % 4 = 2 → ∀ c ∈ cs.getLast?, ∀ n ∈ Alphabet.urlSafe.value? c, n % 16 = 0
  /-- Where three are left over, the last two bits are zero. -/
  three : cs.length % 4 = 3 → ∀ c ∈ cs.getLast?, ∀ n ∈ Alphabet.urlSafe.value? c, n % 4 = 0

private theorem isUrlEncoding_pair_iff {c d : Char} :
    isUrlEncoding [c, d] = true ↔ IsSound [c, d] := by
  constructor
  · intro h
    obtain ⟨bytes, h⟩ := Option.isSome_iff_exists.mp h
    simp only [decodeUrl?, Option.bind_eq_bind, Option.bind_eq_some_iff,
      Option.ite_none_right_eq_some] at h
    obtain ⟨p, hp, q, hq, hlast, -⟩ := h
    exact ⟨by simp, by simp [hp, hq], by simp [hq, hlast], by simp⟩
  · rintro ⟨-, hall, htwo, -⟩
    obtain ⟨p, hp⟩ := hall c (by simp)
    obtain ⟨q, hq⟩ := hall d (by simp)
    have hlast : q % 16 = 0 := htwo rfl d rfl q hq
    simp [isUrlEncoding, decodeUrl?, hp, hq, hlast]

private theorem isUrlEncoding_triple_iff {c d e : Char} :
    isUrlEncoding [c, d, e] = true ↔ IsSound [c, d, e] := by
  constructor
  · intro h
    obtain ⟨bytes, h⟩ := Option.isSome_iff_exists.mp h
    simp only [decodeUrl?, Option.bind_eq_bind, Option.bind_eq_some_iff,
      Option.ite_none_right_eq_some] at h
    obtain ⟨p, hp, q, hq, r, hr, hgroup, -⟩ := h
    have hlast : r % 4 = 0 := by omega
    exact ⟨by simp, by simp [hp, hq, hr], by simp, by simp [hr, hlast]⟩
  · rintro ⟨-, hall, -, hthree⟩
    obtain ⟨p, hp⟩ := hall c (by simp)
    obtain ⟨q, hq⟩ := hall d (by simp)
    obtain ⟨r, hr⟩ := hall e (by simp)
    have hlast : r % 4 = 0 := hthree rfl e rfl r hr
    have hgroup : ((p * 64 + q) * 64 + r) % 4 = 0 := by omega
    simp [isUrlEncoding, decodeUrl?, hp, hq, hr, hgroup]

private theorem isUrlEncoding_cons_iff {c d e f : Char} :
    isUrlEncoding (c :: d :: e :: f :: cs) = true ↔
      (∀ g ∈ [c, d, e, f], ∃ n, Alphabet.urlSafe.value? g = some n) ∧
        isUrlEncoding cs = true := by
  constructor
  · intro h
    obtain ⟨bytes, h⟩ := Option.isSome_iff_exists.mp h
    simp only [decodeUrl?, Option.bind_eq_bind, Option.bind_eq_some_iff] at h
    obtain ⟨p, hp, q, hq, r, hr, s, hs, rest, hrest, -⟩ := h
    exact ⟨by simp [hp, hq, hr, hs], Option.isSome_iff_exists.mpr ⟨rest, hrest⟩⟩
  · rintro ⟨hall, h⟩
    obtain ⟨p, hp⟩ := hall c (by simp)
    obtain ⟨q, hq⟩ := hall d (by simp)
    obtain ⟨r, hr⟩ := hall e (by simp)
    obtain ⟨s, hs⟩ := hall f (by simp)
    obtain ⟨bytes, hbytes⟩ := Option.isSome_iff_exists.mp h
    simp [isUrlEncoding, decodeUrl?, hp, hq, hr, hs, hbytes]

private theorem isSound_append_iff {group : List Char} (hgroup : group.length = 4) :
    IsSound (group ++ cs) ↔
      (∀ g ∈ group, ∃ n, Alphabet.urlSafe.value? g = some n) ∧ IsSound cs := by
  have hlength : (group ++ cs).length % 4 = cs.length % 4 := by
    rw [List.length_append, hgroup, Nat.add_mod_left]
  have hlast (h : cs.length % 4 ≠ 0) : (group ++ cs).getLast? = cs.getLast? := by
    refine List.getLast?_append_of_ne_nil _ ?_
    rintro rfl
    exact h rfl
  constructor
  · rintro ⟨hrest, hall, htwo, hthree⟩
    rw [hlength] at hrest htwo hthree
    refine ⟨fun g hg ↦ hall g (List.mem_append_left _ hg), hrest,
      fun g hg ↦ hall g (List.mem_append_right _ hg), fun h ↦ ?_, fun h ↦ ?_⟩
    · rw [← hlast (by omega)]
      exact htwo h
    · rw [← hlast (by omega)]
      exact hthree h
  · rintro ⟨hall, hrest, hall', htwo, hthree⟩
    refine ⟨by rwa [hlength], fun g hg ↦ (List.mem_append.mp hg).elim (hall g) (hall' g),
      fun h ↦ ?_, fun h ↦ ?_⟩
    · rw [hlength] at h
      rw [hlast (by omega)]
      exact htwo h
    · rw [hlength] at h
      rw [hlast (by omega)]
      exact hthree h

/-- The encodings are the texts of the alphabet, of a possible length, whose last character has no
bit too many. -/
theorem isEncoding_iff_isSound : IsEncoding cs ↔ IsSound cs := by
  rw [← isUrlEncoding_iff]
  induction cs using decodeUrl?.induct with
  | case1 => exact iff_of_true rfl ⟨by simp, by simp, by simp, by simp⟩
  | case2 c => exact iff_of_false Bool.false_ne_true fun h ↦ h.length rfl
  | case3 c d => exact isUrlEncoding_pair_iff
  | case4 c d e => exact isUrlEncoding_triple_iff
  | case5 c d e f rest ih =>
    have hgroup : [c, d, e, f].length = 4 := rfl
    rw [isUrlEncoding_cons_iff, ih]
    exact (isSound_append_iff hgroup).symm

end PasskeyCeremony.Base64
