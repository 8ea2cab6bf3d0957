import PasskeyCeremony.Proofs.Url.Segments

/-!
# Addresses of the web

An address of the web has a scheme of HTTP, a host and a path of segments. Every text that is read
as an address with such a scheme is one (`isWeb_of_ofText`). A path that begins with a slash
replaces the path of such an address, together with its query and fragment, and leaves scheme and
authority as they are (`read_segments`).
-/

namespace PasskeyCeremony.Url

open Text Percent

structure IsWeb (u : Url) : Prop where
  isHttp : u.isHttp = true
  host : ∃ a h, u.authority = some a ∧ a.host = some h
  path : ∃ ss, u.path = .segments ss

theorem kindOf_of_isHttp {u : Url} (h : u.isHttp = true) : kindOf u.scheme = .network := by
  rw [Url.isHttp, Bool.or_eq_true, beq_iff_eq, beq_iff_eq] at h
  rcases h with h | h <;> rw [h] <;> rfl

/-! ## Reading -/

theorem afterAuthority_eq (scheme : String) (a : Authority) (cs : List Char) :
    (afterAuthority scheme a cs).scheme = scheme ∧
      (afterAuthority scheme a cs).authority = some a ∧
      ∃ ss, (afterAuthority scheme a cs).path = .segments ss := by
  cases cs with
  | nil =>
    simp only [afterAuthority]
    split <;> exact ⟨rfl, rfl, _, rfl⟩
  | cons c rest =>
    simp only [afterAuthority]
    split
    · exact ⟨rfl, rfl, _, rfl⟩
    · split <;> exact ⟨rfl, rfl, _, rfl⟩

theorem readHost_ne_none {kind : SchemeKind} (hkind : kind.isSpecial = true) {cs : List Char}
    {host : Option Host} (h : readHost kind cs = .ok host) : host ≠ none := by
  rw [readHost, if_pos hkind] at h
  split at h
  · cases h
  · cases hhost : specialHost cs with
    | error _ => rw [hhost] at h; cases h
    | ok _ => rw [hhost] at h; cases h; exact Option.some_ne_none _

private theorem bind_eq_ok {α β : Type} {x : Except Fault α} {f : α → Except Fault β} {b : β}
    (h : (x >>= f) = .ok b) : ∃ a, x = .ok a ∧ f a = .ok b := by
  cases x with
  | error _ => cases h
  | ok a => exact ⟨a, rfl, h⟩

theorem readAuthority_eq_ok {scheme : String} {cs : List Char} {u : Url}
    (h : readAuthority scheme cs = .ok u) :
    u.scheme = scheme ∧ (∃ ss, u.path = .segments ss) ∧
      ∃ a, u.authority = some a ∧ ((kindOf scheme).isSpecial = true → a.host ≠ none) := by
  simp only [readAuthority] at h
  split at h
  · cases h
  obtain ⟨host, hhost, h⟩ := bind_eq_ok h
  split at h
  · cases h
  obtain ⟨port, -, h⟩ := bind_eq_ok h
  split at h
  · cases h
  obtain rfl := Except.ok.inj h
  obtain ⟨hscheme, hauthority, hpath⟩ := afterAuthority_eq scheme _ _
  exact ⟨hscheme, hpath, _, hauthority, fun hspecial ↦ readHost_ne_none hspecial hhost⟩

private theorem scheme_of_readFileHost {cs : List Char} {u : Url} (h : readFileHost cs = .ok u) :
    u.scheme = "file" := by
  simp only [readFileHost] at h
  split at h
  · cases h; rfl
  split at h
  · cases h; rfl
  obtain ⟨host, -, h⟩ := bind_eq_ok h
  split at h
  · cases h; rfl
  · cases h; rfl

theorem scheme_of_readFile {cs : List Char} {u : Url} (h : readFile none cs = .ok u) :
    u.scheme = "file" := by
  match cs with
  | [] => cases h; rfl
  | [c] => cases h; rfl
  | c :: d :: rest =>
    simp only [readFile] at h
    split at h
    · exact scheme_of_readFileHost h
    · split at h <;> cases h <;> rfl

theorem readOther_eq_ok {scheme : String} {cs : List Char} {u : Url}
    (h : readOther scheme cs = .ok u) : u.scheme = scheme := by
  rw [readOther.eq_def] at h
  split at h
  · exact (readAuthority_eq_ok h).1
  · cases h
    rfl
  · cases h
    rfl

/-- **Every text that is read as an address with a scheme of HTTP** is an address of the web. -/
theorem isWeb_of_ofText {text : String} {u : Url} (h : ofText text = .ok u)
    (hhttp : u.isHttp = true) : u.IsWeb := by
  have hnetwork := kindOf_of_isHttp hhttp
  rw [ofText, read] at h
  split at h
  · rename_i scheme rest _
    rw [readAfterScheme] at h
    split at h
    · rw [Option.filter_none] at h
      rw [scheme_of_readFile h] at hnetwork
      cases hnetwork
    · rename_i hother
      rw [readOther_eq_ok h, hother] at hnetwork
      cases hnetwork
    · rename_i hkind
      obtain ⟨-, hpath, a, hauthority, hhost⟩ := readAuthority_eq_ok h
      rw [hkind] at hhost
      obtain ⟨host, hhost⟩ := Option.ne_none_iff_exists'.mp (hhost rfl)
      exact ⟨hhttp, ⟨a, host, hauthority, hhost⟩, hpath⟩
  · cases h

/-! ## Resolving -/

theorem readRelative_slash (base : Url) {cs : List Char}
    (h : ∀ c ∈ cs.head?, isEitherSlash c = false) :
    readRelative base ('/' :: cs) = .ok (withPath base.scheme base.authority [] cs) := by
  cases cs with
  | nil => rfl
  | cons c cs =>
    have hc : isEitherSlash c = false := h c rfl
    have hne : c ≠ '/' := by
      rintro rfl
      cases hc
    rw [readRelative, if_pos (by decide)]
    · simp only [hc, Bool.false_eq_true, if_false]
    · exact fun hash ↦ absurd hash (by decide)
    · exact fun mark ↦ absurd mark (by decide)
    · exact fun _ _ hcons ↦ hne (List.cons.inj hcons).1

theorem readWithoutScheme_slash {base : Url} (hbase : base.IsWeb) (cs : List Char) :
    readWithoutScheme base ('/' :: cs) = readRelative base ('/' :: cs) := by
  obtain ⟨ss, hss⟩ := hbase.path
  rw [readWithoutScheme.eq_def, hss]
  split
  · rename_i hash
    exact absurd (List.cons.inj hash).1 (by decide)
  · rename_i rootless _
    cases rootless
  · rw [kindOf_of_isHttp hbase.isHttp, if_neg (by decide)]

section Segments

variable {first : List Char} {rest : List (List Char)}
  (hfirst : ∀ c ∈ first, isSegmentChar c = true)
  (hrest : ∀ s ∈ rest, ∀ c ∈ s, isSegmentChar c = true)

include hfirst hrest

private theorem mem_path {c : Char} (hc : c ∈ first ++ rest.flatMap ('/' :: ·)) :
    c = '/' ∨ isSegmentChar c = true := by
  rcases List.mem_append.mp hc with hc | hc
  · exact Or.inr (hfirst c hc)
  · obtain ⟨s, hs, hc⟩ := List.mem_flatMap.mp hc
    rcases List.mem_cons.mp hc with rfl | hc
    · exact Or.inl rfl
    · exact Or.inr (hrest s hs c hc)

/-- A path of encoded segments is nothing but path, and its slashes are where it is split. -/
theorem withPath_segments {scheme : String} (hkind : kindOf scheme = .network)
    (authority : Option Authority) :
    withPath scheme authority [] (first ++ rest.flatMap ('/' :: ·)) =
      ⟨scheme, authority, .segments (addSegments .network [] (first :: rest)), none, none⟩ := by
  have hends : ∀ c ∈ first ++ rest.flatMap ('/' :: ·), (!endsPath c) = true := by
    intro c hc
    rcases mem_path hfirst hrest hc with rfl | hc
    · rfl
    · rw [(reads_isSegmentChar hc).2.2.1]
      rfl
  have hsplit : splitAt (isSlash .network) (first ++ rest.flatMap ('/' :: ·)) = first :: rest :=
    splitAt_append_flatMap rfl (fun c hc ↦ isSlash_of_isSegmentChar (hfirst c hc))
      fun s hs c hc ↦ isSlash_of_isSegmentChar (hrest s hs c hc)
  have htail : pathTail (first ++ rest.flatMap ('/' :: ·)) = [] := dropWhile_eq_nil hends
  have hpath : (first ++ rest.flatMap ('/' :: ·)).takeWhile (!endsPath ·) =
      first ++ rest.flatMap ('/' :: ·) := takeWhile_eq_self hends
  simp only [withPath, hkind, htail, readPath, hpath, hsplit]
  rw [if_neg (by decide)]
  rfl

/-- **A path of encoded segments, resolved** against an address of the web. Only its first segment
can be empty, and only if it is the last one too: two slashes would begin an authority. -/
theorem read_segments {base : Url} (hbase : base.IsWeb) (hempty : first = [] → rest = []) :
    read (some base) ('/' :: (first ++ rest.flatMap ('/' :: ·))) =
      .ok ⟨base.scheme, base.authority, .segments (addSegments .network [] (first :: rest)), none,
        none⟩ := by
  have hclean : clean ('/' :: (first ++ rest.flatMap ('/' :: ·))) =
      '/' :: (first ++ rest.flatMap ('/' :: ·)) := by
    refine clean_eq_self fun c hc ↦ ?_
    rcases List.mem_cons.mp hc with rfl | hc
    · decide
    · rcases mem_path hfirst hrest hc with rfl | hc
      · decide
      · exact (reads_isSegmentChar hc).1
  have hhead : ∀ c ∈ (first ++ rest.flatMap ('/' :: ·)).head?, isEitherSlash c = false := by
    intro c hc
    cases first with
    | nil =>
      rw [hempty rfl] at hc
      cases hc
    | cons d ds =>
      obtain rfl := Option.some.inj hc
      exact (reads_isSegmentChar (hfirst d List.mem_cons_self)).2.1
  have hscheme : splitScheme? ('/' :: (first ++ rest.flatMap ('/' :: ·))) = none := by
    rw [splitScheme?, if_neg (by decide)]
  simp only [read, hclean, hscheme]
  rw [readWithoutScheme_slash hbase, readRelative_slash base hhead,
    withPath_segments hfirst hrest (kindOf_of_isHttp hbase.isHttp) base.authority]

end Segments

end PasskeyCeremony.Url
