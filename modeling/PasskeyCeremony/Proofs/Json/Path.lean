import Mathlib.Data.List.Nodup
import PasskeyCeremony.Proofs.Json.Inside
import PasskeyCeremony.Proofs.Json.Members

/-!
# Paths into a JSON value

A path is a row of steps, each to the member under a key or to the item at an index. `at?` looks a
path up, and `nodes` lists everything that a value has inside it together with its path, itself
first. Both are read off the children of a value, so that a proof about documents treats arrays and
objects as one case (`child_induction`).

In an ordered document the list of nodes is a tour (`isTour_nodes`): it holds exactly the paths at
which there is a value, in the order of a walk that takes items by index and members by key. The
order of the members is needed for either half, because a key that stands twice leads to the first
of its members only.
-/

namespace PasskeyCeremony

namespace Json

/-! ## Steps and children -/

/-- A step from a value to one inside it. -/
inductive Step where
  /-- To the member of an object under a key. -/
  | key (key : String)
  /-- To an item of an array. -/
  | index (i : Nat)
  deriving DecidableEq, Repr

/-- The way from a value to one inside it. -/
abbrev Path := List Step

/-- The order in which the children of a value are visited. -/
inductive Step.Before : Step → Step → Prop where
  | key {k l : String} (h : k < l) : Before (.key k) (.key l)
  | index {i j : Nat} (h : i < j) : Before (.index i) (.index j)

def child? : Json → Step → Option Json
  | .object ms, .key k => Members.get? ms k
  | .array items, .index i => items[i]?
  | _, _ => none

def at? : Json → Path → Option Json
  | v, [] => some v
  | v, step :: path => (v.child? step).bind fun w ↦ w.at? path

/-- The values right inside a value, with the steps to them. -/
def children : Json → List (Step × Json)
  | .array items => items.zipIdx.map fun x ↦ (.index x.2, x.1)
  | .object ms => ms.map fun m ↦ (.key m.1, m.2)
  | _ => []

theorem IsScalar.children {v : Json} (hv : v.IsScalar) : v.children = [] := by
  cases v with
  | array _ | object _ => exact hv.elim
  | null | bool _ | number _ | string _ => rfl

/-- Induction on a value through its children. -/
@[elab_as_elim]
theorem child_induction {motive : Json → Prop}
    (step : ∀ v, (∀ c ∈ v.children, motive c.2) → motive v) (v : Json) : motive v := by
  induction v using nested_induction with
  | scalar v hv =>
    refine step v fun c hc ↦ ?_
    rw [hv.children] at hc
    exact absurd hc List.not_mem_nil
  | array items ih =>
    refine step _ fun c hc ↦ ?_
    obtain ⟨x, hx, rfl⟩ := List.mem_map.mp hc
    exact ih x.1 (List.mem_of_getElem? (List.mem_zipIdx_iff_getElem?.mp hx))
  | object ms ih =>
    refine step _ fun c hc ↦ ?_
    obtain ⟨m, hm, rfl⟩ := List.mem_map.mp hc
    exact ih m hm

/-! ## Ordered documents -/

theorem orderedItems_iff {items : List Json} : OrderedItems items ↔ ∀ v ∈ items, v.Ordered := by
  induction items with
  | nil => simp [OrderedItems]
  | cons v rest ih => simp [OrderedItems, ih]

theorem orderedMembers_iff {ms : List (String × Json)} :
    OrderedMembers ms ↔ ∀ m ∈ ms, m.2.Ordered := by
  induction ms with
  | nil => simp [OrderedMembers]
  | cons m rest ih => simp [OrderedMembers, ih]

theorem pairwise_zipIdx (items : List Json) (i : Nat) :
    (items.zipIdx i).Pairwise fun x y ↦ x.2 < y.2 := by
  induction items generalizing i with
  | nil => exact List.Pairwise.nil
  | cons v rest ih =>
    rw [List.zipIdx_cons, List.pairwise_cons]
    exact ⟨fun _ hx ↦ List.le_snd_of_mem_zipIdx hx, ih (i + 1)⟩

/-- A document is ordered when the steps to its children are and its children are documents that
are ordered. The steps to items always are. -/
theorem ordered_iff {v : Json} :
    v.Ordered ↔
      v.children.Pairwise (fun c d ↦ c.1.Before d.1) ∧ ∀ c ∈ v.children, c.2.Ordered := by
  cases v with
  | null | bool _ | number _ | string _ => simp [Ordered, children]
  | array items =>
    have hsteps : (Json.array items).children.Pairwise fun c d ↦ c.1.Before d.1 :=
      List.pairwise_map.mpr ((pairwise_zipIdx items 0).imp Step.Before.index)
    rw [Ordered, orderedItems_iff, and_iff_right hsteps, children, List.forall_mem_map]
    constructor
    · exact fun h x hx ↦ h x.1 (List.mem_of_getElem? (List.mem_zipIdx_iff_getElem?.mp hx))
    · intro h v hv
      obtain ⟨i, hi⟩ := List.getElem?_of_mem hv
      exact h (v, i) (List.mem_zipIdx_iff_getElem?.mpr hi)
  | object ms =>
    have hsteps : (Json.object ms).children.Pairwise (fun c d ↦ c.1.Before d.1) ↔
        Members.Sorted ms := by
      rw [children, List.pairwise_map, Members.Sorted, List.pairwise_map]
      refine ⟨fun h ↦ h.imp ?_, fun h ↦ h.imp Step.Before.key⟩
      rintro m n ⟨hkey⟩
      exact hkey
    rw [Ordered, orderedMembers_iff, hsteps, children, List.forall_mem_map]

theorem Ordered.child {v w : Json} {step : Step} (hv : v.Ordered) (h : (step, w) ∈ v.children) :
    w.Ordered := (ordered_iff.mp hv).2 _ h

theorem mem_children_iff {v w : Json} {step : Step} (hv : v.Ordered) :
    (step, w) ∈ v.children ↔ v.child? step = some w := by
  cases v with
  | null | bool _ | number _ | string _ => exact iff_of_false List.not_mem_nil nofun
  | array items =>
    rw [children, List.mem_map]
    cases step with
    | key k => simp [child?]
    | index i =>
      rw [child?, ← List.mem_zipIdx_iff_getElem? (x := (w, i))]
      simp
  | object ms =>
    rw [Ordered] at hv
    rw [children, List.mem_map]
    cases step with
    | key k =>
      rw [child?, Members.get?_eq_some_iff hv.1]
      simp
    | index i => simp [child?]

theorem child?_key {ms : List (String × Json)} {key : String} {v : Json}
    (hms : (Json.object ms).Ordered) (h : (key, v) ∈ ms) :
    (Json.object ms).child? (.key key) = some v :=
  (mem_children_iff hms).mp (List.mem_map.mpr ⟨_, h, rfl⟩)

/-! ## Nodes -/

/-- Nodes as they are seen from one step further up. -/
def under (step : Step) (nodes : List (Path × Json)) : List (Path × Json) :=
  nodes.map fun n ↦ (step :: n.1, n.2)

mutual

/-- Everything inside a value, the value itself included, with the paths to it. A value comes before
what is inside it. -/
def nodes : Json → List (Path × Json)
  | .array items => ([], .array items) :: itemNodes 0 items
  | .object ms => ([], .object ms) :: memberNodes ms
  | v => [([], v)]

/-- The nodes of items, of which the first one has the index `i`. -/
def itemNodes (i : Nat) : List Json → List (Path × Json)
  | [] => []
  | v :: rest => under (.index i) v.nodes ++ itemNodes (i + 1) rest

/-- The nodes of members. -/
def memberNodes : List (String × Json) → List (Path × Json)
  | [] => []
  | (k, v) :: rest => under (.key k) v.nodes ++ memberNodes rest

end

private theorem itemNodes_eq (items : List Json) (i : Nat) :
    itemNodes i items = (items.zipIdx i).flatMap fun x ↦ under (.index x.2) x.1.nodes := by
  induction items generalizing i with
  | nil => rw [itemNodes, List.zipIdx_nil, List.flatMap_nil]
  | cons v rest ih => rw [itemNodes, ih, List.zipIdx_cons, List.flatMap_cons]

private theorem memberNodes_eq (ms : List (String × Json)) :
    memberNodes ms = ms.flatMap fun m ↦ under (.key m.1) m.2.nodes := by
  induction ms with
  | nil => rw [memberNodes, List.flatMap_nil]
  | cons m rest ih => rw [memberNodes, ih, List.flatMap_cons]

/-- The nodes of a value are itself and the nodes of its children. -/
theorem nodes_eq (v : Json) :
    v.nodes = ([], v) :: v.children.flatMap fun c ↦ under c.1 c.2.nodes := by
  cases v with
  | null | bool _ | number _ | string _ => simp [nodes, children]
  | array items => rw [nodes, itemNodes_eq, children, List.flatMap_map]
  | object ms => rw [nodes, memberNodes_eq, children, List.flatMap_map]

theorem mem_under_iff {step step' : Step} {nodes : List (Path × Json)} {path : Path} {w : Json} :
    (step' :: path, w) ∈ under step nodes ↔ step' = step ∧ (path, w) ∈ nodes := by
  rw [under, List.mem_map]
  constructor
  · rintro ⟨n, hn, h⟩
    obtain ⟨hpath, rfl⟩ := Prod.mk.inj h
    obtain ⟨rfl, rfl⟩ := List.cons.inj hpath
    exact ⟨rfl, hn⟩
  · rintro ⟨rfl, hn⟩
    exact ⟨_, hn, rfl⟩

theorem exists_of_mem_under {step : Step} {nodes : List (Path × Json)} {n : Path × Json}
    (h : n ∈ under step nodes) : ∃ path, n.1 = step :: path ∧ (path, n.2) ∈ nodes := by
  obtain ⟨m, hm, rfl⟩ := List.mem_map.mp h
  exact ⟨m.1, rfl, hm⟩

/-- A list of places in a value that misses none, counts none twice and has them in the order of a
walk: a value before what is inside it, items by their index and members by their key. -/
structure IsTour (v : Json) (tour : List (Path × Json)) : Prop where
  /-- It holds what the paths lead to, and nothing else. -/
  complete : ∀ path w, (path, w) ∈ tour ↔ v.at? path = some w
  /-- Every place comes after all that are before it in the order of paths. -/
  ordered : tour.Pairwise fun m n ↦ List.Lex Step.Before m.1 n.1

private theorem mem_nodes_iff {v : Json} (hv : v.Ordered) (path : Path) (w : Json) :
    (path, w) ∈ v.nodes ↔ v.at? path = some w := by
  induction v using child_induction generalizing path with
  | step v ih =>
    rw [nodes_eq, List.mem_cons, List.mem_flatMap]
    cases path with
    | nil =>
      have hnot : ¬∃ c ∈ v.children, ([], w) ∈ under c.1 c.2.nodes := by
        rintro ⟨c, -, hc⟩
        obtain ⟨_, h, -⟩ := exists_of_mem_under hc
        cases h
      rw [or_iff_left hnot, at?, Option.some_inj, Prod.ext_iff, and_iff_right rfl, eq_comm]
    | cons step path =>
      rw [or_iff_right fun h ↦ List.cons_ne_nil _ _ (congrArg Prod.fst h), at?,
        Option.bind_eq_some_iff]
      constructor
      · rintro ⟨c, hc, hunder⟩
        obtain ⟨rfl, hw⟩ := mem_under_iff.mp hunder
        exact ⟨c.2, (mem_children_iff hv).mp hc, (ih c hc (hv.child hc) path).mp hw⟩
      · rintro ⟨u, hu, hw⟩
        have hc := (mem_children_iff hv).mpr hu
        exact ⟨_, hc, mem_under_iff.mpr ⟨rfl, (ih _ hc (hv.child hc) path).mpr hw⟩⟩

private theorem pairwise_nodes {v : Json} (hv : v.Ordered) :
    v.nodes.Pairwise fun m n ↦ List.Lex Step.Before m.1 n.1 := by
  induction v using child_induction with
  | step v ih =>
    rw [nodes_eq, List.pairwise_cons, List.pairwise_flatMap]
    -- the empty path is the first one; below one child paths go on in the order they have there,
    -- and below two children their first steps decide
    refine ⟨fun n hn ↦ ?_, fun c hc ↦ ?_, (ordered_iff.mp hv).1.imp fun hcd m hm n hn ↦ ?_⟩
    · obtain ⟨c, -, hc⟩ := List.mem_flatMap.mp hn
      obtain ⟨path, hpath, -⟩ := exists_of_mem_under hc
      rw [hpath]
      exact List.Lex.nil
    · exact List.pairwise_map.mpr ((ih c hc (hv.child hc)).imp List.Lex.cons)
    · obtain ⟨_, hm, -⟩ := exists_of_mem_under hm
      obtain ⟨_, hn, -⟩ := exists_of_mem_under hn
      rw [hm, hn]
      exact List.Lex.rel hcd

private theorem Step.Before.asymm {a b : Step} (h : a.Before b) : ¬b.Before a := by
  cases h with
  | key h =>
    rintro ⟨h'⟩
    exact String.lt_asymm h h'
  | index h =>
    rintro ⟨h'⟩
    omega

theorem IsTour.unique {v : Json} {s t : List (Path × Json)} (hs : v.IsTour s) (ht : v.IsTour t) :
    s = t := by
  have hnodup {l : List (Path × Json)} (hl : v.IsTour l) : l.Nodup := by
    refine hl.ordered.imp ?_
    rintro m _ hlex rfl
    exact List.lex_irrefl (fun _ h ↦ Step.Before.asymm h h) _ hlex
  have hperm : s.Perm t := (List.perm_ext_iff_of_nodup (hnodup hs) (hnodup ht)).mpr fun n ↦
    (hs.complete n.1 n.2).trans (ht.complete n.1 n.2).symm
  refine List.Perm.eq_of_pairwise (fun m n _ _ hmn hnm ↦ ?_) hs.ordered ht.ordered hperm
  exact absurd hnm (List.lex_asymm Step.Before.asymm hmn)

/-- **The nodes of an ordered document are a tour of it.** -/
theorem isTour_nodes {v : Json} (hv : v.Ordered) : v.IsTour v.nodes :=
  ⟨mem_nodes_iff hv, pairwise_nodes hv⟩

end Json

end PasskeyCeremony
