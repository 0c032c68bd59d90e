import TaggedLibrary.Proofs.MadeDirectories
import TaggedLibrary.ScannedTrack
/-!
Directories below which every node has one name in one directory, and no node is a link. They stay
so whatever is added to a tree, and what was not below them does not get there.
-/

namespace TaggedLibrary.FileTree

open TaggedLibrary.Path (IsNormal)

/-- `IsEntry t i n child`: directory `i` has the name `n` for node `child`. -/
def IsEntry (t : FileTree) (i : Nat) (n : Bytes) (child : Nat) : Prop :=
  ∃ parent entries, t.node? i = some (.directory parent entries) ∧ (n, child) ∈ entries

/-- The nodes to which names lead from directory `d` downwards. -/
inductive Below (t : FileTree) (d : Nat) : Nat → Prop
  | top : Below t d d
  | entry {i child : Nat} {n : Bytes} (hi : Below t d i) (he : IsEntry t i n child) :
      Below t d child

/-- Below a directory there are neither symbolic nor hard links. -/
structure Plain (t : FileTree) (d : Nat) : Prop where
  noLink : ∀ {i}, Below t d i → ¬ IsLink (t.node? i)
  inside : ∀ {i n child}, Below t d i → IsEntry t i n child → child < t.nodes.size
  top : ∀ {i n}, Below t d i → ¬ IsEntry t i n d
  unique : ∀ {i j n m child}, Below t d i → Below t d j → IsEntry t i n child →
    IsEntry t j m child → i = j ∧ n = m

/-- The names in a node, if it is a directory. -/
def namesIn : Node → List (Bytes × Nat)
  | .directory _ entries => entries
  | _ => []

def isLinkNode : Node → Bool
  | .link _ => true
  | _ => false

/-- No node is a link, and each name has a node to itself, with a higher number than its
directory. -/
def OwnNodes (t : FileTree) : Prop :=
  (∀ n ∈ t.nodes.toList, isLinkNode n = false) ∧
  ∀ i : Fin t.nodes.size, ∀ e ∈ namesIn t.nodes[i], i < e.2 ∧ e.2 < t.nodes.size ∧
    ∀ j : Fin t.nodes.size, ∀ e' ∈ namesIn t.nodes[j], e'.2 = e.2 → i = j ∧ e = e'

instance (t : FileTree) : Decidable (OwnNodes t) := inferInstanceAs (Decidable (_ ∧ _))

theorem mem_namesIn {t : FileTree} {i child : Nat} {n : Bytes} (h : IsEntry t i n child) :
    ∃ hi : i < t.nodes.size, (n, child) ∈ namesIn t.nodes[i] := by
  obtain ⟨parent, entries, hi, hm⟩ := h
  obtain ⟨hlt, hget⟩ := Array.getElem?_eq_some_iff.mp hi
  exact ⟨hlt, by rw [hget]; exact hm⟩

/-- Names lead to nodes with higher numbers. -/
theorem OwnNodes.le_of_below {t : FileTree} (h : OwnNodes t) {d i : Nat} (hb : Below t d i) :
    d ≤ i := by
  induction hb with
  | top => exact Nat.le_refl _
  | entry _ he ih =>
    obtain ⟨hi, hm⟩ := mem_namesIn he
    exact Nat.le_trans ih (Nat.le_of_lt (h.2 ⟨_, hi⟩ _ hm).1)

/-- Where each name has a node to itself, all directories are plain. -/
theorem plain_of_ownNodes {t : FileTree} (h : OwnNodes t) (d : Nat) : Plain t d := by
  constructor
  · rintro i _ ⟨target, hi⟩
    have hnode := h.1 _ (Array.mem_toList_iff.mpr (Array.mem_of_getElem? hi))
    cases hnode
  · intro i n child _ he
    obtain ⟨hi, hm⟩ := mem_namesIn he
    exact (h.2 ⟨i, hi⟩ _ hm).2.1
  · intro i n hb he
    obtain ⟨hi, hm⟩ := mem_namesIn he
    exact Nat.not_lt.mpr (h.le_of_below hb) (h.2 ⟨i, hi⟩ _ hm).1
  · intro i j n m child _ _ he he'
    obtain ⟨hi, hm⟩ := mem_namesIn he
    obtain ⟨hj, hm'⟩ := mem_namesIn he'
    obtain ⟨hij, hnm⟩ := (h.2 ⟨i, hi⟩ _ hm).2.2 ⟨j, hj⟩ _ hm' rfl
    exact ⟨congrArg Fin.val hij, congrArg Prod.fst hnm⟩

section Changes

variable {dirs files : Path → Prop} {t t' : FileTree} {d i : Nat}

theorem IsEntry.lt {n : Bytes} {child : Nat} (h : IsEntry t i n child) : i < t.nodes.size := by
  obtain ⟨_, _, hi, _⟩ := h
  exact lt_size hi

theorem isEntry_addEntry {k parent : Nat} {entries : List (Bytes × Nat)} {name m : Bytes}
    {new : Node} {child : Nat} (hk : t.node? k = some (.directory parent entries))
    (hnew : ∀ up es, new = .directory up es → es = [])
    (h : IsEntry (t.addEntry k name new) i m child) :
    IsEntry t i m child ∨ i = k ∧ m = name ∧ child = t.nodes.size := by
  obtain ⟨up, es, hi, hm⟩ := h
  by_cases hik : i = k
  · subst hik
    rw [node?_addEntry_directory hk] at hi
    cases hi
    rcases List.mem_append.mp hm with hm | hm
    · exact Or.inl ⟨_, _, hk, hm⟩
    · cases List.mem_singleton.mp hm
      exact Or.inr ⟨rfl, rfl, rfl⟩
  · by_cases hsize : i = t.nodes.size
    · subst hsize
      rw [node?_addEntry_new hk] at hi
      rw [hnew up es (Option.some.inj hi)] at hm
      cases hm
    · rw [node?_addEntry_of_ne hk hik hsize] at hi
      exact Or.inl ⟨_, _, hi, hm⟩

/-- New contents for a file add no name. -/
theorem isEntry_setNode {k mode mode' : Nat} {bytes bytes' m : Bytes} {modified modified' : Instant}
    {child : Nat} (hk : t.node? k = some (.file bytes mode modified))
    (h : IsEntry (t.setNode k (.file bytes' mode' modified')) i m child) : IsEntry t i m child := by
  obtain ⟨up, es, hi, hm⟩ := h
  refine ⟨up, es, ?_, hm⟩
  rw [node?_setNode_of_ne] at hi
  · exact hi
  · rintro rfl
    rw [node?_setNode _ hk] at hi
    cases hi

/-- A change adds at most one name, for a new node, to a directory that was there. -/
theorem Change.isEntry (h : Change dirs files t t') : ∃ k name, k < t.nodes.size ∧
    ∀ {i m child}, IsEntry t' i m child → IsEntry t i m child ∨
      i = k ∧ m = name ∧ child = t.nodes.size ∧ child < t'.nodes.size := by
  cases h with
  | @directory _ d name _ _ _ _ hs =>
    obtain ⟨_, _, _, hd, _⟩ := hs.free_node
    refine ⟨d, name, lt_size hd, fun h => ?_⟩
    rcases isEntry_addEntry hd (fun _ _ he => by cases he; rfl) h with h | ⟨hi, hm, hc⟩
    · exact Or.inl h
    · exact Or.inr ⟨hi, hm, hc, by rw [hc, size_addEntry hd]; exact Nat.lt_succ_self _⟩
  | @file _ d _ name _ _ hs =>
    obtain ⟨_, _, _, hd, _⟩ := hs.free_node
    refine ⟨d, name, lt_size hd, fun h => ?_⟩
    rcases isEntry_addEntry hd (fun _ _ he => by cases he) h with h | ⟨hi, hm, hc⟩
    · exact Or.inl h
    · exact Or.inr ⟨hi, hm, hc, by rw [hc, size_addEntry hd]; exact Nat.lt_succ_self _⟩
  | @contents _ j _ _ _ _ _ hj =>
    exact ⟨j, [], lt_size hj, fun h => Or.inl (isEntry_setNode hj h)⟩

/-- What is below a directory after a change was there, or is new. -/
theorem Change.below (hc : Change dirs files t t') (hb : Below t' d i) :
    Below t d i ∨ i = t.nodes.size ∧ i < t'.nodes.size := by
  obtain ⟨k, name, hk, hentry⟩ := hc.isEntry
  induction hb with
  | top => exact Or.inl .top
  | entry _ he ih =>
    rcases hentry he with he | ⟨_, _, hnew⟩
    · rcases ih with hi | ⟨rfl, _⟩
      · exact Or.inl (.entry hi he)
      · exact absurd he.lt (Nat.lt_irrefl _)
    · exact Or.inr hnew

/-- What is below a directory stays below it. -/
theorem Below.changes (hb : Below t d i) (hc : Changes dirs files t t') : Below t' d i := by
  induction hb with
  | top => exact .top
  | entry _ he ih =>
    obtain ⟨parent, entries, hi, hm⟩ := he
    obtain ⟨more, hi'⟩ := (Changes.extends hc).directory hi
    exact .entry ih ⟨parent, _, hi', List.mem_append_left _ hm⟩

theorem Plain.change (hp : Plain t d) (hd : d < t.nodes.size) (hc : Change dirs files t t') :
    Plain t' d := by
  obtain ⟨k, name, hk, hentry⟩ := hc.isEntry
  have hext := hc.extends
  have hold : ∀ {i n child}, Below t' d i → IsEntry t i n child → Below t d i := by
    intro i n child hb he
    rcases hc.below hb with h | ⟨rfl, _⟩
    · exact h
    · exact absurd he.lt (Nat.lt_irrefl _)
  refine ⟨?_, ?_, ?_, ?_⟩
  · intro i hb
    rcases hc.below hb with h | ⟨rfl, _⟩
    · exact hext.not_isLink (hp.noLink h)
    · exact hext.fresh (Array.getElem?_eq_none (Nat.le_refl _))
  · intro i n child hb he
    rcases hentry he with he | ⟨_, _, _, hlt⟩
    · exact Nat.lt_of_lt_of_le (hp.inside (hold hb he) he) hext.size
    · exact hlt
  · intro i n hb he
    rcases hentry he with he | ⟨_, _, hnew, _⟩
    · exact hp.top (hold hb he) he
    · omega
  · intro i j n m child hi hj he he'
    rcases hentry he with he | ⟨rfl, rfl, hnew, _⟩
    · rcases hentry he' with he' | ⟨_, _, hnew', _⟩
      · exact hp.unique (hold hi he) (hold hj he') he he'
      · have := hp.inside (hold hi he) he
        omega
    · rcases hentry he' with he' | ⟨rfl, rfl, _, _⟩
      · have := hp.inside (hold hj he') he'
        omega
      · exact ⟨rfl, rfl⟩

/-- Changes keep a directory plain, and put none of the old nodes below it. -/
theorem Plain.changes (hp : Plain t d) (hd : d < t.nodes.size) (hc : Changes dirs files t t') :
    Plain t' d ∧ ∀ i < t.nodes.size, Below t' d i → Below t d i := by
  induction hc with
  | refl => exact ⟨hp, fun _ _ h => h⟩
  | @tail u v hc hlast ih =>
    obtain ⟨hu, hbelow⟩ := ih
    have hsize := Changes.extends hc |>.size
    refine ⟨hu.change (by omega) hlast, fun i hi hb => ?_⟩
    rcases hlast.below hb with h | ⟨rfl, _⟩
    · exact hbelow i hi h
    · omega

/-- Every name is an old one, or that of a new node. -/
theorem Changes.isEntry (h : Changes dirs files t t') {m : Bytes} {child : Nat}
    (he : IsEntry t' i m child) : IsEntry t i m child ∨ t.nodes.size ≤ child := by
  induction h with
  | refl => exact Or.inl he
  | tail hc hlast ih =>
    obtain ⟨_, _, _, hentry⟩ := hlast.isEntry
    rcases hentry he with he | ⟨_, _, rfl, _⟩
    · exact ih he
    · exact Or.inr (Changes.extends hc).size

/-- An empty directory is plain. -/
theorem plain_of_empty {parent : Nat} (h : t.node? d = some (.directory parent [])) :
    Plain t d ∧ ∀ i, Below t d i → i = d := by
  have hno : ∀ {n child}, ¬ IsEntry t d n child := by
    rintro n child ⟨_, _, hd, hm⟩
    rw [h] at hd
    cases hd
    cases hm
  have honly : ∀ i, Below t d i → i = d := by
    intro i hb
    induction hb with
    | top => rfl
    | entry _ he ih =>
      subst ih
      exact absurd he hno
  refine ⟨⟨?_, ?_, ?_, ?_⟩, honly⟩
  · intro i hb
    rw [honly i hb, h]
    rintro ⟨_, hl⟩
    cases hl
  · intro i n child hb he
    rw [honly i hb] at he
    exact absurd he hno
  · intro i n hb he
    rw [honly i hb] at he
    exact absurd he hno
  · intro i j n m child hb _ he _
    rw [honly i hb] at he
    exact absurd he hno

end Changes

section Paths

variable {t : FileTree} {d i j : Nat} {p : Path}

theorem isEntry_of_lookup {parent child : Nat} {entries : List (Bytes × Nat)} {n : Bytes}
    (hi : t.node? i = some (.directory parent entries)) (h : entries.lookup n = some child) :
    IsEntry t i n child := by
  obtain ⟨before, behind, rfl, _⟩ := List.lookup_eq_some_iff.mp h
  exact ⟨_, _, hi, by simp⟩

/-- A name behind a path that leads below a plain directory is looked up where the path leads. -/
theorem Plain.resolve_join (hp : Plain t d) {n : Bytes} (hne : p.bytes ≠ []) (hn : IsNormal n)
    (hi : t.resolve p = .ok i) (hb : Below t d i) (h : t.resolve (p.join ⟨n⟩) = .ok j) :
    IsEntry t i n j ∧ Below t d j := by
  obtain ⟨k, parent, entries, child, hk, hnode, hlookup, _, hchild⟩ :=
    FileTree.resolve_join hne hn h
  rw [hi] at hk
  cases hk
  have he := isEntry_of_lookup hnode hlookup
  obtain rfl := hchild (hp.noLink (.entry hb he))
  exact ⟨he, .entry hb he⟩

/-- The way of a path of three names below a plain directory. -/
theorem Plain.resolve_three (hp : Plain t d) {a b c : Bytes} (hne : p.bytes ≠ [])
    (ha : IsNormal a) (hb : IsNormal b) (hc : IsNormal c) (hd : t.resolve p = .ok d)
    (h : t.resolve (((p.join ⟨a⟩).join ⟨b⟩).join ⟨c⟩) = .ok j) :
    ∃ k l, t.resolve (p.join ⟨a⟩) = .ok k ∧ t.resolve ((p.join ⟨a⟩).join ⟨b⟩) = .ok l ∧
      IsEntry t d a k ∧ IsEntry t k b l ∧ IsEntry t l c j := by
  have hne1 := Path.bytes_join_ne_nil hne ha
  have hne2 := Path.bytes_join_ne_nil hne1 hb
  obtain ⟨l, _, _, _, hl, _⟩ := FileTree.resolve_join hne2 hc h
  obtain ⟨k, _, _, _, hk, _⟩ := FileTree.resolve_join hne1 hb hl
  obtain ⟨hka, hbk⟩ := hp.resolve_join hne ha hd .top hk
  obtain ⟨hlb, hbl⟩ := hp.resolve_join hne1 hb hk hbk hl
  obtain ⟨hjc, _⟩ := hp.resolve_join hne2 hc hl hbl h
  exact ⟨k, l, hk, hl, hka, hlb, hjc⟩

/-- A name that leads from a plain directory to an old node did so before the changes. -/
theorem Plain.resolve_join_old {dirs files : Path → Prop} {t' : FileTree} (hp : Plain t d)
    (hd : d < t.nodes.size) (hc : Changes dirs files t t') {n : Bytes} (hne : p.bytes ≠ [])
    (hn : IsNormal n) (hi : t.resolve p = .ok i) (hb : Below t d i)
    (h : t'.resolve (p.join ⟨n⟩) = .ok j) (hj : j < t.nodes.size) :
    t.resolve (p.join ⟨n⟩) = .ok j ∧ Below t d j := by
  have he := hc.extends
  obtain ⟨k, parent, entries, child, hk, hnode, hlookup, hshort, hchild⟩ :=
    FileTree.resolve_join hne hn h
  rw [he.resolve hi] at hk
  cases hk
  have hentry := isEntry_of_lookup hnode hlookup
  have hb' := hb.changes hc
  obtain rfl := hchild ((hp.changes hd hc).1.noLink (.entry hb' hentry))
  -- the entry is an old one, and so is the directory that has it
  have hold : IsEntry t i n j := (hc.isEntry hentry).resolve_right (Nat.not_le.mpr hj)
  obtain ⟨parent', entries', hnode', hmem⟩ := hold
  obtain ⟨more, hgrown⟩ := he.directory hnode'
  rw [hnode] at hgrown
  cases hgrown
  have hsome : (entries'.lookup n).isSome = true := by
    rw [List.lookup_isSome_iff]
    exact ⟨(n, j), hmem, beq_self_eq_true n⟩
  obtain ⟨c, hc'⟩ := Option.isSome_iff_exists.mp hsome
  rw [List.lookup_append, hc', Option.some_or] at hlookup
  cases hlookup
  have hbelow : Below t d j := .entry hb ⟨_, _, hnode', hmem⟩
  exact ⟨resolve_join_of_lookup hne hn (resolve_eq_ok.mp h).1 hshort hi hnode' hc'
    (hp.noLink hbelow), hbelow⟩

/-- A path of three names below a plain directory that leads to an old node did so before the
changes. -/
theorem Plain.resolve_three_old {dirs files : Path → Prop} {t' : FileTree} (hp : Plain t d)
    (hd : d < t.nodes.size) (hc : Changes dirs files t t') {a b c : Bytes} (hne : p.bytes ≠ [])
    (ha : IsNormal a) (hb : IsNormal b) (hn : IsNormal c) (hr : t.resolve p = .ok d)
    (h : t'.resolve (((p.join ⟨a⟩).join ⟨b⟩).join ⟨c⟩) = .ok j) (hj : j < t.nodes.size) :
    t.resolve (((p.join ⟨a⟩).join ⟨b⟩).join ⟨c⟩) = .ok j := by
  obtain ⟨k, l, hk, hl, hka, hlb, hjc⟩ := (hp.changes hd hc).1.resolve_three hne ha hb hn
    (hc.extends.resolve hr) h
  have hold : ∀ {i m child}, child < t.nodes.size → IsEntry t' i m child → IsEntry t i m child :=
    fun hlt he => (hc.isEntry he).resolve_right (Nat.not_le.mpr hlt)
  have hll : l < t.nodes.size := (hold hj hjc).lt
  have hkl : k < t.nodes.size := (hold hll hlb).lt
  have hne1 := Path.bytes_join_ne_nil hne ha
  obtain ⟨hk', hbk⟩ := hp.resolve_join_old hd hc hne ha hr .top hk hkl
  obtain ⟨hl', hbl⟩ := hp.resolve_join_old hd hc hne1 hb hk' hbk hl hll
  exact (hp.resolve_join_old hd hc (Path.bytes_join_ne_nil hne1 hb) hn hl' hbl h hj).1

/-- Different paths of three names below a plain directory lead to different nodes. -/
theorem Plain.three_injective (hp : Plain t d) {a b c a' b' c' : Bytes} {k l k' l' : Nat}
    (hk : IsEntry t d a k) (hl : IsEntry t k b l) (hj : IsEntry t l c j) (hk' : IsEntry t d a' k')
    (hl' : IsEntry t k' b' l') (hj' : IsEntry t l' c' j) : a = a' ∧ b = b' ∧ c = c' := by
  have hbk : Below t d k := .entry .top hk
  have hbk' : Below t d k' := .entry .top hk'
  obtain ⟨rfl, rfl⟩ := hp.unique (.entry hbk hl) (.entry hbk' hl') hj hj'
  obtain ⟨rfl, rfl⟩ := hp.unique hbk hbk' hl hl'
  obtain ⟨_, rfl⟩ := hp.unique .top .top hk hk'
  exact ⟨rfl, rfl, rfl⟩

/-- Where no step needs a directory to be made, a path leads to the root. -/
theorem resolve_root {parent : Nat} {entries : List (Bytes × Nat)} (hr : refuse? p = none)
    (hc : p.components = [.root]) (hroot : t.node? t.root = some (.directory parent entries)) :
    t.resolve p = .ok t.root := by
  have hstill : (names p.bytes).filter (!Path.isStill ·) = [] := by
    rw [Path.filter_names, hc]
    rfl
  have hway : ∀ ns : List Bytes, ns.filter (!Path.isStill ·) = [] →
      Way t true linkLimit t.root ns t.root linkLimit := by
    intro ns hns
    induction ns with
    | nil => exact .here
    | cons n ns ih =>
      obtain ⟨hn, hns⟩ := List.forall_mem_cons.mp (List.filter_eq_nil_iff.mp hns)
      have hn' : n = [] ∨ n = [Path.dot] := by
        simp only [Path.isStill, Bool.not_eq_true', Bool.not_eq_false, Bool.or_eq_true,
          beq_iff_eq] at hn
        exact hn
      exact .still hroot hn' (ih (List.filter_eq_nil_iff.mpr hns))
  have hstart : t.start p.bytes = t.root := by
    rw [start, if_pos ((Path.head?_eq_slash p).mpr (by rw [hc]; rfl))]
  refine resolve_eq_ok.mpr ⟨hr, linkLimit, ?_⟩
  rw [hstart]
  exact hway _ hstill

end Paths

end TaggedLibrary.FileTree
