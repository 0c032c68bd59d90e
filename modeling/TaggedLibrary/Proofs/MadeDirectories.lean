import Mathlib.Data.List.Basic
import Mathlib.Data.List.Induction
import TaggedLibrary.Proofs.Changes
import TaggedLibrary.Proofs.PathSteps
/-!
Which names on a way matter, and what making a directory with all that is missing above it comes to:
it was there and nothing changes, or it is new and empty.
-/

namespace TaggedLibrary.FileTree

open TaggedLibrary.Path (isStill slash dot IsNormal)

/-- `Thins ns ms`: the names `ms` are `ns` without some that take no step. -/
inductive Thins : List Bytes → List Bytes → Prop
  | nil : Thins [] []
  | keep {n : Bytes} {ns ms : List Bytes} (h : Thins ns ms) : Thins (n :: ns) (n :: ms)
  | drop {n : Bytes} {ns ms : List Bytes} (hn : isStill n = true) (h : Thins ns ms) :
      Thins (n :: ns) ms

theorem thins_filter (ns : List Bytes) : Thins ns (ns.filter (!isStill ·)) := by
  induction ns with
  | nil => exact .nil
  | cons n ns ih =>
    by_cases hn : isStill n = true
    · rw [List.filter_cons_of_neg (by simp [hn])]
      exact .drop hn ih
    · rw [List.filter_cons_of_pos (by simpa using hn)]
      exact .keep ih

theorem Thins.append_left (ts : List Bytes) {ns ms : List Bytes} (h : Thins ns ms) :
    Thins (ts ++ ns) (ts ++ ms) := by
  induction ts with
  | nil => exact h
  | cons t ts ih => exact .keep ih

theorem IsName.isStill {n : Bytes} (h : IsName n) : isStill n = false := by
  have hstep := h.step
  simp only [not_or] at hstep
  simp [Path.isStill, hstep.1, hstep.2]

section Ways

variable {t : FileTree} {links i j left : Nat} {ns ms : List Bytes} {p q : Path}

/-- A way is there without the names that take no step. -/
theorem Way.thin (h : Way t true links i ns j left) (ht : Thins ns ms) :
    Way t true links i ms j left := by
  generalize hf : true = follow at h
  induction h generalizing ms with
  | here =>
    cases ht
    exact .here
  | still hi hn _ ih =>
    cases ht with
    | keep ht => exact .still hi hn (ih ht)
    | drop _ ht => exact ih ht
  | up hi _ ih =>
    cases ht with
    | keep ht => exact .up hi (ih ht)
    | drop hn => cases hn
  | down hi hn hc hl _ ih =>
    cases ht with
    | keep ht => exact .down hi hn hc hl (ih ht)
    | drop hs => rw [hn.isStill] at hs; cases hs
  | last _ _ _ _ hfalse =>
    rw [← hf] at hfalse
    cases hfalse
  | jump hi hn hc hl _ _ ih =>
    cases ht with
    | keep ht => exact .jump hi hn hc hl (by simp [← hf]) (ih (ht.append_left _))
    | drop hs => rw [hn.isStill] at hs; cases hs

theorem Way.unique {follow : Bool} {j' left' : Nat} (h : Way t follow links i ns j left)
    (h' : Way t follow links i ns j' left') : j = j' ∧ left = left' := by
  have hw := h.walk
  rw [h'.walk] at hw
  cases hw
  exact ⟨rfl, rfl⟩

theorem start_of_components (h : p.components.head? = q.components.head?) :
    t.start p.bytes = t.start q.bytes := by
  have hp := Path.head?_eq_slash p
  rw [h, ← Path.head?_eq_slash q] at hp
  by_cases hq : q.bytes.head? = some slash
  · rw [start, start, if_pos hq, if_pos (hp.mpr hq)]
  · rw [start, start, if_neg hq, if_neg (mt hp.mp hq)]

/-- The steps of a path, by their names, are a way to where the path leads. -/
theorem way_of_resolve (h : t.resolve p = .ok i) : refuse? p = none ∧
    ∃ left,
      Way t true linkLimit (t.start p.bytes) (p.components.filterMap Path.nameOf?) i left := by
  obtain ⟨hr, left, hw⟩ := resolve_eq_ok.mp h
  refine ⟨hr, left, ?_⟩
  rw [← Path.filter_names]
  exact hw.thin (thins_filter _)

/-- Paths that take the same steps do not lead to different nodes. -/
theorem resolve_of_same (hs : p.Same q) (hp : t.resolve p = .ok i) (hq : t.resolve q = .ok j) :
    i = j := by
  obtain ⟨_, left, hw⟩ := way_of_resolve hp
  obtain ⟨_, left', hw'⟩ := way_of_resolve hq
  rw [start_of_components (congrArg List.head? hs), show p.components = q.components from hs] at hw
  exact (hw.unique hw').1

theorem refuse?_eq_none : refuse? p = none ↔
    0 ∉ p.bytes ∧ p.bytes ≠ [] ∧ p.bytes.length < pathLimit := by
  unfold refuse?
  by_cases h0 : p.bytes.contains 0 = true
  · rw [if_pos h0]
    have h0' : 0 ∈ p.bytes := by simpa using h0
    simp [h0']
  · rw [if_neg h0]
    have h0' : 0 ∉ p.bytes := by simpa using h0
    by_cases hnil : p.bytes = []
    · simp [hnil]
    · by_cases hlong : pathLimit ≤ p.bytes.length
      · simp [hnil, hlong]
      · simp [hnil, Nat.lt_of_not_le hlong, Nat.not_le.mpr (Nat.lt_of_not_le hlong), h0']

theorem refuse?_of_join {n : Bytes} (hp : p.bytes ≠ []) (hn : IsNormal n)
    (h : refuse? (p.join ⟨n⟩) = none) : refuse? p = none := by
  obtain ⟨h0, _, hlong⟩ := refuse?_eq_none.mp h
  obtain ⟨a, hj, hform⟩ := Path.bytes_join hp hn
  rw [hj] at h0 hlong
  have hsub : ∃ rest, a ++ slash :: n = p.bytes ++ rest := by
    rcases hform with ⟨ha, _⟩ | ha
    · exact ⟨slash :: n, by rw [ha]⟩
    · exact ⟨n, by rw [ha, List.append_assoc, List.singleton_append]⟩
  obtain ⟨rest, hrest⟩ := hsub
  rw [hrest] at h0 hlong
  refine refuse?_eq_none.mpr ⟨fun h => h0 (List.mem_append_left _ h), hp, ?_⟩
  rw [List.length_append] at hlong
  omega

/-- Before a path leads to a name in a directory, it leads to the directory. -/
theorem resolve_join {n : Bytes} (hp : p.bytes ≠ []) (hn : IsNormal n)
    (h : t.resolve (p.join ⟨n⟩) = .ok j) :
    ∃ k parent entries child, t.resolve p = .ok k ∧
      t.node? k = some (.directory parent entries) ∧ entries.lookup n = some child ∧
      n.length ≤ nameLimit ∧ (¬ IsLink (t.node? child) → j = child) := by
  obtain ⟨hr, left, hw⟩ := resolve_eq_ok.mp h
  obtain ⟨ns, hnames, hform⟩ := Path.names_join hp hn
  rw [hnames, start, Path.head?_bytes_join hp hn, ← start] at hw
  obtain ⟨k, between, hto, hlast⟩ := hw.split (by simp)
  have hres : ∀ {parent : Nat} {entries : List (Bytes × Nat)},
      t.node? k = some (.directory parent entries) → t.resolve p = .ok k := by
    intro parent entries hk
    refine resolve_eq_ok.mpr ⟨refuse?_of_join hp hn hr, between, ?_⟩
    rcases hform with hns | hns
    · rw [hns]
      exact hto
    · rw [hns]
      exact hto.append (.still hk (Or.inl rfl) .here) (by simp)
  cases hlast with
  | still _ hs =>
    rcases hs with hs | hs
    · exact absurd hs hn.nonempty
    · exact absurd hs hn.not_dot
  | up => exact absurd rfl hn.not_dots
  | last _ _ _ _ hf => cases hf
  | down hk hname hc _ hend =>
    cases hend
    exact ⟨k, _, _, _, hres hk, hk, hc, hname.short, fun _ => rfl⟩
  | jump hk hname hc hl =>
    exact ⟨k, _, _, _, hres hk, hk, hc, hname.short, fun hno => absurd ⟨_, hl⟩ hno⟩

theorem isName_of_isNormal {n : Bytes} (hn : IsNormal n) (hs : n.length ≤ nameLimit) : IsName n :=
  ⟨not_or.mpr ⟨hn.nonempty, hn.not_dot⟩, hn.not_dots, hs⟩

/-- The names of a path that leads to a directory lead there also without a slash at the end. -/
theorem way_of_names {ms : List Bytes} (hw : Way t true links i ms j left)
    (hm : ms = ns ∨ ms = ns ++ [[]]) : Way t true links i ns j left := by
  rcases hm with rfl | rfl
  · exact hw
  · obtain ⟨k, between, hto, hlast⟩ := hw.split (by simp)
    cases hlast with
    | still _ _ hend =>
      cases hend
      exact hto
    | down _ hname => exact absurd (Or.inl rfl) hname.step
    | last _ hname => exact absurd (Or.inl rfl) hname.step
    | jump _ hname => exact absurd (Or.inl rfl) hname.step

/-- A path that leads to a directory leads, with a name behind it, to what has the name there. -/
theorem resolve_join_of_lookup {n : Bytes} {parent : Nat} {entries : List (Bytes × Nat)}
    (hp : p.bytes ≠ []) (hn : IsNormal n) (hr : refuse? (p.join ⟨n⟩) = none)
    (hs : n.length ≤ nameLimit) (hi : t.resolve p = .ok i)
    (hnode : t.node? i = some (.directory parent entries)) (hc : entries.lookup n = some j)
    (hl : ¬ IsLink (t.node? j)) : t.resolve (p.join ⟨n⟩) = .ok j := by
  obtain ⟨_, left, hw⟩ := resolve_eq_ok.mp hi
  obtain ⟨ns, hnames, hform⟩ := Path.names_join hp hn
  refine resolve_eq_ok.mpr ⟨hr, left, ?_⟩
  rw [hnames, start, Path.head?_bytes_join hp hn, ← start]
  exact (way_of_names hw hform).append (.down hnode (isName_of_isNormal hn hs) hc hl .here) (by simp)

end Ways

section Chain

open TaggedLibrary.Path (ofComponents components_ofComponents Proper)

variable {t t' : FileTree} {p q : Path}

/-- A path that takes the given steps, unless these need no directory to be made. -/
def pathOf? (cs : List Component) : Option Path :=
  match cs with
  | [] | [.root] => none
  | cs => some (ofComponents cs)

theorem pathOf?_eq_some {cs : List Component} (hnil : cs ≠ []) (hroot : cs ≠ [.root]) :
    pathOf? cs = some (ofComponents cs) := by
  rw [pathOf?]
  · exact hnil
  · exact hroot

/-- The paths above one that takes the given steps, nearest first. -/
def above (cs : List Component) : List Path :=
  (List.range cs.length).reverse.filterMap fun n => pathOf? (cs.take n)

theorem above_concat (cs : List Component) (c : Component) :
    above (cs ++ [c]) = (pathOf? cs).toList ++ above cs := by
  have htake : (List.range cs.length).reverse.filterMap (fun n => pathOf? ((cs ++ [c]).take n)) =
      above cs := by
    refine List.filterMap_congr fun n hn => ?_
    rw [List.mem_reverse, List.mem_range] at hn
    rw [List.take_append_of_le_length (by omega)]
  rw [above, List.length_append, List.length_singleton, List.range_succ, List.reverse_append,
    List.reverse_singleton, List.singleton_append, List.filterMap_cons, List.take_left' rfl, htake]
  cases pathOf? cs <;> rfl

theorem ancestors_eq (p : Path) : ancestors p = p :: above p.components := rfl

/-- A path above another takes the first of its steps. -/
theorem components_of_mem_ancestors (h : q ∈ ancestors p) : q.components <+: p.components := by
  rw [ancestors_eq] at h
  rcases List.mem_cons.mp h with rfl | h
  · exact List.prefix_refl _
  obtain ⟨n, _, hn⟩ := List.mem_filterMap.mp h
  have hnil : p.components.take n ≠ [] := by
    intro he
    rw [he] at hn
    cases hn
  have hroot : p.components.take n ≠ [.root] := by
    intro he
    rw [he] at hn
    cases hn
  rw [pathOf?_eq_some hnil hroot] at hn
  have hproper := Path.proper_components p
  rw [← List.take_append_drop n p.components] at hproper
  rw [← Option.some.inj hn, components_ofComponents hproper.of_append hnil]
  exact List.take_prefix n _

/-- A path leads to a directory. -/
def DirectoryAt (t : FileTree) (p : Path) : Prop :=
  ∃ d parent entries, t.resolve p = .ok d ∧ t.node? d = some (.directory parent entries)

theorem DirectoryAt.extends (h : DirectoryAt t p) (he : Extends t t') : DirectoryAt t' p := by
  obtain ⟨d, parent, entries, hd, hnode⟩ := h
  obtain ⟨more, hnode'⟩ := he.directory hnode
  exact ⟨d, parent, _, he.resolve hd, hnode'⟩

/-- What making a directory comes to: it is there and nothing changes, or it is new and empty. -/
def ThereOrNew (p : Path) (t t' : FileTree) : Prop :=
  (t' = t ∧ DirectoryAt t p) ∨
    ∃ d parent, t.nodes.size ≤ d ∧ t'.resolve p = .ok d ∧ t'.node? d = some (.directory parent [])

theorem ThereOrNew.directoryAt (h : ThereOrNew p t t') : DirectoryAt t' p := by
  rcases h with ⟨rfl, hthere⟩ | ⟨d, parent, _, hd, hnode⟩
  · exact hthere
  · exact ⟨d, parent, [], hd, hnode⟩

theorem isDirectory_eq_true (h : t.isDirectory p = true) : DirectoryAt t p := by
  unfold isDirectory at h
  split at h
  · rename_i d hr
    split at h
    · exact ⟨d, _, _, hr, ‹_›⟩
    · cases h
  · cases h

/-- Below an empty directory no name leads anywhere. -/
theorem not_resolve_of_empty {n : Bytes} {k j parent : Nat}
    (hc : p.components = q.components ++ [.name n]) (hq : q.components ≠ [])
    (hk : t.resolve q = .ok k) (hempty : t.node? k = some (.directory parent [])) :
    t.resolve p ≠ .ok j := by
  intro hp
  obtain ⟨_, left, hway⟩ := way_of_resolve hk
  obtain ⟨_, left', hway'⟩ := way_of_resolve hp
  have hhead : p.components.head? = q.components.head? := by
    obtain ⟨c, cs, hcs⟩ := List.exists_cons_of_ne_nil hq
    rw [hc, hcs]
    rfl
  have hn : IsNormal n := by
    have hproper := Path.proper_components p
    rw [hc] at hproper
    rcases hproper.isStep hq with h | ⟨m, h, hm⟩
    · cases h
    · cases h
      exact hm
  have hlast : [Component.name n].filterMap Path.nameOf? = [n] := rfl
  rw [start_of_components hhead, hc, List.filterMap_append, hlast] at hway'
  obtain ⟨k', between, hto, hdown⟩ := hway'.split (by simp)
  obtain ⟨rfl, _⟩ := hto.unique hway
  have hnone : ∀ {child parent' : Nat} {entries : List (Bytes × Nat)},
      t.node? k' = some (.directory parent' entries) → entries.lookup n ≠ some child := by
    intro child parent' entries hk' hfound
    rw [hempty] at hk'
    cases hk'
    cases hfound
  cases hdown with
  | still _ hs =>
    rcases hs with hs | hs
    · exact hn.nonempty hs
    · exact hn.not_dot hs
  | up => exact hn.not_dots rfl
  | down hk' _ hfound => exact hnone hk' hfound
  | last hk' _ hfound => exact hnone hk' hfound
  | jump hk' _ hfound => exact hnone hk' hfound

/-- Where a path leads to a node, each path above it leads to an old node for good. -/
theorem node?_of_upper {node : Node} {d j : Nat} (he : Extends t t') (hp : t.resolve p = .ok d)
    (hd : t.node? d = some node) (hupper : q.components <+: p.components)
    (hq : t'.resolve q = .ok j) : ∃ old, t.node? j = some old := by
  obtain ⟨hr, left, hway⟩ := way_of_resolve hq
  obtain ⟨_, left', hway'⟩ := way_of_resolve hp
  have hne := Path.components_ne_nil (refuse?_eq_none.mp hr).2.1
  obtain ⟨c, cs, hcs⟩ := List.exists_cons_of_ne_nil hne
  obtain ⟨rest, hrest⟩ := hupper
  have hhead : p.components.head? = q.components.head? := by
    rw [← hrest, hcs]
    rfl
  rw [start_of_components hhead, ← hrest, List.filterMap_append] at hway'
  rw [he.start] at hway
  by_cases hnil : rest.filterMap Path.nameOf? = []
  · rw [hnil, List.append_nil] at hway'
    obtain ⟨rfl, _⟩ := (he.way hway').unique hway
    exact ⟨node, hd⟩
  · obtain ⟨k, between, hto, hdown⟩ := hway'.split hnil
    obtain ⟨rfl, _⟩ := (he.way hto).unique hway
    obtain ⟨n, ns, hns⟩ := List.exists_cons_of_ne_nil hnil
    rw [hns] at hdown
    cases hdown with
    | still hk => exact ⟨_, hk⟩
    | up hk => exact ⟨_, hk⟩
    | down hk => exact ⟨_, hk⟩
    | last hk => exact ⟨_, hk⟩
    | jump hk => exact ⟨_, hk⟩

theorem thereOrNew_of_makeDirectoryAt {u : FileTree} (hsize : t.nodes.size ≤ u.nodes.size)
    (h : u.makeDirectoryAt p = .ok t') : ThereOrNew p t t' := by
  obtain ⟨d, parent, hd, hr, hnode⟩ := makeDirectoryAt_resolve h
  exact Or.inr ⟨d, parent, Nat.le_trans hsize hd, hr, hnode⟩

theorem makeChain_cases {ps : List Path} (h : (makeChain (p :: ps)).run t = (.ok (), t')) :
    t.makeDirectoryAt p = .ok t' ∨ (t' = t ∧ t.isDirectory p = true) ∨
      ∃ u, t.makeDirectoryAt p = .error .notFound ∧ (makeChain ps).run t = (.ok (), u) ∧
        (u.makeDirectoryAt p = .ok t' ∨ u.makeDirectoryAt p = .error .alreadyExists ∧
          t' = u ∧ u.isDirectory p = true) := by
  rw [run_makeChain_cons] at h
  rcases hone : t.makeDirectoryAt p with e | made
  · rw [hone] at h
    simp only at h
    by_cases hmissing : e = .notFound
    · rw [if_pos hmissing] at h
      rcases hchain : (makeChain ps).run t with ⟨e' | _, u⟩
      · rw [hchain] at h
        cases h
      · rw [hchain] at h
        simp only at h
        refine Or.inr (Or.inr ⟨u, by rw [hmissing], rfl, ?_⟩)
        rcases htwo : u.makeDirectoryAt p with e' | made
        · rw [htwo] at h
          simp only at h
          by_cases hthere : e' = .alreadyExists ∧ u.isDirectory p = true
          · rw [if_pos hthere] at h
            cases h
            exact Or.inr ⟨by rw [hthere.1], rfl, hthere.2⟩
          · rw [if_neg hthere] at h
            cases h
        · rw [htwo] at h
          cases h
          exact Or.inl rfl
    · rw [if_neg hmissing] at h
      by_cases hthere : e = .alreadyExists ∧ t.isDirectory p = true
      · rw [if_pos hthere] at h
        cases h
        exact Or.inr (Or.inl ⟨rfl, hthere.2⟩)
      · rw [if_neg hthere] at h
        cases h
  · rw [hone] at h
    cases h
    exact Or.inl rfl

/-- Going up and down again ends at a directory that was there or is new. The induction is on the
steps of the path: where the directory above was there, a name that is missing stays missing, and
where it is new, it is empty, so the last directory cannot be there unless it is made. -/
theorem makeChain_ok {cs : List Component} (hup : Component.parent ∉ cs) (hp : p.components = cs)
    (h : (makeChain (p :: above cs)).run t = (.ok (), t')) : ThereOrNew p t t' := by
  induction cs using List.reverseRecOn generalizing p t' with
  | nil =>
    rcases makeChain_cases h with hone | ⟨rfl, hthere⟩ | ⟨u, hmissing, hchain, htwo⟩
    · exact thereOrNew_of_makeDirectoryAt (Nat.le_refl _) hone
    · exact Or.inl ⟨rfl, isDirectory_eq_true hthere⟩
    · cases hchain
      rcases htwo with htwo | ⟨htwo, _⟩ <;> (rw [hmissing] at htwo; cases htwo)
  | append_singleton cs c ih =>
    rcases makeChain_cases h with hone | ⟨rfl, hthere⟩ | ⟨u, hmissing, hchain, htwo⟩
    · exact thereOrNew_of_makeDirectoryAt (Nat.le_refl _) hone
    · exact Or.inl ⟨rfl, isDirectory_eq_true hthere⟩
    -- nothing has changed above, so the second try fails as the first one did
    have hsame : u = t → ThereOrNew p t t' := by
      rintro rfl
      rcases htwo with htwo | ⟨htwo, _⟩ <;> (rw [hmissing] at htwo; cases htwo)
    rw [above_concat] at hchain
    by_cases hnil : cs = []
    · subst hnil
      cases hchain
      exact hsame rfl
    by_cases hroot : cs = [.root]
    · subst hroot
      cases hchain
      exact hsame rfl
    rw [pathOf?_eq_some hnil hroot] at hchain
    have hproper := Path.proper_components p
    rw [hp] at hproper
    have hq := components_ofComponents hproper.of_append hnil
    have hupper := ih (fun hm => hup (List.mem_append_left _ hm)) hq hchain
    rcases hupper with ⟨rfl, _⟩ | ⟨k, parent, hk, hres, hempty⟩
    · exact hsame rfl
    have hsize : t.nodes.size ≤ u.nodes.size := by
      have hlt := lt_size hempty
      omega
    rcases htwo with htwo | ⟨_, _, hthere⟩
    · exact thereOrNew_of_makeDirectoryAt hsize htwo
    · obtain ⟨j, _, _, hj, _⟩ := isDirectory_eq_true hthere
      rcases hproper.isStep hnil with rfl | ⟨n, rfl, _⟩
      · exact absurd (List.mem_append_right cs (List.mem_singleton_self _)) hup
      · exact absurd hj (not_resolve_of_empty (by rw [hp, hq]) (by rw [hq]; exact hnil) hres hempty)

/-- A directory is made with all that is missing above it. The root is not made. -/
theorem makeDirectories_ok (hup : Component.parent ∉ p.components)
    (h : (makeDirectories p).run t = (.ok (), t')) :
    ThereOrNew p t t' ∨ t' = t ∧ (p.components = [] ∨ p.components = [.root]) := by
  unfold makeDirectories at h
  split at h
  · rename_i hc
    cases h
    exact Or.inr ⟨rfl, Or.inl hc⟩
  · rename_i hc
    cases h
    exact Or.inr ⟨rfl, Or.inr hc⟩
  · exact Or.inl (makeChain_ok hup rfl h)

/-- Where a directory below others has been made, there is one. -/
theorem directoryAt_of_made {cs : List Component} {n : Bytes} (hup : Component.parent ∉ cs)
    (hne : cs ≠ []) (hp : p.components = cs ++ [.name n])
    (h : (makeDirectories p).run t = (.ok (), t')) : DirectoryAt t' p := by
  have hup' : Component.parent ∉ p.components := by
    rw [hp]
    simpa using hup
  rcases makeDirectories_ok hup' h with hmade | ⟨_, hnone | hroot⟩
  · exact hmade.directoryAt
  · rw [hp] at hnone
    exact absurd hnone (by simp)
  · rw [hp, List.append_eq_singleton_iff] at hroot
    rcases hroot with ⟨hnil, _⟩ | ⟨_, hlast⟩
    · exact absurd hnil hne
    · cases hlast

end Chain

end TaggedLibrary.FileTree
