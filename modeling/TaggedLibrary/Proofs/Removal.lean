import TaggedLibrary.Proofs.PlainTree
/-!
A file taken out of its directory. No way goes on behind a file, so a path that leads to anything
else leads there still, and the path of the file leads nowhere, however it is written.
-/

namespace TaggedLibrary

/-- A node without a name, if it is a directory. -/
def Node.without (n : Bytes) : Node → Node
  | .directory parent entries => .directory parent (entries.filter (·.1 != n))
  | node => node

namespace FileTree

open TaggedLibrary.Path (IsNormal)

theorem lookup_filter_ne (entries : List (Bytes × Nat)) (n m : Bytes) :
    (entries.filter (·.1 != n)).lookup m = if m = n then none else entries.lookup m := by
  induction entries with
  | nil => simp
  | cons e entries ih =>
    obtain ⟨k, child⟩ := e
    by_cases hk : k = n
    · subst hk
      rw [List.filter_cons_of_neg (by simp), ih]
      by_cases hm : m = k
      · rw [if_pos hm, if_pos hm]
      · rw [if_neg hm, if_neg hm, List.lookup_cons, beq_eq_false_iff_ne.mpr hm]
    · rw [List.filter_cons_of_pos (by simp [hk]), List.lookup_cons, List.lookup_cons, ih]
      by_cases hm : m = k
      · subst hm
        rw [if_neg hk, beq_self_eq_true, if_neg hk]
      · rw [beq_eq_false_iff_ne.mpr hm]

/-- `Without l n j t t'`: directory `l` of tree `t` has the name `n` for node `j`, which is a file,
and `t'` is `t` without this name. -/
structure Without (l : Nat) (n : Bytes) (j : Nat) (t t' : FileTree) : Prop where
  root : t'.root = t.root
  current : t'.current = t.current
  size : t'.nodes.size = t.nodes.size
  node : ∀ i, t'.node? i = if i = l then (t.node? i).map (Node.without n) else t.node? i
  entry : ∃ parent entries, t.node? l = some (.directory parent entries) ∧
    entries.lookup n = some j
  file : ∃ bytes mode modified, t.node? j = some (.file bytes mode modified)

namespace Without

variable {t t' : FileTree} {d l i j : Nat} {n : Bytes} {p q : Path}

/-- A directory keeps all names but the one. -/
theorem directory (h : Without l n j t t') {parent : Nat} {entries : List (Bytes × Nat)}
    (hi : t.node? i = some (.directory parent entries)) :
    ∃ entries', t'.node? i = some (.directory parent entries') ∧
      ∀ m, entries'.lookup m = if i = l ∧ m = n then none else entries.lookup m := by
  rw [h.node i, hi]
  by_cases hl : i = l
  · refine ⟨_, if_pos hl, fun m => ?_⟩
    rw [lookup_filter_ne]
    simp [hl]
  · refine ⟨entries, if_neg hl, fun m => ?_⟩
    rw [if_neg fun hlm => hl hlm.1]

/-- What is no directory is as it was. -/
theorem node_eq (h : Without l n j t t') {node : Node}
    (hnode : ∀ parent entries, node ≠ .directory parent entries) :
    t'.node? i = some node ↔ t.node? i = some node := by
  rw [h.node i]
  by_cases hl : i = l
  · obtain ⟨parent, entries, hd, _⟩ := h.entry
    rw [if_pos hl, hl, hd]
    constructor
    · intro he
      exact absurd (Option.some.inj he).symm (hnode _ _)
    · intro he
      exact absurd (Option.some.inj he).symm (hnode _ _)
  · rw [if_neg hl]

/-- A directory had what it has. -/
theorem directory_back (h : Without l n j t t') {parent : Nat} {entries' : List (Bytes × Nat)}
    (hi : t'.node? i = some (.directory parent entries')) :
    ∃ entries, t.node? i = some (.directory parent entries) ∧ (∀ e ∈ entries', e ∈ entries) ∧
      ∀ m child, entries'.lookup m = some child → entries.lookup m = some child := by
  rw [h.node i] at hi
  by_cases hl : i = l
  · obtain ⟨up, entries, hd, _⟩ := h.entry
    rw [if_pos hl, hl, hd] at hi
    cases hi
    refine ⟨entries, hl ▸ hd, fun e he => (List.mem_filter.mp he).1, fun m child hm => ?_⟩
    rw [lookup_filter_ne] at hm
    by_cases hmn : m = n
    · rw [if_pos hmn] at hm
      cases hm
    · rwa [if_neg hmn] at hm
  · rw [if_neg hl] at hi
    exact ⟨entries', hi, fun e he => he, fun m child hm => hm⟩

theorem isLink_iff (h : Without l n j t t') : IsLink (t'.node? i) ↔ IsLink (t.node? i) := by
  constructor
  · rintro ⟨target, ht⟩
    exact ⟨target, (h.node_eq fun _ _ he => by cases he).mp ht⟩
  · rintro ⟨target, ht⟩
    exact ⟨target, (h.node_eq fun _ _ he => by cases he).mpr ht⟩

theorem base_eq (h : Without l n j t t') (i : Nat) (target : Bytes) :
    t'.base i target = t.base i target := by
  rw [base, base, h.root]

theorem start_eq (h : Without l n j t t') (b : Bytes) : t'.start b = t.start b := by
  rw [start, start, h.root, h.current]

section Ways

variable {follow : Bool} {links k left : Nat} {ns : List Bytes}

/-- A way that is there was there. -/
theorem way_back (h : Without l n j t t') (hw : Way t' follow links i ns k left) :
    Way t follow links i ns k left := by
  induction hw with
  | here => exact .here
  | still hi hn _ ih =>
    obtain ⟨_, hi', _⟩ := h.directory_back hi
    exact .still hi' hn ih
  | up hi _ ih =>
    obtain ⟨_, hi', _⟩ := h.directory_back hi
    exact .up hi' ih
  | down hi hn hc hl _ ih =>
    obtain ⟨_, hi', _, hlookup⟩ := h.directory_back hi
    exact .down hi' hn (hlookup _ _ hc) (mt h.isLink_iff.mpr hl) ih
  | last hi hn hc hl hf =>
    obtain ⟨_, hi', _, hlookup⟩ := h.directory_back hi
    exact .last hi' hn (hlookup _ _ hc) ((h.node_eq fun _ _ he => by cases he).mp hl) hf
  | jump hi hn hc hl hf _ ih =>
    obtain ⟨_, hi', _, hlookup⟩ := h.directory_back hi
    rw [h.base_eq] at ih
    exact .jump hi' hn (hlookup _ _ hc) ((h.node_eq fun _ _ he => by cases he).mp hl) hf ih

/-- A name that leads to no file is not the one that is gone. -/
theorem lookup_kept (h : Without l n j t t') {parent child : Nat} {m : Bytes}
    {entries entries' : List (Bytes × Nat)} (hi : t.node? i = some (.directory parent entries))
    (hc : entries.lookup m = some child) (hne : child ≠ j)
    (hlookup : ∀ m, entries'.lookup m = if i = l ∧ m = n then none else entries.lookup m) :
    entries'.lookup m = some child := by
  rw [hlookup, if_neg, hc]
  rintro ⟨rfl, rfl⟩
  obtain ⟨_, _, hd, hj⟩ := h.entry
  rw [hi] at hd
  cases hd
  rw [hc] at hj
  exact hne (Option.some.inj hj)

/-- A way that does not end at the file stays. From a file no name leads on, so the way can meet it
only at its end. -/
theorem way (h : Without l n j t t') (hw : Way t follow links i ns k left) (hk : k ≠ j) :
    Way t' follow links i ns k left := by
  obtain ⟨bytes, mode, modified, hfile⟩ := h.file
  induction hw with
  | here => exact .here
  | still hi hn _ ih =>
    obtain ⟨_, hi', _⟩ := h.directory hi
    exact .still hi' hn (ih hk)
  | up hi _ ih =>
    obtain ⟨_, hi', _⟩ := h.directory hi
    exact .up hi' (ih hk)
  | down hi hn hc hl hw ih =>
    obtain ⟨_, hi', hlookup⟩ := h.directory hi
    refine .down hi' hn (h.lookup_kept hi hc ?_ hlookup) (mt h.isLink_iff.mp hl) (ih hk)
    rintro rfl
    cases hw with
    | here => exact hk rfl
    | still hj | up hj | down hj | last hj | jump hj =>
      rw [hfile] at hj
      cases hj
  | last hi hn hc hl hf =>
    obtain ⟨_, hi', hlookup⟩ := h.directory hi
    exact .last hi' hn (h.lookup_kept hi hc hk hlookup)
      ((h.node_eq fun _ _ he => by cases he).mpr hl) hf
  | jump hi hn hc hl hf _ ih =>
    obtain ⟨_, hi', hlookup⟩ := h.directory hi
    have hway := ih hk
    rw [← h.base_eq] at hway
    refine .jump hi' hn (h.lookup_kept hi hc ?_ hlookup)
      ((h.node_eq fun _ _ he => by cases he).mpr hl) hf hway
    rintro rfl
    rw [hfile] at hl
    cases hl

end Ways

/-- A path leads where it led, unless that was the file. -/
theorem resolve (h : Without l n j t t') {follow : Bool} (hr : t.resolve p follow = .ok i)
    (hi : i ≠ j) : t'.resolve p follow = .ok i := by
  obtain ⟨hnone, left, hw⟩ := resolve_eq_ok.mp hr
  refine resolve_eq_ok.mpr ⟨hnone, left, ?_⟩
  rw [h.start_eq]
  exact h.way hw hi

/-- No path with the steps of the file leads anywhere. -/
theorem resolve_gone (h : Without l n j t t') (hq : q.bytes ≠ []) (hn : IsNormal n)
    (hl : t.resolve q = .ok l) (hs : p.Same (q.join ⟨n⟩)) : t'.resolve p ≠ .ok i := by
  intro hr
  have hsteps : p.components = q.components ++ [.name n] :=
    hs.trans (Path.components_join hq hn)
  obtain ⟨_, left, hw⟩ := way_of_resolve hr
  rw [hsteps, List.filterMap_append] at hw
  obtain ⟨k, between, hfront, hlast⟩ := hw.split (by simp [Path.nameOf?])
  obtain ⟨_, right, hto⟩ := way_of_resolve hl
  have hhead : p.components.head? = q.components.head? := by
    obtain ⟨c, cs, hc⟩ := List.exists_cons_of_ne_nil (Path.components_ne_nil hq)
    rw [hsteps, hc]
    rfl
  have hfront := h.way_back hfront
  rw [h.start_eq, start_of_components hhead] at hfront
  obtain ⟨rfl, _⟩ := hfront.unique hto
  obtain ⟨parent, entries, hd, _⟩ := h.entry
  obtain ⟨entries', hd', hlookup⟩ := h.directory hd
  have hgone : ∀ {up es child}, t'.node? k = some (.directory up es) →
      es.lookup n ≠ some child := by
    intro up es child hi hc
    rw [hd'] at hi
    cases hi
    rw [hlookup, if_pos ⟨rfl, rfl⟩] at hc
    cases hc
  cases hlast with
  | still _ hstill =>
    rcases hstill with hstill | hstill
    · exact hn.nonempty hstill
    · exact hn.not_dot hstill
  | up => exact hn.not_dots rfl
  | down hi _ hc => exact hgone hi hc
  | last hi _ hc => exact hgone hi hc
  | jump hi _ hc => exact hgone hi hc

theorem isEntry_back (h : Without l n j t t') {m : Bytes} {child : Nat}
    (he : IsEntry t' i m child) : IsEntry t i m child := by
  obtain ⟨parent, entries', hi, hm⟩ := he
  obtain ⟨entries, hi', hsub, _⟩ := h.directory_back hi
  exact ⟨parent, entries, hi', hsub _ hm⟩

theorem below_back (h : Without l n j t t') (hb : Below t' d i) : Below t d i := by
  induction hb with
  | top => exact .top
  | entry _ he ih => exact .entry ih (h.isEntry_back he)

/-- What is left of a plain directory is plain. -/
theorem plain (h : Without l n j t t') (hp : Plain t d) : Plain t' d where
  noLink hb := mt h.isLink_iff.mp (hp.noLink (h.below_back hb))
  inside hb he := h.size ▸ hp.inside (h.below_back hb) (h.isEntry_back he)
  top hb he := hp.top (h.below_back hb) (h.isEntry_back he)
  unique hb hb' he he' :=
    hp.unique (h.below_back hb) (h.below_back hb') (h.isEntry_back he) (h.isEntry_back he')

end Without

variable {t : FileTree} {l j : Nat} {n : Bytes} {q : Path}

theorem without_setNode {parent : Nat} {entries : List (Bytes × Nat)}
    (hl : t.node? l = some (.directory parent entries)) (hn : entries.lookup n = some j)
    (hj : ∃ bytes mode modified, t.node? j = some (.file bytes mode modified)) :
    Without l n j t (t.setNode l (.directory parent (entries.filter (·.1 != n)))) where
  root := rfl
  current := rfl
  size := Array.size_setIfInBounds
  node i := by
    by_cases hi : i = l
    · subst hi
      rw [if_pos rfl, node?_setNode _ hl, hl]
      rfl
    · rw [if_neg hi, node?_setNode_of_ne _ hi]
  entry := ⟨parent, entries, hl, hn⟩
  file := hj

theorem run_remove_eq (p : Path) (t : FileTree) : (remove p).run t =
    match refuse? p with
    | some e => (.error e, t)
    | none =>
      let ns := names p.bytes
      let ns := if ns.getLast? = some [] then ns.dropLast else ns
      match t.walk true linkLimit (t.start p.bytes) ns.dropLast with
      | .error e => (.error e, t)
      | .ok (i, _) =>
        match t.node? i, ns.getLast? with
        | some (.directory parent entries), some name =>
          if (entries.lookup name).isSome then
            (.ok (), t.setNode i (.directory parent (entries.filter (·.1 != name))))
          else (.error .notFound, t)
        | _, _ => (.error .notFound, t) := rfl

/-- A file in a directory without links can be removed, which takes its name out of the
directory. -/
theorem run_remove (hq : q.bytes ≠ []) (hn : IsNormal n) (hl : t.resolve q = .ok l)
    (hno : ∀ {m child}, IsEntry t l m child → ¬ IsLink (t.node? child))
    (hr : t.resolve (q.join ⟨n⟩) = .ok j)
    (hj : ∃ bytes mode modified, t.node? j = some (.file bytes mode modified)) :
    ∃ t', (remove (q.join ⟨n⟩)).run t = (.ok (), t') ∧ Without l n j t t' := by
  obtain ⟨k, parent, entries, child, hk, hnode, hlookup, _, hchild⟩ := resolve_join hq hn hr
  rw [hl] at hk
  cases hk
  obtain rfl := hchild (hno (isEntry_of_lookup hnode hlookup))
  refine ⟨_, ?_, without_setNode hnode hlookup hj⟩
  obtain ⟨hnone, _⟩ := resolve_eq_ok.mp hr
  obtain ⟨ms, hnames, hform⟩ := Path.names_join hq hn
  obtain ⟨_, left, hw⟩ := resolve_eq_ok.mp hl
  have hlast : some n ≠ some [] := fun h => hn.nonempty (Option.some.inj h)
  have hwalk : t.walk true linkLimit (t.start (q.join ⟨n⟩).bytes) ms = .ok (l, left) := by
    rw [start, Path.head?_bytes_join hq hn, ← start]
    exact (way_of_names hw hform).walk
  rw [run_remove_eq, hnone]
  simp only [hnames, List.getLast?_concat, if_neg hlast, List.dropLast_concat, hwalk, hnode,
    hlookup, Option.isSome_some, if_true]

end FileTree

end TaggedLibrary
