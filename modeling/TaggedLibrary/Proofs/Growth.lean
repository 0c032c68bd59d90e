import TaggedLibrary.Proofs.Ways
/-!
Trees that grow: names are added to directories and files get other contents, and nothing else
changes. A way that was there stays, so a path keeps leading to its node.
-/

namespace TaggedLibrary.FileTree

/-- What stays as it is when a tree grows: every node is still of its kind, directories keep
their names, links what they hold. No link is new. -/
structure Extends (t t' : FileTree) : Prop where
  root : t'.root = t.root
  current : t'.current = t.current
  size : t.nodes.size ≤ t'.nodes.size
  directory : ∀ {i parent entries}, t.node? i = some (.directory parent entries) →
    ∃ more, t'.node? i = some (.directory parent (entries ++ more))
  link : ∀ {i target}, t.node? i = some (.link target) → t'.node? i = some (.link target)
  file : ∀ {i bytes mode modified}, t.node? i = some (.file bytes mode modified) →
    ∃ bytes mode modified, t'.node? i = some (.file bytes mode modified)
  device : ∀ {i}, t.node? i = some .device → t'.node? i = some .device
  fresh : ∀ {i}, t.node? i = none → ¬ IsLink (t'.node? i)

namespace Extends

variable {t t' t'' : FileTree}

theorem refl (t : FileTree) : Extends t t where
  root := rfl
  current := rfl
  size := Nat.le_refl _
  directory := fun h => ⟨[], by rw [h, List.append_nil]⟩
  link := fun h => h
  file := fun h => ⟨_, _, _, h⟩
  device := fun h => h
  fresh := fun h ⟨target, hl⟩ => by
    rw [h] at hl
    cases hl

theorem not_isLink (h : Extends t t') {i : Nat} (hl : ¬ IsLink (t.node? i)) :
    ¬ IsLink (t'.node? i) := by
  rintro ⟨target, ht⟩
  cases hi : t.node? i with
  | none => exact h.fresh hi ⟨target, ht⟩
  | some node =>
    cases node with
    | link target => exact hl ⟨target, hi⟩
    | file bytes mode modified =>
      obtain ⟨_, _, _, he⟩ := h.file hi
      rw [he] at ht
      cases ht
    | directory parent entries =>
      obtain ⟨_, he⟩ := h.directory hi
      rw [he] at ht
      cases ht
    | device =>
      rw [h.device hi] at ht
      cases ht

theorem trans (h : Extends t t') (h' : Extends t' t'') : Extends t t'' where
  root := h'.root.trans h.root
  current := h'.current.trans h.current
  size := Nat.le_trans h.size h'.size
  directory := fun hi => by
    obtain ⟨more, hm⟩ := h.directory hi
    obtain ⟨more', hm'⟩ := h'.directory hm
    exact ⟨more ++ more', by rw [hm', List.append_assoc]⟩
  link := fun hi => h'.link (h.link hi)
  file := fun hi => by
    obtain ⟨_, _, _, hf⟩ := h.file hi
    exact h'.file hf
  device := fun hi => h'.device (h.device hi)
  fresh := fun hi => h'.not_isLink (h.fresh hi)

/-- A directory that neither of two trees has more in is the same in both. -/
theorem directory_eq (h : Extends t t') (h' : Extends t' t) {i parent : Nat}
    {entries : List (Bytes × Nat)} (hi : t.node? i = some (.directory parent entries)) :
    t'.node? i = some (.directory parent entries) := by
  obtain ⟨more, hi'⟩ := h.directory hi
  obtain ⟨more', hback⟩ := h'.directory hi'
  rw [hi] at hback
  have hlen := congrArg List.length (Node.directory.inj (Option.some.inj hback)).2
  rw [List.length_append, List.length_append] at hlen
  rw [hi', List.eq_nil_of_length_eq_zero (show more.length = 0 by omega), List.append_nil]

theorem lookup {entries more : List (Bytes × Nat)} {n : Bytes} {child : Nat}
    (h : entries.lookup n = some child) : (entries ++ more).lookup n = some child := by
  rw [List.lookup_append, h, Option.some_or]

/-- A way that is there stays. -/
theorem way (h : Extends t t') {follow : Bool} {links i j left : Nat} {ns : List Bytes}
    (hw : Way t follow links i ns j left) : Way t' follow links i ns j left := by
  induction hw with
  | here => exact .here
  | still hi hn _ ih =>
    obtain ⟨more, hi'⟩ := h.directory hi
    exact .still hi' hn ih
  | up hi _ ih =>
    obtain ⟨more, hi'⟩ := h.directory hi
    exact .up hi' ih
  | down hi hn hc hl _ ih =>
    obtain ⟨more, hi'⟩ := h.directory hi
    exact .down hi' hn (lookup hc) (h.not_isLink hl) ih
  | last hi hn hc hl hf =>
    obtain ⟨more, hi'⟩ := h.directory hi
    exact .last hi' hn (lookup hc) (h.link hl) hf
  | jump hi hn hc hl hf _ ih =>
    obtain ⟨more, hi'⟩ := h.directory hi
    rw [base, ← h.root] at ih
    exact .jump hi' hn (lookup hc) (h.link hl) hf ih

theorem start (h : Extends t t') (b : Bytes) : t'.start b = t.start b := by
  rw [FileTree.start, FileTree.start, h.root, h.current]

end Extends

theorem Extends.resolve {t t' : FileTree} (h : Extends t t') {p : Path} {follow : Bool} {i : Nat}
    (hr : t.resolve p follow = .ok i) : t'.resolve p follow = .ok i := by
  obtain ⟨hnone, left, hw⟩ := resolve_eq_ok.mp hr
  refine resolve_eq_ok.mpr ⟨hnone, left, ?_⟩
  rw [h.start]
  exact h.way hw

namespace Spot

variable {t : FileTree} {follow : Bool} {links i : Nat} {ns : List Bytes}

/-- Once a free name has a node in a larger tree, which is no link, its place is taken. -/
theorem taken_of_free {t' : FileTree} {directory : Nat} {n : Bytes} {k parent : Nat}
    {entries : List (Bytes × Nat)} (h : Spot t follow links i ns (.free directory n))
    (he : Extends t t') (hd : t'.node? directory = some (.directory parent entries))
    (hk : entries.lookup n = some k) (hl : ¬ IsLink (t'.node? k)) :
    Spot t' true links i ns (.taken k) := by
  generalize hp : Place.free directory n = place at h
  induction h with
  | free hw _ hn _ =>
    cases hp
    exact .taken (he.way hw) hd hn hk fun _ => hl
  | taken => cases hp
  | jump hw hd hn hc hlink _ ih =>
    obtain ⟨more, hd'⟩ := he.directory hd
    have hs := ih hp
    rw [base, ← he.root] at hs
    exact .jump (he.way hw) hd' hn (Extends.lookup hc) (he.link hlink) hs

/-- The names lead to the node that a free name has got. -/
theorem way_free {t' : FileTree} {directory : Nat} {n : Bytes} {k parent : Nat}
    {entries : List (Bytes × Nat)} (h : Spot t follow links i ns (.free directory n))
    (he : Extends t t') (hd : t'.node? directory = some (.directory parent entries))
    (hk : entries.lookup n = some k) (hl : ¬ IsLink (t'.node? k)) :
    ∃ left, Way t' true links i ns k left := (h.taken_of_free he hd hk hl).way_taken

/-- A place that is taken stays so. -/
theorem taken_extends {t' : FileTree} {k : Nat} (h : Spot t true links i ns (.taken k))
    (he : Extends t t') : Spot t' true links i ns (.taken k) := by
  generalize hp : Place.taken k = place at h
  induction h with
  | free => cases hp
  | taken hw hd hn hc hl =>
    cases hp
    obtain ⟨more, hd'⟩ := he.directory hd
    exact .taken (he.way hw) hd' hn (Extends.lookup hc) fun _ => he.not_isLink (hl rfl)
  | jump hw hd hn hc hlink _ ih =>
    obtain ⟨more, hd'⟩ := he.directory hd
    have hs := ih hp
    rw [base, ← he.root] at hs
    exact .jump (he.way hw) hd' hn (Extends.lookup hc) (he.link hlink) hs

end Spot

section Nodes

variable {t : FileTree} {i d parent : Nat} {entries : List (Bytes × Nat)} {name : Bytes} {n : Node}

theorem lt_size (h : t.node? i = some n) : i < t.nodes.size :=
  (Array.getElem?_eq_some_iff.mp h).1

theorem node?_eq_none (h : t.node? i = none) : t.nodes.size ≤ i :=
  Array.getElem?_eq_none_iff.mp h

theorem addEntry_eq (hd : t.node? d = some (.directory parent entries)) :
    t.addEntry d name n =
      { t with nodes := (t.nodes.setIfInBounds d
                          (.directory parent (entries ++ [(name, t.nodes.size)]))).push n } := by
  rw [addEntry, hd]

theorem size_addEntry (hd : t.node? d = some (.directory parent entries)) :
    (t.addEntry d name n).nodes.size = t.nodes.size + 1 := by
  rw [addEntry_eq hd]
  simp

theorem node?_addEntry_directory (hd : t.node? d = some (.directory parent entries)) :
    (t.addEntry d name n).node? d =
      some (.directory parent (entries ++ [(name, t.nodes.size)])) := by
  have hlt := lt_size hd
  rw [addEntry_eq hd, node?]
  rw [Array.getElem?_push_lt (by simpa using hlt)]
  simp

theorem node?_addEntry_new (hd : t.node? d = some (.directory parent entries)) :
    (t.addEntry d name n).node? t.nodes.size = some n := by
  rw [addEntry_eq hd, node?]
  simp only [Array.getElem?_push, Array.size_setIfInBounds, if_true]

theorem node?_addEntry_of_ne (hd : t.node? d = some (.directory parent entries))
    (hi : i ≠ d) (hnew : i ≠ t.nodes.size) : (t.addEntry d name n).node? i = t.node? i := by
  rw [addEntry_eq hd, node?, node?]
  simp [Array.getElem?_push, hnew, hi.symm]

theorem node?_setNode (m : Node) (h : t.node? i = some n) :
    (t.setNode i m).node? i = some m := by
  have hlt := lt_size h
  rw [setNode, node?]
  simp [hlt]

theorem node?_setNode_of_ne {j : Nat} (m : Node) (h : j ≠ i) :
    (t.setNode i m).node? j = t.node? j := by
  rw [setNode, node?, node?]
  simp [h.symm]

theorem size_setNode (m : Node) : (t.setNode i m).nodes.size = t.nodes.size := by
  unfold setNode
  simp

end Nodes

namespace Extends

variable {t : FileTree}

theorem addEntry {d parent : Nat} {entries : List (Bytes × Nat)} {name : Bytes} {n : Node}
    (hd : t.node? d = some (.directory parent entries)) (hn : ¬ IsLink (some n)) :
    Extends t (t.addEntry d name n) := by
  have hne : ∀ {i m}, t.node? i = some m → i ≠ t.nodes.size := fun h he => by
    have := lt_size h
    omega
  have hsame : ∀ {i m}, t.node? i = some m → (∀ parent entries, m ≠ .directory parent entries) →
      (t.addEntry d name n).node? i = some m := by
    intro i m hi hm
    rw [node?_addEntry_of_ne hd ?_ (hne hi), hi]
    rintro rfl
    rw [hd] at hi
    exact hm _ _ (Option.some.inj hi).symm
  have hdlt := lt_size hd
  refine ⟨?_, ?_, ?_, ?_, ?_, ?_, ?_, ?_⟩
  · rw [addEntry_eq hd]
  · rw [addEntry_eq hd]
  · rw [size_addEntry hd]
    exact Nat.le_succ _
  · intro i parent' entries' hi
    by_cases he : i = d
    · subst he
      rw [hd] at hi
      cases hi
      exact ⟨_, node?_addEntry_directory hd⟩
    · exact ⟨[], by rw [node?_addEntry_of_ne hd he (hne hi), hi, List.append_nil]⟩
  · exact fun hi => hsame hi (by simp)
  · exact fun hi => ⟨_, _, _, hsame hi (by simp)⟩
  · exact fun hi => hsame hi (by simp)
  · intro i hi
    have hge := node?_eq_none hi
    by_cases he : i = t.nodes.size
    · rw [he, node?_addEntry_new hd]
      exact hn
    · rw [node?_addEntry_of_ne hd (by omega) he, hi]
      rintro ⟨target, h⟩
      cases h

/-- New contents for a file are no new node. -/
theorem setNode {i : Nat} {bytes bytes' : Bytes} {mode mode' : Nat} {modified modified' : Instant}
    (hi : t.node? i = some (.file bytes mode modified)) :
    Extends t (t.setNode i (.file bytes' mode' modified')) := by
  have hsame : ∀ {j m}, t.node? j = some m →
      (∀ bytes mode modified, m ≠ .file bytes mode modified) →
      (t.setNode i (.file bytes' mode' modified')).node? j = some m := by
    intro j m hj hm
    rw [node?_setNode_of_ne _ ?_, hj]
    rintro rfl
    rw [hi] at hj
    exact hm _ _ _ (Option.some.inj hj).symm
  refine ⟨rfl, rfl, Nat.le_of_eq (size_setNode _).symm, ?_, ?_, ?_, ?_, ?_⟩
  · exact fun hj => ⟨[], by rw [hsame hj (by simp), List.append_nil]⟩
  · exact fun hj => hsame hj (by simp)
  · intro j b m o hj
    by_cases he : j = i
    · rw [he, node?_setNode _ hi]
      exact ⟨_, _, _, rfl⟩
    · rw [node?_setNode_of_ne _ he, hj]
      exact ⟨_, _, _, rfl⟩
  · exact fun hj => hsame hj (by simp)
  · intro j hj
    have he : j ≠ i := by
      rintro rfl
      rw [hi] at hj
      cases hj
    rw [node?_setNode_of_ne _ he, hj]
    rintro ⟨target, h⟩
    cases h

end Extends

end TaggedLibrary.FileTree
