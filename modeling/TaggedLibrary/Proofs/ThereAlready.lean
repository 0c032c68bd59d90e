import TaggedLibrary.Proofs.PlainTree
/-!
Operations on what is there already: a directory is made once more, a file is opened and written
over. They go through, and nothing but the contents of files is different afterwards. Where these
come out as they were, the trees differ in times only.
-/

namespace TaggedLibrary.FileTree

open TaggedLibrary.Path (IsNormal)

section Directories

variable {t t' u : FileTree} {p : Path} {links i j left : Nat} {ns : List Bytes}

/-- The place of a directory is taken, or its last name is no plain one. -/
theorem place_of_directory (hw : Way t true links i ns j left) (hns : ∀ n ∈ ns, n ≠ [])
    {parent : Nat} {entries : List (Bytes × Nat)} (hj : t.node? j = some (.directory parent entries))
    (odd : IoError) : t.place false odd links i ns = .error odd ∨
      ∃ k, t.place false odd links i ns = .ok (.taken k) := by
  rw [place, placeWithin]
  rcases List.eq_nil_or_concat ns with rfl | ⟨init, n, rfl⟩
  · cases hw
    refine Or.inl ?_
    simp only [List.getLast?_nil, Option.getD_none, if_true, List.dropLast_nil, walk_nil, bind,
      Except.bind, hj, true_or]
  rw [List.concat_eq_append] at hw hns ⊢
  have hn : n ≠ [] := hns n (by simp)
  obtain ⟨k, between, hto, hlast⟩ := hw.split (by simp)
  simp only [List.getLast?_concat, Option.getD_some, if_neg hn, List.dropLast_concat, hto.walk,
    bind, Except.bind]
  cases hlast with
  | still hk hstill =>
    refine Or.inl ?_
    rcases hstill with hnil | hdot
    · exact absurd hnil hn
    · simp only [hk, hdot, true_or, or_true, if_true]
  | up hk =>
    refine Or.inl ?_
    simp only [hk, or_true, if_true]
  | last _ _ _ _ hf => cases hf
  | @down _ _ _ _ _ child _ _ _ hk hname hc hl =>
    refine Or.inr ⟨child, ?_⟩
    simp only [hk, if_neg hname.not_odd, if_neg (Nat.not_lt.mpr hname.short), hc]
    split
    · rename_i hlink
      exact absurd ⟨_, hlink⟩ hl
    · rfl
  | @jump _ _ _ _ _ child _ _ _ _ hk hname hc hl =>
    refine Or.inr ⟨child, ?_⟩
    simp only [hk, if_neg hname.not_odd, if_neg (Nat.not_lt.mpr hname.short), hc, hl]
    rfl

theorem makeDirectoryAt_there (h : DirectoryAt t p) :
    t.makeDirectoryAt p = .error .alreadyExists := by
  obtain ⟨d, parent, entries, hd, hnode⟩ := h
  obtain ⟨hr, left, hw⟩ := resolve_eq_ok.mp hd
  obtain ⟨ns, hnonempty, hns, hnames⟩ := names_cases p.bytes
  have hplace := place_of_directory (way_of_names hw hnames) hnonempty hnode .alreadyExists
  unfold makeDirectoryAt
  rw [hr]
  simp only [hns, bind, Except.bind]
  rcases hplace with hp | ⟨k, hp⟩
  · rw [hp]
  · rw [hp]

theorem isDirectory_of_directoryAt (h : DirectoryAt t p) : t.isDirectory p = true := by
  obtain ⟨d, parent, entries, hd, hnode⟩ := h
  rw [isDirectory, hd]
  simp only [hnode]

/-- Making a directory that is there changes nothing. -/
theorem makeDirectories_there (h : DirectoryAt t p) : (makeDirectories p).run t = (.ok (), t) := by
  unfold makeDirectories
  split
  · rfl
  · rfl
  · rw [ancestors_eq, run_makeChain_cons, makeDirectoryAt_there h]
    dsimp only
    rw [if_neg (by decide), if_pos ⟨rfl, isDirectory_of_directoryAt h⟩]

/-- A directory that has been made can be made again, and that changes nothing. -/
theorem makeDirectories_again (hup : Component.parent ∉ p.components)
    (h : (makeDirectories p).run t = (.ok (), u)) (he : Extends u t') :
    (makeDirectories p).run t' = (.ok (), t') := by
  rcases makeDirectories_ok hup h with hmade | ⟨_, hsteps⟩
  · exact makeDirectories_there (hmade.directoryAt.extends he)
  · unfold makeDirectories
    rcases hsteps with hsteps | hsteps
    · rw [hsteps]
      rfl
    · rw [hsteps]
      rfl

end Directories

section Files

variable {t : FileTree} {d j k parent : Nat} {entries : List (Bytes × Nat)} {p : Path} {n : Bytes}

/-- The place of a name in a directory is taken by what has the name there. -/
theorem spot_join (hp : p.bytes ≠ []) (hn : IsNormal n) (hs : n.length ≤ nameLimit)
    (hk : t.resolve p = .ok k) (hnode : t.node? k = some (.directory parent entries))
    (hc : entries.lookup n = some j) (hl : ¬ IsLink (t.node? j)) :
    Spot t true linkLimit (t.start (p.join ⟨n⟩).bytes) (names (p.join ⟨n⟩).bytes)
      (.taken j) := by
  obtain ⟨_, left, hw⟩ := resolve_eq_ok.mp hk
  obtain ⟨ns, hnames, hform⟩ := Path.names_join hp hn
  rw [hnames, start, Path.head?_bytes_join hp hn, ← start]
  exact .taken (way_of_names hw hform) hnode (isName_of_isNormal hn hs) hc fun _ => hl

/-- Opening a file that is there empties it. -/
theorem openEmpty_there {bytes : Bytes} {mode : Nat} {modified : Instant} (hp : p.bytes ≠ [])
    (hn : IsNormal n) (hr : t.resolve (p.join ⟨n⟩) = .ok j)
    (hl : ∀ {k child}, t.resolve p = .ok k → IsEntry t k n child → ¬ IsLink (t.node? child))
    (hj : t.node? j = some (.file bytes mode modified)) (mode' : Nat) :
    (openEmpty (p.join ⟨n⟩) mode').run t = (.ok j, t.setNode j (.file [] mode t.now)) := by
  obtain ⟨k, parent, entries, child, hk, hnode, hc, hs, hchild⟩ := resolve_join hp hn hr
  have hlink := hl hk (isEntry_of_lookup hnode hc)
  obtain rfl := hchild hlink
  exact openEmpty_of_taken (resolve_eq_ok.mp hr).1 (spot_join hp hn hs hk hnode hc hlink) hj mode'

/-- A file is copied over one that is there. -/
theorem copy_there {source : Path} (hsource : FileAt t source) (hp : p.bytes ≠ [])
    (hn : IsNormal n) (hdest : FileAt t (p.join ⟨n⟩))
    (hl : ∀ {k child}, t.resolve p = .ok k → IsEntry t k n child → ¬ IsLink (t.node? child)) :
    ∃ count t', (copy source (p.join ⟨n⟩)).run t = (.ok count, t') ∧ Extends t t' ∧
      Extends t' t := by
  obtain ⟨origin, bytes, mode, modified, ho, hi⟩ := hsource
  obtain ⟨j, bytes', mode', modified', hr, hj⟩ := hdest
  have hopen := openEmpty_there hp hn hr hl hj mode
  rw [run_copy, readRegular_of_file ho hi]
  simp only [ho, hopen]
  let emptied := t.setNode j (.file [] mode' t.now)
  have hemptied : Rewritten j t emptied := Or.inr ⟨_, _, _, _, _, _, hj, rfl⟩
  have hmode := putMode_rewritten j mode emptied
  have hbytes := putBytes_rewritten j ((putMode j mode emptied).bytesOf origin)
    (putMode j mode emptied)
  exact ⟨_, _, rfl, (hemptied.extends.trans hmode.extends).trans hbytes.extends,
    (hbytes.back.trans hmode.back).trans hemptied.back⟩

end Files

/-- A node without the time at which it was written. -/
def untimed : Node → Node
  | .file bytes mode _ => .file bytes mode ⟨0, 0⟩
  | node => node

/-- Trees that differ in times only: the same directories with the same names, and files with the
same bytes and modes. -/
structure SameButTimes (t t' : FileTree) : Prop where
  root : t'.root = t.root
  current : t'.current = t.current
  nodes : ∀ i, (t'.node? i).map untimed = (t.node? i).map untimed

namespace SameButTimes

variable {t t' t'' : FileTree} {d i : Nat}

theorem refl (t : FileTree) : SameButTimes t t := ⟨rfl, rfl, fun _ => rfl⟩

theorem symm (h : SameButTimes t t') : SameButTimes t' t :=
  ⟨h.root.symm, h.current.symm, fun i => (h.nodes i).symm⟩

theorem trans (h : SameButTimes t t') (h' : SameButTimes t' t'') : SameButTimes t t'' :=
  ⟨h'.root.trans h.root, h'.current.trans h.current, fun i => (h'.nodes i).trans (h.nodes i)⟩

theorem file (h : SameButTimes t t') {bytes : Bytes} {mode : Nat} {modified : Instant}
    (hi : t.node? i = some (.file bytes mode modified)) :
    ∃ modified, t'.node? i = some (.file bytes mode modified) := by
  have hnode := h.nodes i
  rw [hi, Option.map_some, Option.map_eq_some_iff] at hnode
  obtain ⟨node, hi', hsame⟩ := hnode
  cases node with
  | file bytes' mode' modified' =>
    obtain ⟨rfl, rfl, _⟩ := Node.file.inj hsame
    exact ⟨modified', hi'⟩
  | directory | link | device => cases hsame

theorem node? (h : SameButTimes t t') {node : Node} (hi : t.node? i = some node)
    (hn : ∀ bytes mode modified, node ≠ .file bytes mode modified) : t'.node? i = some node := by
  have huntimed : untimed node = node := by
    cases node with
    | file bytes mode modified => exact absurd rfl (hn bytes mode modified)
    | directory | link | device => rfl
  have hnode := h.nodes i
  rw [hi, Option.map_some, huntimed, Option.map_eq_some_iff] at hnode
  obtain ⟨node', hi', hsame⟩ := hnode
  cases node' with
  | file bytes mode modified => exact absurd hsame.symm (hn _ _ _)
  | directory | link | device => rw [hi', ← hsame]; rfl

theorem missing (h : SameButTimes t t') (hi : t.node? i = none) : t'.node? i = none := by
  have hnode := h.nodes i
  rwa [hi, Option.map_none, Option.map_eq_none_iff] at hnode

end SameButTimes

section Same

variable {t t' : FileTree} {d i : Nat}

theorem SameButTimes.extends (h : SameButTimes t t') : Extends t t' where
  root := h.root
  current := h.current
  size := Nat.le_of_not_lt fun hlt => by
    have hnone := h.symm.missing (Array.getElem?_eq_none (Nat.le_refl t'.nodes.size))
    have hle := node?_eq_none hnone
    omega
  directory := fun hi => ⟨[], by rw [List.append_nil]; exact h.node? hi (by simp)⟩
  link := fun hi => h.node? hi (by simp)
  file := fun hi => by
    obtain ⟨modified, hi'⟩ := h.file hi
    exact ⟨_, _, modified, hi'⟩
  device := fun hi => h.node? hi (by simp)
  fresh := fun hi ⟨target, hl⟩ => by
    rw [h.missing hi] at hl
    cases hl

/-- Trees of which neither has more in it than the other differ in times only, if the files are the
same otherwise. -/
theorem sameButTimes_of_extends (h : Extends t t') (h' : Extends t' t)
    (hf : ∀ i bytes mode modified, t.node? i = some (.file bytes mode modified) →
      ∃ modified, t'.node? i = some (.file bytes mode modified)) : SameButTimes t t' := by
  refine ⟨h.root, h.current, fun i => ?_⟩
  cases hi : t.node? i with
  | none =>
    have hle := node?_eq_none hi
    rw [FileTree.node?, Array.getElem?_eq_none (Nat.le_trans h'.size hle)]
  | some node =>
    cases node with
    | file bytes mode modified =>
      obtain ⟨modified', hi'⟩ := hf i bytes mode modified hi
      rw [hi']
      rfl
    | directory parent entries => rw [h.directory_eq h' hi]
    | link target => rw [h.link hi]
    | device => rw [h.device hi]

theorem SameButTimes.isEntry (h : SameButTimes t t') {n : Bytes} {child : Nat} (he : IsEntry t i n child) :
    IsEntry t' i n child := by
  obtain ⟨parent, entries, hi, hm⟩ := he
  exact ⟨parent, entries, h.node? hi (by simp), hm⟩

theorem SameButTimes.below (h : SameButTimes t t') (hb : Below t d i) : Below t' d i := by
  induction hb with
  | top => exact .top
  | entry _ he ih => exact .entry ih (h.isEntry he)

theorem SameButTimes.plain (h : SameButTimes t t') (hp : Plain t d) : Plain t' d where
  noLink := fun hb => h.extends.not_isLink (hp.noLink (h.symm.below hb))
  inside := fun hb he =>
    Nat.lt_of_lt_of_le (hp.inside (h.symm.below hb) (h.symm.isEntry he)) h.extends.size
  top := fun hb he => hp.top (h.symm.below hb) (h.symm.isEntry he)
  unique := fun hb hb' he he' =>
    hp.unique (h.symm.below hb) (h.symm.below hb') (h.symm.isEntry he) (h.symm.isEntry he')

end Same

end TaggedLibrary.FileTree
