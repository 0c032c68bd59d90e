import Mathlib.Logic.Relation
import TaggedLibrary.Proofs.Growth
/-!
What the operations on a tree change: each of them makes directories at some paths and files at
others, and gives new contents to files that such paths lead to. A file that none of the paths leads
to stays as it is.
-/

namespace TaggedLibrary.FileTree

/-- One change: a directory at one of the paths `dirs`, an empty file at one of the paths `files`,
or other contents for a file to which one of these leads. -/
inductive Change (dirs files : Path → Prop) (t : FileTree) : FileTree → Prop
  | directory {p : Path} {d : Nat} {name : Bytes} {ns : List Bytes} (hp : dirs p)
      (hr : refuse? p = none) (hns : names p.bytes = ns ∨ names p.bytes = ns ++ [[]])
      (hs : Spot t false linkLimit (t.start p.bytes) ns (.free d name)) :
      Change dirs files t (t.addEntry d name (.directory d []))
  | file {p : Path} {d mode : Nat} {name : Bytes} (hp : files p) (hr : refuse? p = none)
      (hs : Spot t true linkLimit (t.start p.bytes) (names p.bytes) (.free d name)) :
      Change dirs files t (t.addEntry d name (.file [] mode t.now))
  | contents {p : Path} {i mode : Nat} {bytes : Bytes} {modified : Instant} (hp : files p)
      (hr : t.resolve p = .ok i) (hi : t.node? i = some (.file bytes mode modified))
      (bytes' : Bytes) (mode' : Nat) (modified' : Instant) :
      Change dirs files t (t.setNode i (.file bytes' mode' modified'))

/-- Changes one after another. -/
abbrev Changes (dirs files : Path → Prop) : FileTree → FileTree → Prop :=
  Relation.ReflTransGen (Change dirs files)

section Change

variable {dirs files : Path → Prop} {t t' : FileTree}

theorem Change.mono {dirs' files' : Path → Prop} (h : Change dirs files t t')
    (hd : ∀ p, dirs p → dirs' p) (hf : ∀ p, files p → files' p) : Change dirs' files' t t' := by
  cases h with
  | directory hp hr hns hs => exact .directory (hd _ hp) hr hns hs
  | file hp hr hs => exact .file (hf _ hp) hr hs
  | contents hp hr hi bytes mode modified => exact .contents (hf _ hp) hr hi bytes mode modified

theorem Changes.mono {dirs' files' : Path → Prop} (h : Changes dirs files t t')
    (hd : ∀ p, dirs p → dirs' p) (hf : ∀ p, files p → files' p) : Changes dirs' files' t t' := by
  have hle : Change dirs files ≤ Change dirs' files' := fun _ _ hc => hc.mono hd hf
  exact Relation.ReflTransGen.mono hle _ _ h

/-- No change takes anything away. -/
theorem Change.extends (h : Change dirs files t t') : Extends t t' := by
  cases h with
  | directory hp hr hns hs =>
    obtain ⟨_, _, _, hd, _⟩ := hs.free_node
    exact Extends.addEntry hd (by rintro ⟨_, h⟩; cases h)
  | file hp hr hs =>
    obtain ⟨_, _, _, hd, _⟩ := hs.free_node
    exact Extends.addEntry hd (by rintro ⟨_, h⟩; cases h)
  | contents hp hr hi bytes mode modified => exact Extends.setNode hi

theorem Changes.extends (h : Changes dirs files t t') : Extends t t' := by
  induction h with
  | refl => exact Extends.refl t
  | tail _ hc ih => exact ih.trans hc.extends

/-- A change leaves every file alone but one that a path leads to. -/
theorem Change.file_kept (h : Change dirs files t t') {i mode : Nat} {bytes : Bytes}
    {modified : Instant} (hi : t.node? i = some (.file bytes mode modified)) :
    t'.node? i = t.node? i ∨ ∃ p, files p ∧ t.resolve p = .ok i := by
  have hadd : ∀ {d : Nat} {name : Bytes} {n : Node} {parent : Nat} {entries : List (Bytes × Nat)},
      t.node? d = some (.directory parent entries) → (t.addEntry d name n).node? i = t.node? i := by
    intro d name n parent entries hd
    have hlt := lt_size hi
    refine node?_addEntry_of_ne hd ?_ (by omega)
    rintro rfl
    rw [hd] at hi
    cases hi
  cases h with
  | directory hp hr hns hs =>
    obtain ⟨_, _, _, hd, _⟩ := hs.free_node
    exact Or.inl (hadd hd)
  | file hp hr hs =>
    obtain ⟨_, _, _, hd, _⟩ := hs.free_node
    exact Or.inl (hadd hd)
  | @contents p j _ _ _ hp hr hj bytes' mode' modified' =>
    by_cases he : i = j
    · exact Or.inr ⟨p, hp, he ▸ hr⟩
    · exact Or.inl (node?_setNode_of_ne _ he)

/-- A file to which none of the paths leads in the end has never been changed. -/
theorem Changes.file_kept (h : Changes dirs files t t') {i mode : Nat} {bytes : Bytes}
    {modified : Instant} (hi : t.node? i = some (.file bytes mode modified)) :
    t'.node? i = some (.file bytes mode modified) ∨ ∃ p, files p ∧ t'.resolve p = .ok i := by
  induction h with
  | refl => exact Or.inl hi
  | @tail u v _ hc ih =>
    rcases ih with hu | ⟨p, hp, hr⟩
    · rcases hc.file_kept hu with hk | ⟨p, hp, hr⟩
      · exact Or.inl (hk.trans hu)
      · exact Or.inr ⟨p, hp, hc.extends.resolve hr⟩
    · exact Or.inr ⟨p, hp, hc.extends.resolve hr⟩

/-- New directories leave files alone. -/
theorem Changes.file_stays (h : Changes dirs (fun _ => False) t t') {i mode : Nat} {bytes : Bytes}
    {modified : Instant} (hi : t.node? i = some (.file bytes mode modified)) :
    t'.node? i = some (.file bytes mode modified) :=
  (h.file_kept hi).resolve_right fun ⟨_, hnone, _⟩ => hnone

end Change

section Directories

variable {t t' : FileTree} {p : Path}

/-- The names of a path, where a slash at the end counts for nothing. -/
theorem names_cases (b : Bytes) : ∃ ns, (∀ n ∈ ns, n ≠ []) ∧
    (if (names b).getLast? = some [] then (names b).dropLast else names b) = ns ∧
    (names b = ns ∨ names b = ns ++ [[]]) := by
  have hnonempty : ∀ n ∈ (Path.segments b).filter (· != []), n ≠ [] := by
    intro n hn
    simpa using (List.mem_filter.mp hn).2
  refine ⟨(Path.segments b).filter (· != []), hnonempty, ?_⟩
  by_cases hslash : b.getLast? = some Path.slash
  · rw [names, if_pos hslash]
    exact ⟨by rw [List.getLast?_concat, if_pos rfl, List.dropLast_concat], Or.inr rfl⟩
  · rw [names, if_neg hslash, List.append_nil]
    exact ⟨if_neg fun hl => hnonempty _ (List.mem_of_getLast? hl) rfl, Or.inl rfl⟩

theorem makeDirectoryAt_eq_ok (h : t.makeDirectoryAt p = .ok t') : refuse? p = none ∧
    ∃ ns d name, (names p.bytes = ns ∨ names p.bytes = ns ++ [[]]) ∧
      Spot t false linkLimit (t.start p.bytes) ns (.free d name) ∧
      t' = t.addEntry d name (.directory d []) := by
  unfold makeDirectoryAt at h
  cases hr : refuse? p with
  | some e =>
    rw [hr] at h
    cases h
  | none =>
    refine ⟨rfl, ?_⟩
    rw [hr] at h
    simp only [bind, Except.bind] at h
    obtain ⟨ns, _, hns, hnames⟩ := names_cases p.bytes
    rw [hns] at h
    rcases hpl : t.place false .alreadyExists linkLimit (t.start p.bytes) ns with e | place
    · rw [hpl] at h
      cases h
    · rw [hpl] at h
      cases place with
      | taken i => cases h
      | free d name =>
        cases h
        exact ⟨ns, d, name, hnames, spot_of_place hpl, rfl⟩

/-- A slash behind the name of a directory leads to it again. -/
theorem way_of_directory {i j left parent : Nat} {entries : List (Bytes × Nat)} {ns ms : List Bytes}
    (h : Way t true linkLimit i ns j left) (hj : t.node? j = some (.directory parent entries))
    (hm : ms = ns ∨ ms = ns ++ [[]]) : Way t true linkLimit i ms j left := by
  rcases hm with rfl | rfl
  · exact h
  · exact h.append (.still hj (Or.inl rfl) .here) (by simp)

/-- A node that is put under the name which a path leads to is where the path leads from then on.
Behind a slash it has to be a directory. -/
theorem Spot.resolve_new {follow : Bool} {ns : List Bytes} {d : Nat} {name : Bytes} {n : Node}
    (hr : refuse? p = none) (hs : Spot t follow linkLimit (t.start p.bytes) ns (.free d name))
    (hn : ¬ IsLink (some n)) (hns : names p.bytes = ns ∨
      names p.bytes = ns ++ [[]] ∧ ∃ parent entries, n = .directory parent entries) :
    (t.addEntry d name n).node? t.nodes.size = some n ∧
      (t.addEntry d name n).resolve p = .ok t.nodes.size := by
  obtain ⟨_, parent, entries, hd, hc⟩ := hs.free_node
  have hnew : (t.addEntry d name n).node? t.nodes.size = some n := node?_addEntry_new hd
  have he : Extends t (t.addEntry d name n) := Extends.addEntry hd hn
  obtain ⟨left, hway⟩ := hs.way_free (k := t.nodes.size) he (node?_addEntry_directory hd)
    (by rw [List.lookup_append, hc]; simp) (by rw [hnew]; exact hn)
  refine ⟨hnew, resolve_eq_ok.mpr ⟨hr, left, ?_⟩⟩
  rw [he.start]
  rcases hns with hns | ⟨hns, up, es, rfl⟩
  · rw [hns]
    exact hway
  · exact way_of_directory hway hnew (Or.inr hns)

/-- What is new after a change is an empty directory or an empty file, and one of the paths leads
to it. -/
theorem Change.fresh {dirs files : Path → Prop} (h : Change dirs files t t') {i : Nat} {n : Node}
    (hi : t.node? i = none) (hn : t'.node? i = some n) :
    (∃ p d, dirs p ∧ t'.resolve p = .ok i ∧ n = .directory d []) ∨
      ∃ p mode, files p ∧ t'.resolve p = .ok i ∧ n = .file [] mode t.now := by
  have hadded : ∀ {d : Nat} {name : Bytes} {m : Node} {parent : Nat}
      {entries : List (Bytes × Nat)}, t.node? d = some (.directory parent entries) →
      (t.addEntry d name m).node? i = some n → i = t.nodes.size ∧ n = m := by
    intro d name m parent entries hd hm
    have hne : i ≠ d := by
      rintro rfl
      rw [hi] at hd
      cases hd
    by_cases hnew : i = t.nodes.size
    · subst hnew
      rw [node?_addEntry_new hd] at hm
      exact ⟨rfl, (Option.some.inj hm).symm⟩
    · rw [node?_addEntry_of_ne hd hne hnew, hi] at hm
      cases hm
  cases h with
  | @directory p d name ns hp hr hns hs =>
    obtain ⟨_, _, _, hd, _⟩ := hs.free_node
    obtain ⟨rfl, rfl⟩ := hadded hd hn
    have hlink : ¬ IsLink (some (.directory d [])) := by
      rintro ⟨_, h⟩
      cases h
    exact Or.inl ⟨p, d, hp, (hs.resolve_new hr hlink (hns.imp_right fun h => ⟨h, d, [], rfl⟩)).2,
      rfl⟩
  | @file p d mode name hp hr hs =>
    obtain ⟨_, _, _, hd, _⟩ := hs.free_node
    obtain ⟨rfl, rfl⟩ := hadded hd hn
    have hlink : ¬ IsLink (some (.file [] mode t.now)) := by
      rintro ⟨_, h⟩
      cases h
    exact Or.inr ⟨p, mode, hp, (hs.resolve_new hr hlink (Or.inl rfl)).2, rfl⟩
  | @contents _ j _ _ _ _ _ hj =>
    have hne : i ≠ j := by
      rintro rfl
      rw [hi] at hj
      cases hj
    rw [node?_setNode_of_ne _ hne, hi] at hn
    cases hn

/-- What is new after changes is a directory or a file, and one of the paths leads to it. -/
theorem Changes.fresh {dirs files : Path → Prop} (h : Changes dirs files t t') {i : Nat} {n : Node}
    (hi : t.node? i = none) (hn : t'.node? i = some n) :
    (∃ p parent entries, dirs p ∧ t'.resolve p = .ok i ∧ n = .directory parent entries) ∨
      ∃ p bytes mode modified, files p ∧ t'.resolve p = .ok i ∧ n = .file bytes mode modified := by
  induction h generalizing n with
  | refl =>
    rw [hi] at hn
    cases hn
  | @tail u v _ hc ih =>
    cases hu : u.node? i with
    | none =>
      rcases hc.fresh hu hn with ⟨p, d, hp, hr, rfl⟩ | ⟨p, mode, hp, hr, rfl⟩
      · exact Or.inl ⟨p, d, [], hp, hr, rfl⟩
      · exact Or.inr ⟨p, [], mode, u.now, hp, hr, rfl⟩
    | some m =>
      rcases ih hu with ⟨p, parent, entries, hp, hr, rfl⟩ | ⟨p, bytes, mode, modified, hp, hr, rfl⟩
      · obtain ⟨more, hv⟩ := hc.extends.directory hu
        rw [hn] at hv
        exact Or.inl ⟨p, _, _, hp, hc.extends.resolve hr, Option.some.inj hv⟩
      · obtain ⟨_, _, _, hv⟩ := hc.extends.file hu
        rw [hn] at hv
        exact Or.inr ⟨p, _, _, _, hp, hc.extends.resolve hr, Option.some.inj hv⟩

/-- A new directory is empty, and its path leads to it. -/
theorem makeDirectoryAt_resolve (h : t.makeDirectoryAt p = .ok t') :
    ∃ i parent, t.nodes.size ≤ i ∧ t'.resolve p = .ok i ∧
      t'.node? i = some (.directory parent []) := by
  obtain ⟨hr, ns, d, name, hns, hs, rfl⟩ := makeDirectoryAt_eq_ok h
  have hlink : ¬ IsLink (some (.directory d [])) := by
    rintro ⟨_, h⟩
    cases h
  obtain ⟨hnew, hres⟩ := hs.resolve_new hr hlink (hns.imp_right fun h => ⟨h, d, [], rfl⟩)
  exact ⟨t.nodes.size, d, Nat.le_refl _, hres, hnew⟩

theorem run_makeDirectory (p : Path) (t : FileTree) :
    (makeDirectory p).run t = match t.makeDirectoryAt p with
      | .ok t => (.ok (), t)
      | .error e => (.error e, t) := rfl

theorem run_makeChain (p : Path) (above : List Path) (t : FileTree) :
    (makeChain (p :: above)).run t = match (makeDirectory p).run t with
      | (.ok _, t) => (.ok (), t)
      | (.error e, t) =>
        if e = .notFound then
          match (makeChain above).run t with
          | (.ok _, t) =>
            match (makeDirectory p).run t with
            | (.error e, t) =>
              if e = .alreadyExists ∧ t.isDirectory p then (.ok (), t) else (.error e, t)
            | done => done
          | failed => failed
        else if e = .alreadyExists ∧ t.isDirectory p then (.ok (), t) else (.error e, t) := rfl

theorem run_makeChain_cons (p : Path) (above : List Path) (t : FileTree) :
    (makeChain (p :: above)).run t = match t.makeDirectoryAt p with
      | .ok t => (.ok (), t)
      | .error e =>
        if e = .notFound then
          match (makeChain above).run t with
          | (.ok _, t) =>
            match t.makeDirectoryAt p with
            | .ok t => (.ok (), t)
            | .error e =>
              if e = .alreadyExists ∧ t.isDirectory p then (.ok (), t) else (.error e, t)
          | (.error e, t) => (.error e, t)
        else if e = .alreadyExists ∧ t.isDirectory p then (.ok (), t) else (.error e, t) := by
  rw [run_makeChain, run_makeDirectory]
  rcases t.makeDirectoryAt p with e | t'
  · simp only
    rcases (makeChain above).run t with ⟨e' | _, u⟩
    · rfl
    · simp only [run_makeDirectory]
      rcases u.makeDirectoryAt p with e' | u' <;> rfl
  · rfl

/-- Going up and down again makes directories at the given paths only. -/
theorem makeChain_changes (files : Path → Prop) (ps : List Path) (t : FileTree) :
    Changes (· ∈ ps) files t ((makeChain ps).run t).2 := by
  induction ps generalizing t with
  | nil => exact .refl
  | cons p above ih =>
    have hone : ∀ {u u' : FileTree}, u.makeDirectoryAt p = .ok u' →
        Changes (· ∈ p :: above) files u u' := by
      intro u u' h
      obtain ⟨hr, ns, d, name, hns, hs, rfl⟩ := makeDirectoryAt_eq_ok h
      exact .single (.directory (List.mem_cons_self ..) hr hns hs)
    have hup : Changes (· ∈ p :: above) files t ((makeChain above).run t).2 :=
      (ih t).mono (fun q hq => List.mem_cons_of_mem p hq) (fun _ h => h)
    rw [run_makeChain_cons]
    rcases h : t.makeDirectoryAt p with e | t'
    · simp only
      by_cases hn : e = .notFound
      · rw [if_pos hn]
        rcases hc : (makeChain above).run t with ⟨e' | _, u⟩
        · rw [hc] at hup
          exact hup
        · rw [hc] at hup
          simp only
          rcases hu : u.makeDirectoryAt p with e' | u'
          · simp only
            split <;> exact hup
          · exact hup.trans (hone hu)
      · rw [if_neg hn]
        split <;> exact .refl
    · exact hone h

theorem makeDirectories_changes (files : Path → Prop) (p : Path) (t : FileTree) :
    Changes (· ∈ ancestors p) files t ((makeDirectories p).run t).2 := by
  unfold makeDirectories
  split
  · exact .refl
  · exact .refl
  · exact makeChain_changes files _ t

theorem changes_of_makeDirectories {result : Except IoError Unit}
    (h : (makeDirectories p).run t = (result, t')) (files : Path → Prop) :
    Changes (· ∈ ancestors p) files t t' := by
  have hc := makeDirectories_changes files p t
  rwa [h] at hc

end Directories

section Files

variable {t t' : FileTree} {p : Path} {i mode : Nat} {bytes : Bytes}
  {modified : Instant}

/-- The same tree, but that the file at a node may have got other contents. -/
def Rewritten (i : Nat) (t t' : FileTree) : Prop :=
  t' = t ∨ ∃ bytes mode modified bytes' mode' modified',
    t.node? i = some (.file bytes mode modified) ∧
      t' = t.setNode i (.file bytes' mode' modified')

theorem Rewritten.changes (dirs : Path → Prop) (h : Rewritten i t t') (hr : t.resolve p = .ok i) :
    Changes dirs (· = p) t t' := by
  rcases h with rfl | ⟨_, _, _, bytes, mode, modified, hi, rfl⟩
  · exact .refl
  · exact .single (.contents (by rfl) hr hi bytes mode modified)

theorem Rewritten.extends (h : Rewritten i t t') : Extends t t' := by
  rcases h with rfl | ⟨_, _, _, _, _, _, hi, rfl⟩
  · exact Extends.refl _
  · exact Extends.setNode hi

theorem setNode_setNode (t : FileTree) (i : Nat) (n m : Node) :
    (t.setNode i n).setNode i m = t.setNode i m := by
  simp only [setNode, Array.setIfInBounds_setIfInBounds]

theorem setNode_back {n : Node} (hi : t.node? i = some n) (m : Node) :
    (t.setNode i m).setNode i n = t := by
  obtain ⟨hlt, hget⟩ := Array.getElem?_eq_some_iff.mp hi
  rw [setNode_setNode, setNode, ← hget, Array.setIfInBounds_def, dif_pos hlt,
    Array.set_getElem_self]

/-- New contents for a file can be taken back. -/
theorem Rewritten.back (h : Rewritten i t t') : Extends t' t := by
  rcases h with rfl | ⟨bytes, mode, modified, bytes', mode', modified', hi, rfl⟩
  · exact Extends.refl _
  · have hback : Extends (t.setNode i (.file bytes' mode' modified'))
        ((t.setNode i (.file bytes' mode' modified')).setNode i (.file bytes mode modified)) :=
      Extends.setNode (node?_setNode _ hi)
    rwa [setNode_back hi] at hback

theorem putBytes_rewritten (i : Nat) (bytes : Bytes) (t : FileTree) :
    Rewritten i t (putBytes i bytes t) := by
  unfold putBytes
  split
  · rename_i hi
    exact Or.inr ⟨_, _, _, _, _, _, hi, rfl⟩
  · exact Or.inl rfl

theorem putMode_rewritten (i mode : Nat) (t : FileTree) : Rewritten i t (putMode i mode t) := by
  unfold putMode
  split
  · rename_i hi
    exact Or.inr ⟨_, _, _, _, _, _, hi, rfl⟩
  · exact Or.inl rfl

theorem putModified_rewritten (i : Nat) (modified : Instant) (t : FileTree) :
    Rewritten i t (putModified i modified t) := by
  unfold putModified
  split
  · rename_i hi
    exact Or.inr ⟨_, _, _, _, _, _, hi, rfl⟩
  · exact Or.inl rfl

theorem read_of_file (hr : t.resolve p = .ok i)
    (hi : t.node? i = some (.file bytes mode modified)) : t.read p = .ok bytes := by
  simp only [read, hr, bind, Except.bind, hi]

theorem modified_of_file (hr : t.resolve p = .ok i)
    (hi : t.node? i = some (.file bytes mode modified)) : t.modified p = .ok modified := by
  simp only [FileTree.modified, hr, bind, Except.bind, hi]

theorem putBytes_of_file (h : t.node? i = some (.file bytes mode modified)) (bytes' : Bytes) :
    putBytes i bytes' t = t.setNode i (.file bytes' mode t.now) := by
  simp only [putBytes, h]

theorem putMode_of_file (h : t.node? i = some (.file bytes mode modified)) (mode' : Nat) :
    putMode i mode' t = t.setNode i (.file bytes mode' modified) := by
  simp only [putMode, h]

theorem putModified_of_file (h : t.node? i = some (.file bytes mode modified))
    (modified' : Instant) :
    putModified i modified' t = t.setNode i (.file bytes mode modified') := by
  simp only [putModified, h]

theorem node?_putBytes (h : t.node? i = some (.file bytes mode modified)) (bytes' : Bytes) :
    (putBytes i bytes' t).node? i = some (.file bytes' mode t.now) := by
  rw [putBytes_of_file h]
  exact node?_setNode _ h

theorem node?_putMode (h : t.node? i = some (.file bytes mode modified)) (mode' : Nat) :
    (putMode i mode' t).node? i = some (.file bytes mode' modified) := by
  rw [putMode_of_file h]
  exact node?_setNode _ h

theorem node?_putModified (h : t.node? i = some (.file bytes mode modified)) (modified' : Instant) :
    (putModified i modified' t).node? i = some (.file bytes mode modified') := by
  rw [putModified_of_file h]
  exact node?_setNode _ h

/-- A device takes whatever is put there, and stays as it is. -/
theorem put_of_device (h : t.node? i = some .device) (bytes : Bytes) (mode : Nat)
    (modified : Instant) :
    putModified i modified (putBytes i bytes (putMode i mode t)) = t := by
  simp only [putMode, putBytes, putModified, h]

theorem Rewritten.node?_of_ne (h : Rewritten i t t') {j : Nat} (hj : j ≠ i) :
    t'.node? j = t.node? j := by
  rcases h with rfl | ⟨_, _, _, _, _, _, _, rfl⟩
  · rfl
  · exact node?_setNode_of_ne _ hj

theorem run_openEmpty (p : Path) (mode : Nat) (t : FileTree) : (openEmpty p mode).run t =
    match refuse? p with
    | some e => (.error e, t)
    | none =>
      match t.place true .isDirectory linkLimit (t.start p.bytes) (names p.bytes) with
      | .error e => (.error e, t)
      | .ok (.free directory name) =>
        (.ok t.nodes.size, t.addEntry directory name (.file [] mode t.now))
      | .ok (.taken i) =>
        match t.node? i with
        | some (.file _ mode _) => (.ok i, t.setNode i (.file [] mode t.now))
        | some .device => (.ok i, t)
        | _ => (.error .isDirectory, t) := rfl

/-- What is opened for writing is new, or it is there already, and then it is emptied if it is a
file. -/
inductive Opened (p : Path) (mode : Nat) (t : FileTree) : Nat → FileTree → Prop
  | new {d : Nat} {name : Bytes}
      (hs : Spot t true linkLimit (t.start p.bytes) (names p.bytes) (.free d name)) :
      Opened p mode t t.nodes.size (t.addEntry d name (.file [] mode t.now))
  | file {i mode' : Nat} {bytes : Bytes} {modified : Instant}
      (hs : Spot t true linkLimit (t.start p.bytes) (names p.bytes) (.taken i))
      (hi : t.node? i = some (.file bytes mode' modified)) :
      Opened p mode t i (t.setNode i (.file [] mode' t.now))
  | device {i : Nat} (hs : Spot t true linkLimit (t.start p.bytes) (names p.bytes) (.taken i))
      (hi : t.node? i = some .device) : Opened p mode t i t

theorem opened_of_openEmpty (h : (openEmpty p mode).run t = (.ok i, t')) :
    refuse? p = none ∧ Opened p mode t i t' := by
  rw [run_openEmpty] at h
  cases hr : refuse? p with
  | some e =>
    rw [hr] at h
    cases h
  | none =>
    rw [hr] at h
    simp only at h
    rcases hpl : t.place true .isDirectory linkLimit (t.start p.bytes) (names p.bytes) with
      e | place
    · rw [hpl] at h
      cases h
    · rw [hpl] at h
      have hs := spot_of_place hpl
      cases place with
      | free d name =>
        cases h
        exact ⟨rfl, .new hs⟩
      | taken k =>
        simp only at h
        split at h
        · rename_i hk
          cases h
          exact ⟨rfl, .file hs hk⟩
        · rename_i hk
          cases h
          exact ⟨rfl, .device hs hk⟩
        · cases h

theorem resolve_of_taken (hr : refuse? p = none)
    (hs : Spot t true linkLimit (t.start p.bytes) (names p.bytes) (.taken i)) :
    t.resolve p = .ok i :=
  resolve_eq_ok.mpr ⟨hr, hs.way_taken⟩

/-- A file that is there is emptied when it is opened for writing. -/
theorem openEmpty_of_taken (hr : refuse? p = none)
    (hs : Spot t true linkLimit (t.start p.bytes) (names p.bytes) (.taken i))
    (hi : t.node? i = some (.file bytes mode modified)) (mode' : Nat) :
    (openEmpty p mode').run t = (.ok i, t.setNode i (.file [] mode t.now)) := by
  rw [run_openEmpty, hr, hs.place]
  simp only [hi]

/-- What has been opened for writing is where the names of its path lead. -/
theorem Opened.spot (h : Opened p mode t i t') :
    Spot t' true linkLimit (t'.start p.bytes) (names p.bytes) (.taken i) := by
  cases h with
  | @new d name hs =>
    obtain ⟨_, parent, entries, hd, hc⟩ := hs.free_node
    have hlink : ¬ IsLink (some (.file [] mode t.now)) := by
      rintro ⟨_, h⟩
      cases h
    have hnew : (t.addEntry d name (.file [] mode t.now)).node? t.nodes.size =
        some (.file [] mode t.now) := node?_addEntry_new hd
    have hgrown : Extends t (t.addEntry d name (.file [] mode t.now)) := .addEntry hd hlink
    rw [hgrown.start]
    exact hs.taken_of_free hgrown (node?_addEntry_directory hd)
      (by rw [List.lookup_append, hc]; simp) (by rw [hnew]; exact hlink)
  | @file _ mode' _ _ hs hi =>
    have hgrown : Extends t (t.setNode i (.file [] mode' t.now)) := .setNode hi
    rw [hgrown.start]
    exact hs.taken_extends hgrown
  | device hs => exact hs

/-- A file that has been opened for writing is empty, and a device is left as it is. -/
theorem Opened.node (h : Opened p mode t i t') :
    (∃ mode', t'.node? i = some (.file [] mode' t.now)) ∨ t.node? i = some .device ∧ t' = t := by
  cases h with
  | new hs =>
    obtain ⟨_, _, _, hd, _⟩ := hs.free_node
    exact Or.inl ⟨mode, node?_addEntry_new hd⟩
  | @file _ mode' _ _ _ hi => exact Or.inl ⟨mode', node?_setNode _ hi⟩
  | device _ hi => exact Or.inr ⟨hi, rfl⟩

/-- What has been opened for writing was there, or it is a new node. -/
theorem Opened.place (hr : refuse? p = none) (h : Opened p mode t i t') :
    t.resolve p = .ok i ∨ t.node? i = none := by
  cases h with
  | new => exact Or.inr (Array.getElem?_eq_none (Nat.le_refl _))
  | file hs | device hs => exact Or.inl (resolve_of_taken hr hs)

/-- What is open for writing is what its path leads to, and it is empty. -/
theorem openEmpty_ok (dirs : Path → Prop) (h : (openEmpty p mode).run t = (.ok i, t')) :
    Changes dirs (· = p) t t' ∧ t'.resolve p = .ok i ∧
      ((∃ mode', t'.node? i = some (.file [] mode' t.now)) ∨ t'.node? i = some .device) := by
  obtain ⟨hr, hopened⟩ := opened_of_openEmpty h
  refine ⟨?_, resolve_of_taken hr hopened.spot, ?_⟩
  · cases hopened with
    | new hs => exact .single (.file rfl hr hs)
    | @file _ mode' _ _ hs hi =>
      exact .single (.contents (by rfl) (resolve_of_taken hr hs) hi [] mode' t.now)
    | device => exact .refl
  · rcases hopened.node with hfile | ⟨hdevice, rfl⟩
    · exact Or.inl hfile
    · exact Or.inr hdevice

theorem openEmpty_error {e : IoError} (h : (openEmpty p mode).run t = (.error e, t')) : t' = t := by
  rw [run_openEmpty] at h
  split at h
  · cases h
    rfl
  · split at h
    · cases h
      rfl
    · cases h
    · split at h
      · cases h
      · cases h
      · cases h
        rfl

theorem run_copy (source dest : Path) (t : FileTree) : (copy source dest).run t =
    match t.readRegular source with
    | .error e => (.error e, t)
    | .ok (_, mode) =>
      match t.resolve source with
      | .error e => (.error e, t)
      | .ok origin =>
        match (openEmpty dest mode).run t with
        | (.error e, t) => (.error e, t)
        | (.ok target, t) =>
          (.ok ((putMode target mode t).bytesOf origin).length,
            putBytes target ((putMode target mode t).bytesOf origin) (putMode target mode t)) := by
  rw [copy, Disk.run_bind, Disk.run_ask]
  rcases t.readRegular source with e | ⟨bytes, mode⟩
  · rfl
  · simp only [Disk.run_bind, Disk.run_ask]
    rcases t.resolve source with e | origin
    · rfl
    · simp only
      rcases (openEmpty dest mode).run t with ⟨e | target, u⟩ <;> rfl

theorem readRegular_eq_ok (h : t.readRegular p = .ok (bytes, mode)) :
    ∃ i modified, t.resolve p = .ok i ∧ t.node? i = some (.file bytes mode modified) := by
  unfold readRegular at h
  rcases hr : t.resolve p with e | i
  · rw [hr] at h
    cases h
  · rw [hr] at h
    simp only [bind, Except.bind] at h
    split at h
    · rename_i hi
      cases h
      exact ⟨i, _, rfl, hi⟩
    · cases h

theorem readRegular_of_file (hr : t.resolve p = .ok i)
    (hi : t.node? i = some (.file bytes mode modified)) : t.readRegular p = .ok (bytes, mode) := by
  simp only [readRegular, hr, bind, Except.bind, hi]

/-- A path leads to a file. -/
def FileAt (t : FileTree) (p : Path) : Prop :=
  ∃ i bytes mode modified, t.resolve p = .ok i ∧ t.node? i = some (.file bytes mode modified)

theorem FileAt.extends (h : FileAt t p) (he : Extends t t') : FileAt t' p := by
  obtain ⟨i, _, _, _, hr, hi⟩ := h
  obtain ⟨bytes, mode, modified, hi'⟩ := he.file hi
  exact ⟨i, bytes, mode, modified, he.resolve hr, hi'⟩

theorem isFile_eq_true (h : t.isFile p = true) : FileAt t p := by
  unfold isFile at h
  split at h
  · rename_i i hr
    split at h
    · exact ⟨i, _, _, _, hr, ‹_›⟩
    · cases h
  · cases h

theorem isFile_of_fileAt (h : FileAt t p) : t.isFile p = true := by
  obtain ⟨i, bytes, mode, modified, hr, hi⟩ := h
  simp only [isFile, hr, hi]

theorem isFile_eq_of_extends (h : Extends t t') (h' : Extends t' t) (p : Path) :
    t'.isFile p = t.isFile p := by
  rw [Bool.eq_iff_iff]
  exact ⟨fun hfile => isFile_of_fileAt ((isFile_eq_true hfile).extends h'),
    fun hfile => isFile_of_fileAt ((isFile_eq_true hfile).extends h)⟩

/-- A file may hold any bytes. -/
theorem FileAt.exists_read (h : FileAt t p) (bytes : Bytes) :
    ∃ t', Extends t t' ∧ Extends t' t ∧ t'.read p = .ok bytes := by
  obtain ⟨i, _, _, _, hr, hi⟩ := h
  have hput := putBytes_rewritten i bytes t
  exact ⟨putBytes i bytes t, hput.extends, hput.back,
    read_of_file (hput.extends.resolve hr) (node?_putBytes hi bytes)⟩

/-- Copying changes nothing but what is at the destination. -/
theorem copy_changes (dirs : Path → Prop) (source dest : Path) (t : FileTree) :
    Changes dirs (· = dest) t ((copy source dest).run t).2 := by
  rw [run_copy]
  rcases t.readRegular source with e | ⟨bytes, mode⟩
  · exact .refl
  rcases t.resolve source with e | origin
  · exact .refl
  simp only
  rcases ho : (openEmpty dest mode).run t with ⟨e | target, u⟩
  · obtain rfl := openEmpty_error ho
    exact .refl
  · obtain ⟨hc, hr, _⟩ := openEmpty_ok dirs ho
    have hmode := (putMode_rewritten target mode u).changes dirs hr
    have hbytes := (putBytes_rewritten target ((putMode target mode u).bytesOf origin)
      (putMode target mode u)).changes dirs (hmode.extends.resolve hr)
    exact (hc.trans hmode).trans hbytes

/-- Where the destination is opened, and it is not the source, the bytes and the mode of the source
go there. -/
theorem run_copy_opened {source dest : Path} {origin target : Nat}
    (hr : t.resolve source = .ok origin) (hi : t.node? origin = some (.file bytes mode modified))
    (ho : (openEmpty dest mode).run t = (.ok target, t')) (hne : target ≠ origin) :
    t'.node? origin = some (.file bytes mode modified) ∧ (copy source dest).run t =
      (.ok bytes.length, putBytes target bytes (putMode target mode t')) := by
  obtain ⟨hc, hdest, _⟩ := openEmpty_ok (fun _ => False) ho
  have hkept : t'.node? origin = some (.file bytes mode modified) := by
    rcases hc.file_kept hi with hk | ⟨q, rfl, hq⟩
    · exact hk
    · rw [hdest] at hq
      exact absurd (Except.ok.inj hq) hne
  have hread : (putMode target mode t').bytesOf origin = bytes := by
    rw [bytesOf, (putMode_rewritten target mode t').node?_of_ne (Ne.symm hne), hkept]
  refine ⟨hkept, ?_⟩
  rw [run_copy, readRegular_of_file hr hi]
  simp only [hr, ho, hread]

/-- A copy that succeeds has found a file to read and has opened the destination. -/
theorem copy_opens {source dest : Path} {n : Nat} (h : (copy source dest).run t = (.ok n, t')) :
    ∃ origin target bytes mode modified u, t.resolve source = .ok origin ∧
      t.node? origin = some (.file bytes mode modified) ∧
      (openEmpty dest mode).run t = (.ok target, u) ∧
      t' = putBytes target ((putMode target mode u).bytesOf origin) (putMode target mode u) := by
  rw [run_copy] at h
  rcases hread : t.readRegular source with e | ⟨bytes, mode⟩
  · rw [hread] at h
    cases h
  obtain ⟨origin, modified, hr, hi⟩ := readRegular_eq_ok hread
  rw [hread, hr] at h
  simp only at h
  rcases ho : (openEmpty dest mode).run t with ⟨e | target, u⟩
  · rw [ho] at h
    cases h
  · rw [ho] at h
    cases h
    exact ⟨origin, target, bytes, mode, modified, u, hr, hi, ho, rfl⟩

/-- A copy has the bytes and the mode of the source, unless it is the source. -/
theorem copy_ok {source dest : Path} {n : Nat} (h : (copy source dest).run t = (.ok n, t')) :
    ∃ origin target bytes mode modified, t.resolve source = .ok origin ∧
      t.node? origin = some (.file bytes mode modified) ∧ t'.resolve dest = .ok target ∧
      (target ≠ origin → n = bytes.length ∧
        ((∃ written, t'.node? target = some (.file bytes mode written)) ∨
          t'.node? target = some .device)) := by
  obtain ⟨origin, target, bytes, mode, modified, u, hr, hi, ho, ht'⟩ := copy_opens h
  obtain ⟨_, hdest, hnode⟩ := openEmpty_ok (fun _ => False) ho
  have hmode := putMode_rewritten target mode u
  have hbytes := putBytes_rewritten target ((putMode target mode u).bytesOf origin)
    (putMode target mode u)
  refine ⟨origin, target, bytes, mode, modified, hr, hi, ?_, fun hne => ?_⟩
  · rw [ht']
    exact hbytes.extends.resolve (hmode.extends.resolve hdest)
  · rw [(run_copy_opened hr hi ho hne).2] at h
    cases h
    refine ⟨rfl, ?_⟩
    rcases hnode with ⟨mode', hfile⟩ | hdevice
    · exact Or.inl ⟨_, node?_putBytes (node?_putMode hfile mode) bytes⟩
    · have hsame : putMode target mode u = u := by
        simp only [putMode, hdevice]
      apply Or.inr
      rw [hsame, putBytes, hdevice]
      exact hdevice

theorem copy_error {source dest : Path} {e : IoError}
    (h : (copy source dest).run t = (.error e, t')) : t' = t := by
  rw [run_copy] at h
  split at h
  · cases h
    rfl
  · split at h
    · cases h
      rfl
    · split at h
      · rename_i ho
        cases h
        exact openEmpty_error ho
      · cases h

theorem openExisting_eq_ok (h : t.openExisting p = .ok i) : t.resolve p = .ok i := by
  unfold openExisting at h
  rcases hr : t.resolve p with e | j
  · rw [hr] at h
    cases h
  · rw [hr] at h
    simp only [bind, Except.bind] at h
    split at h
    · cases h
    · cases h
      rfl

/-- What a path leads to can be opened, unless it is a directory. -/
theorem openExisting_of_resolve (hr : t.resolve p = .ok i)
    (hi : ∀ parent entries, t.node? i ≠ some (.directory parent entries)) :
    t.openExisting p = .ok i := by
  unfold openExisting
  rw [hr]
  -- `hi` rules out the only case in which the answer is another one
  simp only [bind, Except.bind]

/-- An operation on what is at a path already. -/
theorem run_onExisting (p : Path) (f : Nat → FileTree → FileTree) (t : FileTree) :
    (do
      let i ← Disk.ask (openExisting · p)
      Disk.change (f i) : Disk IoError Unit).run t =
      match t.openExisting p with
      | .error e => (.error e, t)
      | .ok i => (.ok (), f i t) := by
  rw [Disk.run_bind, Disk.run_ask]
  rcases t.openExisting p with e | i <;> rfl

theorem overwrite_changes (dirs : Path → Prop) (p : Path) (bytes : Bytes) (t : FileTree) :
    Changes dirs (· = p) t ((overwrite p bytes).run t).2 := by
  rw [overwrite, run_onExisting p (fun i => putBytes i bytes)]
  rcases ho : t.openExisting p with e | i
  · exact .refl
  · exact (putBytes_rewritten i bytes t).changes dirs (openExisting_eq_ok ho)

theorem setModified_changes (dirs : Path → Prop) (p : Path) (modified : Instant) (t : FileTree) :
    Changes dirs (· = p) t ((setModified p modified).run t).2 := by
  rw [setModified, run_onExisting p (fun i => putModified i modified)]
  rcases ho : t.openExisting p with e | i
  · exact .refl
  · exact (putModified_rewritten i modified t).changes dirs (openExisting_eq_ok ho)

end Files

end TaggedLibrary.FileTree
