import TaggedLibrary.Proofs.ScanOrder
import TaggedLibrary.Proofs.ScannedNames
/-!
What a scan lists, in trees with links of every kind: the audio files to which names lead down from
the directory, by ways on which no link goes back to a directory of the way. A step down makes the
path longer, so the limit on paths is depth enough; and in whatever order the directories have
their names, the list is the same.
-/

namespace TaggedLibrary

open TaggedLibrary.Path (IsNormal)

namespace Path

variable {p : Path} {n : Bytes}

instance (n : Bytes) : Decidable (IsNormal n) :=
  decidable_of_iff (n ≠ [] ∧ n ≠ [dot] ∧ n ≠ [dot, dot] ∧ slash ∉ n)
    ⟨fun ⟨h1, h2, h3, h4⟩ => ⟨h1, h2, h3, h4⟩, fun h => ⟨h.1, h.2, h.3, h.4⟩⟩

/-- A name with the extension `mp3`, in letters of either case. -/
def IsAudioName (n : Bytes) : Prop :=
  ∃ stem m p, stem ≠ [] ∧ (m = 0x4D ∨ m = 0x6D) ∧ (p = 0x50 ∨ p = 0x70) ∧
    n = stem ++ [dot, m, p, 0x33]

/-- A name with an extension is what stands before the last dot, the dot, and the extension. -/
theorem eq_of_splitExtension {extension : Bytes} (h : (splitExtension n).2 = some extension) :
    ∃ stem, stem ≠ [] ∧ n = stem ++ dot :: extension := by
  unfold splitExtension at h
  generalize hafter : n.reverse.takeWhile (· != dot) = after at h
  dsimp only at h
  by_cases hlen : after.length = n.length ∨ after.length + 1 = n.length
  · rw [if_pos hlen] at h
    cases h
  rw [if_neg hlen] at h
  obtain rfl := Option.some.inj h
  have hsplit := List.takeWhile_append_dropWhile (p := (· != dot)) (l := n.reverse)
  rw [hafter] at hsplit
  cases hrest : n.reverse.dropWhile (· != dot) with
  | nil =>
    rw [hrest, List.append_nil] at hsplit
    exact absurd (Or.inl (by rw [hsplit, List.length_reverse])) hlen
  | cons x rest =>
    obtain rfl : x = dot := by
      have hx := List.head?_dropWhile_not (· != dot) n.reverse
      rw [hrest] at hx
      simpa using hx
    rw [hrest] at hsplit
    have hn : n = rest.reverse ++ dot :: after.reverse := by
      rw [← List.reverse_reverse n, ← hsplit]
      simp
    refine ⟨rest.reverse, ?_, hn⟩
    intro hnil
    rw [hnil] at hn
    refine hlen (Or.inr ?_)
    rw [hn]
    simp

theorem isAudio_join (hp : p.bytes ≠ []) (hn : IsNormal n) :
    ScannedTrack.isAudio (p.join ⟨n⟩) = true ↔ IsAudioName n := by
  rw [ScannedTrack.isAudio, extension?_join hp hn]
  constructor
  · intro h
    cases hs : (splitExtension n).2 with
    | none =>
      rw [hs] at h
      cases h
    | some extension =>
      rw [hs] at h
      obtain ⟨stem, hstem, rfl⟩ := eq_of_splitExtension hs
      simp only [Bool.or_eq_true, beq_iff_eq] at h
      rcases h with ((rfl | rfl) | rfl) | rfl
      · exact ⟨stem, 0x6D, 0x70, hstem, Or.inr rfl, Or.inr rfl, rfl⟩
      · exact ⟨stem, 0x6D, 0x50, hstem, Or.inr rfl, Or.inl rfl, rfl⟩
      · exact ⟨stem, 0x4D, 0x70, hstem, Or.inl rfl, Or.inr rfl, rfl⟩
      · exact ⟨stem, 0x4D, 0x50, hstem, Or.inl rfl, Or.inl rfl, rfl⟩
  · rintro ⟨stem, m, p, hstem, hm, hp, rfl⟩
    have hdot : dot ∉ [m, p, 0x33] := by
      rcases hm with rfl | rfl <;> rcases hp with rfl | rfl <;> decide
    rw [splitExtension_append hstem hdot]
    rcases hm with rfl | rfl <;> rcases hp with rfl | rfl <;> rfl

/-- A step down makes a path longer. -/
theorem length_lt_join (hp : p.bytes ≠ []) (hn : IsNormal n) :
    p.bytes.length < (p.join ⟨n⟩).bytes.length := by
  have hpos : 0 < n.length := List.length_pos_iff.mpr hn.nonempty
  obtain ⟨a, hj, ⟨ha, _⟩ | ha⟩ := bytes_join hp hn
  · rw [hj, ha, List.length_append, List.length_cons]
    omega
  · rw [hj, ha, List.length_append, List.length_append, List.length_singleton, List.length_cons]
    omega

end Path

namespace FileTree

variable {t : FileTree} {p : Path} {i : Nat}

/-- Directories as a file system has them: their names are normal, and none has a name twice. -/
structure WellNamed (t : FileTree) : Prop where
  proper : ProperNames t
  distinct : ∀ i, Distinct t i

theorem wellNamed_of_nodes (h : ∀ node ∈ t.nodes.toList, (∀ e ∈ namesIn node, IsNormal e.1) ∧
    ((namesIn node).map Prod.fst).Nodup) : t.WellNamed := by
  have hnode : ∀ {i node}, t.node? i = some node → node ∈ t.nodes.toList := fun hi =>
    Array.mem_toList_iff.mpr (Array.mem_of_getElem? hi)
  constructor
  · rintro i n child ⟨parent, entries, hi, hm⟩
    exact (h _ (hnode hi)).1 _ hm
  · intro i parent entries hi
    exact (h _ (hnode hi)).2

theorem isFile_of_resolve (hr : t.resolve p = .ok i) :
    t.isFile p = true ↔ ∃ bytes mode modified, t.node? i = some (.file bytes mode modified) := by
  rw [isFile, hr]
  constructor
  · intro h
    dsimp only at h
    split at h
    · rename_i hi
      exact ⟨_, _, _, hi⟩
    · cases h
  · rintro ⟨bytes, mode, modified, hi⟩
    simp only [hi]

theorem isDirectory_of_resolve (hr : t.resolve p = .ok i) :
    t.isDirectory p = true ↔ ∃ parent entries, t.node? i = some (.directory parent entries) := by
  rw [isDirectory, hr]
  constructor
  · intro h
    dsimp only at h
    split at h
    · rename_i hi
      exact ⟨_, _, hi⟩
    · cases h
  · rintro ⟨parent, entries, hi⟩
    simp only [hi]

theorem resolve_of_isFile (h : t.isFile p = true) : ∃ i, t.resolve p = .ok i := by
  obtain ⟨i, _, _, _, hr, _⟩ := isFile_eq_true h
  exact ⟨i, hr⟩

theorem resolve_of_isDirectory (h : t.isDirectory p = true) : ∃ i, t.resolve p = .ok i := by
  obtain ⟨i, _, _, hr, _⟩ := isDirectory_eq_true h
  exact ⟨i, hr⟩

theorem nonempty_of_resolve (h : t.resolve p = .ok i) : p.bytes ≠ [] :=
  (refuse?_eq_none.mp (resolve_eq_ok.mp h).1).2.1

theorem length_of_resolve (h : t.resolve p = .ok i) : p.bytes.length < pathLimit :=
  (refuse?_eq_none.mp (resolve_eq_ok.mp h).1).2.2

end FileTree

namespace ScannedTrack

open FileTree (WellNamed pathLimit)

variable {t t' : FileTree} {p q dir : Path} {n : Bytes} {ns : List Bytes} {above : List Nat}
  {fuel i : Nat}

/-- The names `ns` lead down from a path to an audio file, through directories, and no link on the
way leads to a directory that is above. -/
structure Descends (t : FileTree) (above : List Nat) (p : Path) (ns : List Bytes) : Prop where
  normal : ∀ n ∈ ns, IsNormal n
  audio : isAudio (p.down ns) = true
  file : t.isFile (p.down ns) = true
  through : ∀ k < ns.length, t.isDirectory (p.down (ns.take k)) = true
  fresh : ∀ k < ns.length, isLink t (p.down (ns.take k)) = true → ∀ i,
    t.resolve (p.down (ns.take k)) = .ok i →
      i ∉ above ∧ ∀ j < k, t.resolve (p.down (ns.take j)) ≠ .ok i

theorem descends_nil : Descends t above p [] ↔ isAudio p = true ∧ t.isFile p = true := by
  constructor
  · exact fun h => ⟨h.audio, h.file⟩
  · rintro ⟨haudio, hfile⟩
    exact ⟨fun n hn => absurd hn List.not_mem_nil, haudio, hfile,
      fun k hk => absurd hk (Nat.not_lt_zero k), fun k hk => absurd hk (Nat.not_lt_zero k)⟩

/-- A way down is a step into a directory and a way down from there. -/
theorem descends_cons (hr : t.resolve p = .ok i) : Descends t above p (n :: ns) ↔
    IsNormal n ∧ t.isDirectory p = true ∧ (isLink t p = true → i ∉ above) ∧
      Descends t (i :: above) (p.join ⟨n⟩) ns := by
  constructor
  · intro h
    have hpos : 0 < (n :: ns).length := Nat.succ_pos _
    refine ⟨h.normal n List.mem_cons_self, h.through 0 hpos,
      fun hl => (h.fresh 0 hpos hl i hr).1,
      fun m hm => h.normal m (List.mem_cons_of_mem _ hm), h.audio, h.file,
      fun k hk => h.through (k + 1) (Nat.succ_lt_succ hk), fun k hk hl j hj => ?_⟩
    obtain ⟨hout, hbefore⟩ := h.fresh (k + 1) (Nat.succ_lt_succ hk) hl j hj
    refine ⟨?_, fun l hl => hbefore (l + 1) (Nat.succ_lt_succ hl)⟩
    rw [List.mem_cons, not_or]
    refine ⟨?_, hout⟩
    rintro rfl
    exact hbefore 0 (Nat.succ_pos k) hr
  · rintro ⟨hn, hd, hout, h⟩
    refine ⟨List.forall_mem_cons.mpr ⟨hn, h.normal⟩, h.audio, h.file, fun k hk => ?_,
      fun k hk hl j hj => ?_⟩
    · cases k with
      | zero => exact hd
      | succ k => exact h.through k (Nat.lt_of_succ_lt_succ hk)
    · cases k with
      | zero =>
        obtain rfl := Except.ok.inj (hr.symm.trans hj)
        exact ⟨hout hl, fun l hl => absurd hl (Nat.not_lt_zero l)⟩
      | succ k =>
        obtain ⟨habove, hbefore⟩ := h.fresh k (Nat.lt_of_succ_lt_succ hk) hl j hj
        rw [List.mem_cons, not_or] at habove
        refine ⟨habove.2, fun l hlk => ?_⟩
        cases l with
        | zero =>
          intro hp
          exact habove.1 (Except.ok.inj (hp.symm.trans hr))
        | succ l => exact hbefore l (Nat.lt_of_succ_lt_succ hlk)

/-- Where a way down begins there is something. -/
theorem Descends.resolve (h : Descends t above p ns) : ∃ i, t.resolve p = .ok i := by
  cases ns with
  | nil => exact FileTree.resolve_of_isFile h.file
  | cons n ns => exact FileTree.resolve_of_isDirectory (h.through 0 (Nat.succ_pos _))

section AudioFiles

open FileTree (IsEntry)

/-- What is found is the file that is looked at, or what is found under a name of the directory,
unless a link leads back there. -/
theorem mem_audioFiles_succ (hr : t.resolve p = .ok i) :
    q ∈ audioFiles t (fuel + 1) above p ↔
      (isAudio p = true ∧ t.isFile p = true ∧ q = p) ∨
      (t.isDirectory p = true ∧ (isLink t p = true → i ∉ above) ∧ ∃ n child, IsEntry t i n child ∧
        q ∈ audioFiles t fuel (i :: above) (p.join ⟨n⟩)) := by
  rw [audioFiles, FileTree.isFile_of_resolve hr, FileTree.isDirectory_of_resolve hr, hr]
  dsimp only
  cases hi : t.node? i with
  | none => simp
  | some node =>
    cases node with
    | link target => simp
    | device => simp
    | file bytes mode modified =>
      by_cases haudio : isAudio p = true
      · simp [haudio]
      · simp [haudio]
    | directory parent entries =>
      have hentry : ∀ n child, IsEntry t i n child ↔ (n, child) ∈ entries := by
        intro n child
        constructor
        · rintro ⟨_, _, hi', hm⟩
          rw [hi] at hi'
          cases hi'
          exact hm
        · exact fun hm => ⟨parent, entries, hi, hm⟩
      simp only [hentry]
      simp

/-- What is found is what names lead down to, if the limit leaves room for the names. -/
theorem mem_audioFiles_iff (ht : t.WellNamed) (hp : p.bytes ≠ [])
    (hfuel : pathLimit ≤ p.bytes.length + fuel) :
    q ∈ audioFiles t fuel above p ↔ ∃ ns, Descends t above p ns ∧ q = p.down ns := by
  induction fuel generalizing above p with
  | zero =>
    -- a path as long as the limit leads nowhere
    constructor
    · intro h
      cases h
    · rintro ⟨ns, h, _⟩
      obtain ⟨i, hr⟩ := h.resolve
      exact absurd (FileTree.length_of_resolve hr) (Nat.not_lt.mpr hfuel)
  | succ fuel ih =>
    cases hr : t.resolve p with
    | error e =>
      rw [audioFiles, hr]
      constructor
      · intro h
        cases h
      · rintro ⟨ns, h, _⟩
        obtain ⟨i, hi⟩ := h.resolve
        rw [hr] at hi
        cases hi
    | ok i =>
      have hnext : ∀ {n}, IsNormal n → (q ∈ audioFiles t fuel (i :: above) (p.join ⟨n⟩) ↔
          ∃ ns, Descends t (i :: above) (p.join ⟨n⟩) ns ∧ q = p.down (n :: ns)) := by
        intro n hn
        have hlonger := Path.length_lt_join hp hn
        exact ih (Path.bytes_join_ne_nil hp hn) (by omega)
      rw [mem_audioFiles_succ hr]
      constructor
      · rintro (⟨haudio, hfile, rfl⟩ | ⟨hd, hfresh, n, child, he, hq⟩)
        · exact ⟨[], descends_nil.mpr ⟨haudio, hfile⟩, rfl⟩
        · have hn := ht.proper he
          obtain ⟨ns, h, rfl⟩ := (hnext hn).mp hq
          exact ⟨n :: ns, (descends_cons hr).mpr ⟨hn, hd, hfresh, h⟩, rfl⟩
      · rintro ⟨ns, h, rfl⟩
        cases ns with
        | nil =>
          obtain ⟨haudio, hfile⟩ := descends_nil.mp h
          exact Or.inl ⟨haudio, hfile, rfl⟩
        | cons n ns =>
          obtain ⟨hn, hd, hfresh, h⟩ := (descends_cons hr).mp h
          obtain ⟨j, hj⟩ := h.resolve
          obtain ⟨k, parent, entries, child, hk, hnode, hlookup, _⟩ :=
            FileTree.resolve_join hp hn hj
          obtain rfl := Except.ok.inj (hr.symm.trans hk)
          exact Or.inr ⟨hd, hfresh, n, child, FileTree.isEntry_of_lookup hnode hlookup,
            (hnext hn).mpr ⟨ns, h, rfl⟩⟩

/-- Different names in a directory lead to different files, so none is found twice. -/
theorem nodup_audioFiles (ht : t.WellNamed) (hp : p.bytes ≠ []) :
    (audioFiles t fuel above p).Nodup := by
  induction fuel generalizing above p with
  | zero => exact List.nodup_nil
  | succ fuel ih =>
    unfold audioFiles
    split
    · exact List.nodup_nil
    rename_i i hr
    split
    · split
      · exact List.nodup_singleton _
      · exact List.nodup_nil
    · rename_i parent entries hnode
      split
      · exact List.nodup_nil
      have hnormal : ∀ e ∈ entries, IsNormal e.1 := fun e he => ht.proper ⟨_, _, hnode, he⟩
      rw [List.nodup_flatMap]
      refine ⟨fun e he => ih (Path.bytes_join_ne_nil hp (hnormal e he)), ?_⟩
      have hdistinct := ht.distinct i parent entries hnode
      rw [List.nodup_iff_pairwise_ne, List.pairwise_map] at hdistinct
      apply hdistinct.imp_of_mem
      intro e e' he he' hne q hq hq'
      have hnil : ∀ m ∈ ([] : List Bytes), IsNormal m := fun m hm => absurd hm List.not_mem_nil
      obtain ⟨ns, hns, rfl⟩ := down_of_mem_audioFiles ht.proper hnil hq
      obtain ⟨ns', hns', hsame⟩ := down_of_mem_audioFiles ht.proper hnil hq'
      have hways : p.down (e.1 :: ns) = p.down (e'.1 :: ns') := hsame
      exact hne (List.cons.inj (Path.down_injective hp
        (List.forall_mem_cons.mpr ⟨hnormal e he, hns⟩)
        (List.forall_mem_cons.mpr ⟨hnormal e' he', hns'⟩) hways)).1
    · exact List.nodup_nil

theorem audioFiles_eq_nil (hr : ∀ i, t.resolve p ≠ .ok i) : audioFiles t fuel above p = [] := by
  cases fuel with
  | zero => rfl
  | succ fuel =>
    cases hres : t.resolve p with
    | error e => rw [audioFiles, hres]
    | ok i => exact absurd hres (hr i)

/-- Where the limit leaves room for the names, more depth finds nothing more. -/
theorem audioFiles_deeper (ht : t.WellNamed) (hfuel : pathLimit ≤ p.bytes.length + fuel) (k : Nat) :
    audioFiles t (fuel + k) above p = audioFiles t fuel above p := by
  induction fuel generalizing above p with
  | zero =>
    have hr : ∀ i, t.resolve p ≠ .ok i := fun i hr =>
      absurd (FileTree.length_of_resolve hr) (Nat.not_lt.mpr hfuel)
    rw [audioFiles_eq_nil hr, audioFiles_eq_nil hr]
  | succ fuel ih =>
    by_cases hr : ∃ i, t.resolve p = .ok i
    case neg =>
      rw [audioFiles_eq_nil (not_exists.mp hr), audioFiles_eq_nil (not_exists.mp hr)]
    obtain ⟨i, hr⟩ := hr
    rw [Nat.add_right_comm, audioFiles, audioFiles, hr]
    dsimp only
    split
    · rfl
    · rename_i parent entries hi
      split
      · rfl
      · refine List.flatMap_congr fun e he => ?_
        have hlonger :=
          Path.length_lt_join (FileTree.nonempty_of_resolve hr) (ht.proper ⟨_, _, hi, he⟩)
        exact ih (by omega)
    · rfl

end AudioFiles

/-- The list goes up, and no path is in it twice. -/
theorem scan_ascends (ht : t.WellNamed) (hd : dir.bytes ≠ []) :
    ((scan t dir).map (·.path)).Pairwise fun p q => p.key < q.key := by
  rw [map_path_scan]
  have hperm := List.mergeSort_perm (audioFiles t pathLimit [] dir)
    fun a b => decide (¬ b.key < a.key)
  have hnodup := hperm.nodup_iff.mpr (nodup_audioFiles ht hd)
  have hup := Path.pairwise_mergeSort_key (audioFiles t pathLimit [] dir)
  refine (hup.and (List.nodup_iff_pairwise_ne.mp hnodup)).imp_of_mem ?_
  rintro p q hp hq ⟨hle, hne⟩
  refine lt_of_le_of_ne hle fun hkey => hne ?_
  have hnil : ∀ m ∈ ([] : List Bytes), IsNormal m := fun m hm => absurd hm List.not_mem_nil
  obtain ⟨ns, hns, rfl⟩ := down_of_mem_audioFiles ht.proper hnil (hperm.mem_iff.mp hp)
  obtain ⟨ms, hms, rfl⟩ := down_of_mem_audioFiles ht.proper hnil (hperm.mem_iff.mp hq)
  rw [Path.eq_of_down_same hd hns hms (Path.same_of_key hkey)]

/-- The names `ns` lead from a directory down to a file that a scan lists: through directories, to a
file with the right extension, and by no link back to a directory that the way has been through. -/
structure Listed (t : FileTree) (dir : Path) (ns : List Bytes) : Prop where
  normal : ∀ n ∈ ns, IsNormal n
  name : ∃ front name, ns = front ++ [name] ∧ Path.IsAudioName name
  file : t.isFile (dir.down ns) = true
  through : ∀ k < ns.length, t.isDirectory (dir.down (ns.take k)) = true
  onward : ∀ j k, j < k → k < ns.length → isLink t (dir.down (ns.take k)) = true →
    ∀ i, t.resolve (dir.down (ns.take k)) = .ok i → t.resolve (dir.down (ns.take j)) ≠ .ok i

theorem descends_iff_listed (hd : t.isDirectory dir = true) :
    Descends t [] dir ns ↔ Listed t dir ns := by
  obtain ⟨i, hr⟩ := FileTree.resolve_of_isDirectory hd
  have hne := FileTree.nonempty_of_resolve hr
  have hdown : ∀ {front : List Bytes}, (∀ n ∈ front, IsNormal n) → (dir.down front).bytes ≠ [] := by
    intro front hfront
    induction front using List.reverseRecOn with
    | nil => exact hne
    | append_singleton front n ih =>
      obtain ⟨hfront, hn⟩ := List.forall_mem_append.mp hfront
      rw [Path.down_concat]
      exact Path.bytes_join_ne_nil (ih hfront) (hn n (List.mem_singleton_self n))
  constructor
  · intro h
    refine ⟨h.normal, ?_, h.file, h.through, fun j k hj hk hl i hi => (h.fresh k hk hl i hi).2 j hj⟩
    rcases List.eq_nil_or_concat ns with rfl | ⟨front, name, rfl⟩
    · obtain ⟨_, _, hdir⟩ := (FileTree.isDirectory_of_resolve hr).mp hd
      obtain ⟨_, _, _, hfile⟩ := (FileTree.isFile_of_resolve hr).mp h.file
      rw [hdir] at hfile
      cases hfile
    · rw [List.concat_eq_append] at h ⊢
      obtain ⟨hfront, hname⟩ := List.forall_mem_append.mp h.normal
      have haudio := h.audio
      rw [Path.down_concat] at haudio
      exact ⟨front, name, rfl,
        (Path.isAudio_join (hdown hfront) (hname name (List.mem_singleton_self name))).mp haudio⟩
  · intro h
    obtain ⟨front, name, rfl, haudio⟩ := h.name
    obtain ⟨hfront, hname⟩ := List.forall_mem_append.mp h.normal
    refine ⟨h.normal, ?_, h.file, h.through, fun k hk hl i hi =>
      ⟨List.not_mem_nil, fun j hj => h.onward j k hj hk hl i hi⟩⟩
    rw [Path.down_concat]
    exact (Path.isAudio_join (hdown hfront) (hname name (List.mem_singleton_self name))).mpr haudio

theorem mem_paths_iff (ht : t.WellNamed) (hd : t.isDirectory dir = true) :
    p ∈ (scan t dir).map (·.path) ↔ ∃ ns, Listed t dir ns ∧ p = dir.down ns := by
  obtain ⟨i, hr⟩ := FileTree.resolve_of_isDirectory hd
  rw [map_path_scan, List.mem_mergeSort,
    mem_audioFiles_iff ht (FileTree.nonempty_of_resolve hr) (Nat.le_add_left _ _)]
  simp only [descends_iff_listed hd]

end ScannedTrack

/-- Two nodes of a kind. Directories have the same names for the same nodes, in any order; files
hold bytes that are related. -/
inductive Node.Alike (held : Bytes → Bytes → Prop) : Node → Node → Prop
  | file {bytes bytes' : Bytes} {mode mode' : Nat} {modified modified' : Instant}
      (h : held bytes bytes') :
      Alike held (.file bytes mode modified) (.file bytes' mode' modified')
  | directory {parent : Nat} {entries entries' : List (Bytes × Nat)} (h : entries.Perm entries') :
      Alike held (.directory parent entries) (.directory parent entries')
  | link {target : Bytes} : Alike held (.link target) (.link target)
  | device : Alike held .device .device

namespace FileTree

/-- Two trees that enumerate the same names in any order, with related contents in their files. -/
structure Alike (held : Bytes → Bytes → Prop) (t t' : FileTree) : Prop where
  root : t'.root = t.root
  current : t'.current = t.current
  missing : ∀ {i}, t.node? i = none → t'.node? i = none
  node : ∀ {i n}, t.node? i = some n → ∃ n', t'.node? i = some n' ∧ Node.Alike held n n'

variable {held : Bytes → Bytes → Prop} {t t' : FileTree} {p : Path} {i : Nat}

theorem mem_iff_lookup {entries : List (Bytes × Nat)} (hd : (entries.map Prod.fst).Nodup)
    {n : Bytes} {child : Nat} : (n, child) ∈ entries ↔ entries.lookup n = some child := by
  rw [List.lookup_eq_some_iff]
  constructor
  · intro h
    obtain ⟨front, back, rfl⟩ := List.append_of_mem h
    refine ⟨front, back, rfl, fun e he => ?_⟩
    rw [List.map_append, List.map_cons, List.nodup_append] at hd
    have hne := hd.2.2 _ (List.mem_map_of_mem he) n List.mem_cons_self
    simpa using hne.symm
  · rintro ⟨front, back, rfl, _⟩
    simp

/-- Where no name is twice, the order of the names does not matter. -/
theorem lookup_eq_of_perm {entries entries' : List (Bytes × Nat)}
    (hd : (entries.map Prod.fst).Nodup) (h : entries.Perm entries') (n : Bytes) :
    entries'.lookup n = entries.lookup n := by
  have hd' := (h.map Prod.fst).nodup_iff.mp hd
  refine Option.ext fun child => ?_
  rw [← mem_iff_lookup hd, ← mem_iff_lookup hd', h.mem_iff]

theorem Distinct.lookup (hd : Distinct t i) {parent : Nat} {entries entries' : List (Bytes × Nat)}
    (hi : t.node? i = some (.directory parent entries)) (h : entries.Perm entries') (n : Bytes) :
    entries'.lookup n = entries.lookup n := lookup_eq_of_perm (hd parent entries hi) h n

namespace Alike

theorem directory (h : Alike held t t') {parent : Nat} {entries : List (Bytes × Nat)}
    (hi : t.node? i = some (.directory parent entries)) :
    ∃ entries', t'.node? i = some (.directory parent entries') ∧ entries.Perm entries' := by
  obtain ⟨_, hi', hn⟩ := h.node hi
  cases hn with
  | directory hp => exact ⟨_, hi', hp⟩

theorem link (h : Alike held t t') {target : Bytes} (hi : t.node? i = some (.link target)) :
    t'.node? i = some (.link target) := by
  obtain ⟨_, hi', hn⟩ := h.node hi
  cases hn
  exact hi'

theorem file (h : Alike held t t') {bytes : Bytes} {mode : Nat} {modified : Instant}
    (hi : t.node? i = some (.file bytes mode modified)) : ∃ bytes' mode' modified',
      t'.node? i = some (.file bytes' mode' modified') ∧ held bytes bytes' := by
  obtain ⟨_, hi', hn⟩ := h.node hi
  cases hn with
  | file hb => exact ⟨_, _, _, hi', hb⟩

theorem symm (h : Alike held t t') : Alike (fun b b' => held b' b) t' t := by
  refine ⟨h.root.symm, h.current.symm, fun {i} hi' => ?_, fun {i n'} hi' => ?_⟩
  · cases hi : t.node? i with
    | none => rfl
    | some n =>
      obtain ⟨_, hsome, _⟩ := h.node hi
      rw [hi'] at hsome
      cases hsome
  · cases hi : t.node? i with
    | none =>
      rw [h.missing hi] at hi'
      cases hi'
    | some n =>
      obtain ⟨_, hsome, hn⟩ := h.node hi
      rw [hi'] at hsome
      cases hsome
      refine ⟨n, rfl, ?_⟩
      cases hn with
      | file hb => exact .file hb
      | directory hp => exact .directory hp.symm
      | link => exact .link
      | device => exact .device

theorem not_isLink (h : Alike held t t') (hl : ¬ IsLink (t.node? i)) : ¬ IsLink (t'.node? i) := by
  rintro ⟨target, hi'⟩
  exact hl ⟨target, h.symm.link hi'⟩

theorem wellNamed (h : Alike held t t') (ht : t.WellNamed) : t'.WellNamed := by
  constructor
  · rintro i n child ⟨parent, entries', hi', hm⟩
    obtain ⟨entries, hi, hp⟩ := h.symm.directory hi'
    exact ht.proper ⟨parent, entries, hi, hp.mem_iff.mp hm⟩
  · intro i parent entries' hi'
    obtain ⟨entries, hi, hp⟩ := h.symm.directory hi'
    exact (hp.map Prod.fst).nodup_iff.mpr (ht.distinct i parent entries hi)

theorem way (h : Alike held t t') (ht : t.WellNamed) {follow : Bool} {links j left : Nat}
    {ns : List Bytes} (hw : Way t follow links i ns j left) : Way t' follow links i ns j left := by
  induction hw with
  | here => exact .here
  | still hi hn _ ih =>
    obtain ⟨_, hi', _⟩ := h.directory hi
    exact .still hi' hn ih
  | up hi _ ih =>
    obtain ⟨_, hi', _⟩ := h.directory hi
    exact .up hi' ih
  | down hi hn hc hl _ ih =>
    obtain ⟨_, hi', hp⟩ := h.directory hi
    exact .down hi' hn ((ht.distinct _).lookup hi hp _ ▸ hc) (h.not_isLink hl) ih
  | last hi hn hc hl hf =>
    obtain ⟨_, hi', hp⟩ := h.directory hi
    exact .last hi' hn ((ht.distinct _).lookup hi hp _ ▸ hc) (h.link hl) hf
  | jump hi hn hc hl hf _ ih =>
    obtain ⟨_, hi', hp⟩ := h.directory hi
    rw [base, ← h.root] at ih
    exact .jump hi' hn ((ht.distinct _).lookup hi hp _ ▸ hc) (h.link hl) hf ih

theorem resolve (h : Alike held t t') (ht : t.WellNamed) {follow : Bool}
    (hr : t.resolve p follow = .ok i) : t'.resolve p follow = .ok i := by
  obtain ⟨hnone, left, hw⟩ := resolve_eq_ok.mp hr
  refine resolve_eq_ok.mpr ⟨hnone, left, ?_⟩
  rw [start, h.root, h.current, ← start]
  exact h.way ht hw

theorem resolve_iff (h : Alike held t t') (ht : t.WellNamed) {follow : Bool} :
    t'.resolve p follow = .ok i ↔ t.resolve p follow = .ok i :=
  ⟨h.symm.resolve (h.wellNamed ht), h.resolve ht⟩

theorem isFile (h : Alike held t t') (ht : t.WellNamed) (hp : t.isFile p = true) :
    t'.isFile p = true := by
  obtain ⟨i, _, _, _, hr, hi⟩ := isFile_eq_true hp
  obtain ⟨_, _, _, hi', _⟩ := h.file hi
  exact (isFile_of_resolve (h.resolve ht hr)).mpr ⟨_, _, _, hi'⟩

theorem isDirectory (h : Alike held t t') (ht : t.WellNamed) (hp : t.isDirectory p = true) :
    t'.isDirectory p = true := by
  obtain ⟨i, _, _, hr, hi⟩ := isDirectory_eq_true hp
  obtain ⟨_, hi', _⟩ := h.directory hi
  exact (isDirectory_of_resolve (h.resolve ht hr)).mpr ⟨_, _, hi'⟩

end Alike

end FileTree

namespace ScannedTrack

open FileTree (Alike WellNamed pathLimit)

variable {held : Bytes → Bytes → Prop} {t t' : FileTree} {p dir : Path} {ns : List Bytes}

theorem isLink_iff : isLink t p = true ↔
    ∃ i target, t.resolve p false = .ok i ∧ t.node? i = some (.link target) := by
  rw [isLink]
  constructor
  · intro h
    split at h
    · rename_i i hr
      split at h
      · exact ⟨i, _, hr, ‹_›⟩
      · cases h
    · cases h
  · rintro ⟨i, target, hr, hi⟩
    rw [hr]
    simp only [hi]

/-- What is listed does not depend on the order of names, or on what files hold. -/
theorem Listed.alike (h : Listed t dir ns) (ha : Alike held t t') (ht : t.WellNamed) :
    Listed t' dir ns := by
  refine ⟨h.normal, h.name, ha.isFile ht h.file, fun k hk => ha.isDirectory ht (h.through k hk),
    fun j k hj hk hl i hi => ?_⟩
  rw [ha.resolve_iff ht] at hi
  rw [Ne, ha.resolve_iff ht]
  refine h.onward j k hj hk ?_ i hi
  obtain ⟨l, target, hr, hlink⟩ := isLink_iff.mp hl
  exact isLink_iff.mpr ⟨l, target, (ha.resolve_iff ht).mp hr, ha.symm.link hlink⟩

theorem paths_alike (ha : Alike held t t') (ht : t.WellNamed) (hd : t.isDirectory dir = true) :
    (scan t' dir).map (·.path) = (scan t dir).map (·.path) := by
  have ht' := ha.wellNamed ht
  have hd' := ha.isDirectory ht hd
  obtain ⟨i, hr⟩ := FileTree.resolve_of_isDirectory hd
  have hne := FileTree.nonempty_of_resolve hr
  have hascend := scan_ascends ht hne
  have hascend' := scan_ascends ht' hne
  refine List.Perm.eq_of_pairwise (fun p q _ _ hpq hqp => absurd hpq (lt_asymm hqp)) hascend'
    hascend ?_
  have hnodup : ∀ {l : List Path}, l.Pairwise (fun p q => p.key < q.key) → l.Nodup := fun hl =>
    hl.imp fun hlt => by
      rintro rfl
      exact lt_irrefl _ hlt
  rw [List.perm_ext_iff_of_nodup (hnodup hascend') (hnodup hascend)]
  intro p
  rw [mem_paths_iff ht' hd', mem_paths_iff ht hd]
  constructor
  · rintro ⟨ns, hl, rfl⟩
    exact ⟨ns, hl.alike ha.symm ht', rfl⟩
  · rintro ⟨ns, hl, rfl⟩
    exact ⟨ns, hl.alike ha ht, rfl⟩

theorem scan_eq_map (t : FileTree) (p : Path) :
    scan t p = ((scan t p).map (·.path)).map (ofPath t) := by
  rw [map_path_scan]
  rfl

/-- Every path that is listed is that of a file, and what is shown is what its bytes say. -/
theorem fields_of_mem_scan {x : ScannedTrack} (hx : x ∈ scan t dir) :
    ∃ file, t.read x.path = .ok file ∧ x.fields = fieldsOf file := by
  obtain ⟨hmem, hx⟩ := mem_scan.mp hx
  obtain ⟨i, file, mode, modified, hr, hi⟩ := resolve_of_mem_audioFiles hmem
  refine ⟨file, FileTree.read_of_file hr hi, ?_⟩
  rw [hx, ofPath_of_file hr hi]

theorem ofPath_congr (h : t'.read p = t.read p) : ofPath t' p = ofPath t p := by
  rw [ofPath, ofPath, h]

/-- The order in which directories have their names does not show. -/
theorem scan_reordered (ha : Alike (· = ·) t t') (ht : t.WellNamed)
    (hd : t.isDirectory dir = true) : scan t' dir = scan t dir := by
  rw [scan_eq_map t', scan_eq_map t, paths_alike ha ht hd]
  refine List.map_congr_left fun p hp => ofPath_congr ?_
  rw [map_path_scan, List.mem_mergeSort] at hp
  obtain ⟨i, file, mode, modified, hr, hi⟩ := resolve_of_mem_audioFiles hp
  obtain ⟨_, _, _, hi', rfl⟩ := ha.file hi
  rw [FileTree.read_of_file hr hi, FileTree.read_of_file (ha.resolve ht hr) hi']

/-- What a scan of a directory lists: in strictly ascending order, the files that `Listed` tells of
and no others, each with what its own bytes say, or with nothing if that cannot be read. Neither the
order of names in directories nor what other files hold makes a difference, and looking deeper than
paths can go finds nothing more. -/
theorem scan_lists (ht : t.WellNamed) (hd : t.isDirectory dir = true) :
    ((scan t dir).map (·.path)).Pairwise (fun p q => p.key < q.key) ∧
    (∀ p, p ∈ (scan t dir).map (·.path) ↔ ∃ ns, Listed t dir ns ∧ p = dir.down ns) ∧
    (∀ x ∈ scan t dir, ∃ file, t.read x.path = .ok file ∧ x.fields = fieldsOf file ∧
      (AudioFile.playerFields file = none → x.fields = {})) ∧
    (∀ t', Alike (· = ·) t t' → scan t' dir = scan t dir) ∧
    (∀ t', Alike (fun _ _ => True) t t' →
      (scan t' dir).map (·.path) = (scan t dir).map (·.path) ∧
      ∀ x ∈ scan t dir, t'.read x.path = t.read x.path → x ∈ scan t' dir) ∧
    ∀ k, audioFiles t (pathLimit + k) [] dir = audioFiles t pathLimit [] dir := by
  obtain ⟨i, hr⟩ := FileTree.resolve_of_isDirectory hd
  refine ⟨scan_ascends ht (FileTree.nonempty_of_resolve hr), fun p => mem_paths_iff ht hd,
    fun x hx => ?_, fun t' ha => scan_reordered ha ht hd, fun t' ha => ?_,
    audioFiles_deeper ht (Nat.le_add_left _ _)⟩
  · obtain ⟨file, hread, hfields⟩ := fields_of_mem_scan hx
    refine ⟨file, hread, hfields, fun hnone => ?_⟩
    rw [hfields, fieldsOf, hnone]
  · have hpaths := paths_alike ha ht hd
    refine ⟨hpaths, fun x hx hread => ?_⟩
    rw [scan_eq_map, hpaths, List.mem_map]
    refine ⟨x.path, List.mem_map_of_mem hx, ?_⟩
    rw [ofPath_congr hread]
    exact (mem_scan.mp hx).2.symm

/-- A directory with a file in it, another name for that file further down, a link back to the
directory, a link to nothing, and a link to the directory further down. -/
def knotted : FileTree :=
  { nodes := #[.directory 0 [(Utf8.encode "m", 1)],
      .directory 0 [(Utf8.encode "b.MP3", 2), (Utf8.encode "back", 3),
        (Utf8.encode "lost.mp3", 4), (Utf8.encode "a", 5), (Utf8.encode "too", 6)],
      .file AudioFile.silence 0o644 ⟨0, 0⟩, .link (Utf8.encode "/m"), .link (Utf8.encode "x.mp3"),
      .directory 1 [(Utf8.encode "c.mp3", 2)], .link (Utf8.encode "a")]
    root := 0, current := 0 }

theorem scan_lists_knotted : (knotted.WellNamed ∧ knotted.isDirectory ⟨Utf8.encode "/m"⟩ = true) ∧
    ∃ ns, Listed knotted ⟨Utf8.encode "/m"⟩ ns ∧
      ⟨Utf8.encode "/m/too/c.mp3"⟩ = Path.down ⟨Utf8.encode "/m"⟩ ns := by
  have ht : knotted.WellNamed := FileTree.wellNamed_of_nodes (by decide)
  have hd : knotted.isDirectory ⟨Utf8.encode "/m"⟩ = true := by decide
  have hfound : ⟨Utf8.encode "/m/too/c.mp3"⟩ ∈
      audioFiles knotted pathLimit [] ⟨Utf8.encode "/m"⟩ := by decide
  refine ⟨⟨ht, hd⟩, ((scan_lists ht hd).2.1 _).mp ?_⟩
  rw [map_path_scan]
  exact List.mem_mergeSort.mpr hfound

end ScannedTrack

end TaggedLibrary
