import TaggedLibrary.Proofs.RunChanges
/-!
What a copy of a file leaves: at its destination the bytes, the mode and the time of the source, and
everything else as it was. A copy that fails has changed nothing, and one that is made again changes
nothing more.
-/

namespace TaggedLibrary

namespace FileTree

/-- Mode, bytes and time are put to an open file one after another. -/
theorem put_of_file {t : FileTree} {i mode : Nat} {bytes : Bytes} {modified : Instant}
    (h : t.node? i = some (.file bytes mode modified)) (bytes' : Bytes)
    (mode' : Nat) (modified' : Instant) :
    putModified i modified' (putBytes i bytes' (putMode i mode' t)) =
      t.setNode i (.file bytes' mode' modified') := by
  have hmode := node?_putMode h mode'
  rw [putModified_of_file (node?_putBytes hmode bytes'), putBytes_of_file hmode, setNode_setNode,
    putMode_of_file h, setNode_setNode]

/-- The same files as before but for the one at node `i`: no other has changed, is gone or is new. -/
structure SameBut (i : Nat) (t t' : FileTree) : Prop where
  grown : Extends t t'
  files : ∀ {j bytes mode modified}, j ≠ i →
    (t'.node? j = some (.file bytes mode modified) ↔ t.node? j = some (.file bytes mode modified))
  nodes : ∀ {j}, j ≠ i → t.node? j = none → t'.node? j = none

/-- Changes at one path, to which no directories are made, leave all files but one as they were. -/
theorem Changes.sameBut {t t' : FileTree} {p : Path} {i : Nat}
    (h : Changes (fun _ => False) (· = p) t t') (hr : t'.resolve p = .ok i) : SameBut i t t' := by
  have hother : ∀ {j}, j ≠ i → ¬ ∃ q, q = p ∧ t'.resolve q = .ok j := by
    rintro j hj ⟨q, rfl, hq⟩
    rw [hr] at hq
    exact hj (Except.ok.inj hq).symm
  have hnodes : ∀ {j}, j ≠ i → t.node? j = none → t'.node? j = none := by
    intro j hj hnone
    cases hn : t'.node? j with
    | none => rfl
    | some n =>
      rcases h.fresh hnone hn with ⟨_, _, _, hd, _⟩ | ⟨q, _, _, _, hq, hto, _⟩
      · exact hd.elim
      · exact absurd ⟨q, hq, hto⟩ (hother hj)
  refine ⟨h.extends, fun {j bytes mode modified} hj => ⟨fun hj' => ?_, fun hi => ?_⟩, hnodes⟩
  · cases hn : t.node? j with
    | none =>
      rw [hnodes hj hn] at hj'
      cases hj'
    | some node =>
      cases node with
      | file bytes₀ mode₀ modified₀ =>
        rw [← hj', (h.file_kept hn).resolve_right (hother hj)]
      | directory parent entries =>
        obtain ⟨_, hd⟩ := h.extends.directory hn
        rw [hd] at hj'
        cases hj'
      | link target =>
        rw [h.extends.link hn] at hj'
        cases hj'
      | device =>
        rw [h.extends.device hn] at hj'
        cases hj'
  · exact (h.file_kept hi).resolve_right (hother hj)

end FileTree

namespace TrackFile

open FileTree (SameBut)

variable {source dest : Path} {s s' : Session} {u : FileTree} {origin target count mode : Nat}
  {bytes : Bytes} {modified : Instant}

/-- A copy that fails has failed before anything was changed. -/
theorem files_of_copy_error {e : LibraryError} (h : (copy source dest).run s = (.error e, s')) :
    s'.files = s.files := by
  rcases hcopy : (FileTree.copy source dest).run s.files with ⟨cause | count, u⟩
  · obtain rfl := FileTree.copy_error hcopy
    have hfiles := congrArg (fun r => r.2.files) h
    rw [copy, Run.files_run_during, Run.run_bind, Run.run_onFiles, hcopy] at hfiles
    exact hfiles.symm
  · obtain ⟨_, _, _, _, hrun⟩ := run_copy_of_copied hcopy
    rw [h] at hrun
    cases hrun

/-- Where the destination is opened, and it is not the source, it gets the bytes, the mode and the
time of the source, one after another. -/
theorem run_copy_opened (hr : s.files.resolve source = .ok origin)
    (hi : s.files.node? origin = some (.file bytes mode modified))
    (ho : (FileTree.openEmpty dest mode).run s.files = (.ok target, u)) (hne : target ≠ origin) :
    (copy source dest).run s = (.ok bytes.length, { s with
      files := FileTree.putModified target modified
        (FileTree.putBytes target bytes (FileTree.putMode target mode u)) }) := by
  obtain ⟨hkept, hcopy⟩ := FileTree.run_copy_opened hr hi ho hne
  obtain ⟨hc, hdest, _⟩ := FileTree.openEmpty_ok (fun _ => False) ho
  have hmode := FileTree.putMode_rewritten target mode u
  have hbytes := FileTree.putBytes_rewritten target bytes (FileTree.putMode target mode u)
  have hgrown := hmode.extends.trans hbytes.extends
  obtain ⟨target', instant, hdest', hask, hrun⟩ := run_copy_of_copied hcopy
  rw [hgrown.resolve hdest] at hdest'
  rw [FileTree.modified_of_file (hgrown.resolve (hc.extends.resolve hr))
    (((hbytes.node?_of_ne (Ne.symm hne)).trans (hmode.node?_of_ne (Ne.symm hne))).trans hkept)]
    at hask
  cases hdest'
  cases hask
  exact hrun

section Opened

variable (hr : s.files.resolve source = .ok origin)
  (hi : s.files.node? origin = some (.file bytes mode modified))
  (ho : (FileTree.openEmpty dest mode).run s.files = (.ok target, u)) (hne : target ≠ origin)

include hr hi ho hne

/-- A copy to a file makes that file the same as the source. -/
theorem run_copy_file {mode' : Nat} (hu : u.node? target = some (.file [] mode' s.files.now)) :
    (copy source dest).run s =
      (.ok bytes.length, { s with files := u.setNode target (.file bytes mode modified) }) := by
  rw [run_copy_opened hr hi ho hne, FileTree.put_of_file hu]

/-- A copy to a device changes nothing. -/
theorem run_copy_device (hd : s.files.node? target = some .device) (hu : u = s.files) :
    (copy source dest).run s = (.ok bytes.length, s) := by
  subst hu
  rw [run_copy_opened hr hi ho hne, FileTree.put_of_device hd]

/-- A file that is the same as the source already comes out of another copy as it was. -/
theorem run_copy_again {mode' : Nat} (hu : u.node? target = some (.file [] mode' s.files.now))
    (hothers : SameBut target s.files (u.setNode target (.file bytes mode modified))) :
    (copy source dest).run { s with files := u.setNode target (.file bytes mode modified) } =
      (.ok bytes.length, { s with files := u.setNode target (.file bytes mode modified) }) := by
  generalize hv : u.setNode target (.file bytes mode modified) = v at hothers
  have hwritten : v.node? target = some (.file bytes mode modified) := by
    rw [← hv]
    exact FileTree.node?_setNode _ hu
  obtain ⟨hrefuse, hopened⟩ := FileTree.opened_of_openEmpty ho
  have hgrown : FileTree.Extends u v := by
    rw [← hv]
    exact .setNode hu
  have hspot : FileTree.Spot v true FileTree.linkLimit (v.start dest.bytes)
      (FileTree.names dest.bytes) (.taken target) := by
    rw [hgrown.start]
    exact hopened.spot.taken_extends hgrown
  have hagain := FileTree.openEmpty_of_taken hrefuse hspot hwritten mode
  have hrun := run_copy_file (s := { s with files := v }) (hothers.grown.resolve hr)
    ((hothers.files (Ne.symm hne)).mpr hi) hagain hne (FileTree.node?_setNode _ hwritten)
  rwa [FileTree.setNode_back hwritten] at hrun

end Opened

/-- The file at `source` has been copied to where `dest` leads now, which is the file that was there
or a new one. It is as the source is, unless a device is in its place, and all else is as it was. -/
structure Copied (source dest : Path) (origin target : Nat) (bytes : Bytes) (mode : Nat)
    (modified : Instant) (t t' : FileTree) : Prop where
  source : t.resolve source = .ok origin
  read : t.node? origin = some (.file bytes mode modified)
  apart : target ≠ origin
  place : t.resolve dest = .ok target ∨ t.node? target = none
  dest : t'.resolve dest = .ok target
  written : t'.node? target = some (.file bytes mode modified) ∨
    t.node? target = some .device ∧ t' = t
  others : SameBut target t t'

/-- A template at `t.mp3`, and at `a.mp3` a link to `b.mp3`, where nothing is. -/
def danglingLink : FileTree :=
  { nodes := #[.directory 0 [(Utf8.encode "t.mp3", 1), (Utf8.encode "a.mp3", 2)],
      .file [1, 2, 3] 0o600 ⟨5, 7⟩, .link (Utf8.encode "b.mp3")]
    root := 0, current := 0, now := ⟨9, 0⟩ }

def copiedThroughLink : Except LibraryError Nat × Session :=
  (copy (Path.ofString "t.mp3") (Path.ofString "a.mp3")).run ⟨danglingLink, [], []⟩

end TrackFile

end TaggedLibrary
