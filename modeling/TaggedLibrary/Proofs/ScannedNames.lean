import TaggedLibrary.Proofs.Contents
import TaggedLibrary.Proofs.VerifiedLibrary
/-!
What a scan calls the files it finds, where all names are normal. Then a path in the library is told
by its steps, so a file that is found under the steps of a track is found under the track's path.
-/

namespace TaggedLibrary

open TaggedLibrary.Path (IsNormal)

namespace FileTree

variable {t t' : FileTree} {dirs files : Path → Prop}

/-- Names as a file system has them: none is empty or stands for a directory that is there anyway,
and none has a slash in it. -/
def ProperNames (t : FileTree) : Prop := ∀ {i n child}, IsEntry t i n child → IsNormal n

theorem slash_not_mem_of_mem_names {b n : Bytes} (h : n ∈ names b) : Path.slash ∉ n := by
  rcases List.mem_append.mp h with h | h
  · exact Path.slash_not_mem_of_mem_segments (List.mem_filter.mp h).1
  · split at h
    · obtain rfl := List.mem_singleton.mp h
      exact List.not_mem_nil
    · cases h

/-- A free name to which a path leads is one that the path or the last link on its way has. -/
theorem Spot.isNormal {follow : Bool} {links i d : Nat} {ns : List Bytes} {name : Bytes}
    (h : Spot t follow links i ns (.free d name)) (hns : ∀ n ∈ ns, Path.slash ∉ n) :
    IsNormal name := by
  generalize hp : Place.free d name = place at h
  induction h with
  | free hw hd hn hc =>
    cases hp
    obtain ⟨hempty, hdot⟩ := not_or.mp hn.step
    exact ⟨hempty, hdot, hn.down, hns name (by simp)⟩
  | taken => cases hp
  | jump _ _ _ _ _ _ ih => exact ih (fun n hm => slash_not_mem_of_mem_names hm) hp

/-- A change keeps names proper: the new one comes from a path or a link, and is free as a name. -/
theorem Change.properNames (h : Change dirs files t t') (ht : ProperNames t) :
    ProperNames t' := by
  intro i n child he
  cases h with
  | @directory p d name ns hp hr hns hs =>
    obtain ⟨_, _, _, hd, _⟩ := hs.free_node
    rcases isEntry_addEntry hd (fun _ _ h => by cases h; rfl) he with he | ⟨_, rfl, _⟩
    · exact ht he
    · refine hs.isNormal fun m hm => slash_not_mem_of_mem_names (b := p.bytes) ?_
      rcases hns with hns | hns
      · exact hns ▸ hm
      · exact hns ▸ List.mem_append_left _ hm
  | file hp hr hs =>
    obtain ⟨_, _, _, hd, _⟩ := hs.free_node
    rcases isEntry_addEntry hd (fun _ _ h => by cases h) he with he | ⟨_, rfl, _⟩
    · exact ht he
    · exact hs.isNormal fun m hm => slash_not_mem_of_mem_names hm
  | contents hp hr hi bytes mode modified => exact ht (isEntry_setNode hi he)

theorem Changes.properNames (h : Changes dirs files t t') (ht : ProperNames t) :
    ProperNames t' := by
  induction h with
  | refl => exact ht
  | tail _ hc ih => exact hc.properNames ih

end FileTree

namespace ScannedTrack

open FileTree (ProperNames)

variable {t : FileTree} {root p q : Path} {fuel : Nat} {above : List Nat} {ms : List Bytes}

/-- Whatever is found is further down, by normal names. -/
theorem down_of_mem_audioFiles (ht : ProperNames t) (hms : ∀ m ∈ ms, IsNormal m)
    (hq : q ∈ audioFiles t fuel above (root.down ms)) :
    ∃ ns, (∀ n ∈ ns, IsNormal n) ∧ q = root.down ns := by
  induction fuel generalizing above ms with
  | zero => cases hq
  | succ fuel ih =>
    rcases mem_audioFiles_cases hq with ⟨rfl, _⟩ | ⟨i, n, child, _, he, hq⟩
    · exact ⟨ms, hms, rfl⟩
    · rw [← Path.down_concat] at hq
      exact ih (List.forall_mem_append.mpr ⟨hms, by simpa using ht he⟩) hq

/-- A file that is found under the steps of a path in the library is found under that path. -/
theorem eq_of_same_of_mem_audioFiles (ht : ProperNames t) (hne : root.bytes ≠ [])
    (hp : Verification.InLibrary root p) (hq : q ∈ audioFiles t fuel above root)
    (hs : q.Same p) : q = p := by
  obtain ⟨a, b, c, ha, hb, hc, rfl⟩ := hp
  obtain ⟨ns, hns, rfl⟩ := down_of_mem_audioFiles ht (fun m hm => absurd hm List.not_mem_nil) hq
  have hway : ∀ n ∈ [a, b, c], IsNormal n := by
    simp only [List.forall_mem_cons]
    exact ⟨ha, hb, hc, fun n hn => absurd hn List.not_mem_nil⟩
  rw [Path.eq_of_down_same hne hns hway hs]
  rfl

end ScannedTrack

end TaggedLibrary
