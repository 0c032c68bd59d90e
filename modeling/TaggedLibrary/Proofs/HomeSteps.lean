import TaggedLibrary.Proofs.PathSteps
/-!
The home directory put in for a first step `~`, step by step: what comes of it takes the steps of
the home directory, and then those of the path that are left. Slashes and dots behind the `~` take
no step, so they never make the rest a path of its own.
-/

namespace TaggedLibrary.Path

section Rest

variable {p r : Path} {ss : List Bytes}

/-- The parts of a path without those that take no step at its two ends. -/
def trimStill (ss : List Bytes) : List Bytes :=
  ((ss.dropWhile isStill).reverse.dropWhile isStill).reverse

theorem filter_dropWhile_isStill (ss : List Bytes) :
    (ss.dropWhile isStill).filter (!isStill ·) = ss.filter (!isStill ·) := by
  induction ss with
  | nil => rfl
  | cons s ss ih =>
    by_cases hs : isStill s = true
    · rw [List.dropWhile_cons_of_pos hs, ih, List.filter_cons_of_neg (by simp [hs])]
    · rw [List.dropWhile_cons_of_neg hs]

theorem body_trimStill (ss : List Bytes) : body (trimStill ss) = body ss := by
  rw [body, body, trimStill, List.filter_reverse, filter_dropWhile_isStill, ← List.filter_reverse,
    List.reverse_reverse, filter_dropWhile_isStill]

theorem mem_of_mem_trimStill {s : Bytes} (h : s ∈ trimStill ss) : s ∈ ss :=
  (List.dropWhile_sublist _).mem
    (List.mem_reverse.mp ((List.dropWhile_sublist _).mem (List.mem_reverse.mp h)))

/-- What is left begins with a part that takes a step. -/
theorem isStill_head_trimStill {s : Bytes} {rest : List Bytes} (h : trimStill ss = s :: rest) :
    isStill s = false := by
  have hfront : trimStill ss <+: ss.dropWhile isStill := by
    have hback := List.dropWhile_suffix isStill (l := (ss.dropWhile isStill).reverse)
    rw [trimStill]
    simpa using List.reverse_prefix.mpr hback
  rw [h] at hfront
  obtain ⟨more, hmore⟩ := hfront
  have hhead := List.head?_dropWhile_not isStill ss
  rw [← hmore] at hhead
  simpa using hhead

/-- A path that is joined of parts of which the first takes a step has the steps of these parts. -/
theorem components_joinSegments (hslash : ∀ s ∈ ss, slash ∉ s)
    (hhead : ∀ s rest, ss = s :: rest → isStill s = false) :
    (⟨joinSegments ss⟩ : Path).components = body ss ∧
      body (segments (joinSegments ss)) = body ss := by
  cases ss with
  | nil => exact ⟨rfl, rfl⟩
  | cons s rest =>
    have hs := hhead s rest rfl
    rw [isStill, Bool.or_eq_false_iff, beq_eq_false_iff_ne, beq_eq_false_iff_ne] at hs
    rw [components_eq, segments_joinSegments (List.cons_ne_nil _ _) hslash, ofSegments,
      if_neg fun h => hs.1 h.1, if_neg hs.2]
    exact ⟨rfl, rfl⟩

theorem afterTilde?_of_segments (h : segments p.bytes = [tilde] :: ss) :
    p.afterTilde? = some ⟨joinSegments (trimStill ss)⟩ := by
  rw [afterTilde?, h]
  rfl

theorem segments_of_afterTilde? (h : p.afterTilde? = some r) :
    ∃ ss, segments p.bytes = [tilde] :: ss := by
  rw [afterTilde?] at h
  split at h
  · rename_i s ss hseg
    split at h
    · rename_i hs
      exact ⟨ss, by rw [hseg, hs]⟩
    · cases h
  · cases h

theorem head?_of_segments {b part : Bytes} {c : UInt8} (h : segments b = (c :: part) :: ss) :
    b.head? = some c := by
  cases b with
  | nil => cases h
  | cons d b =>
    rw [segments] at h
    split at h
    · cases h
    · split at h <;> rw [List.head?_cons, (List.cons.inj (List.cons.inj h).1).1]

theorem ofSegments_tilde (ss : List Bytes) :
    ofSegments ([tilde] :: ss) = .name [tilde] :: body ss := rfl

/-- The first part of a path is `~` if its first step is. -/
theorem segments_of_components {rest : List Component} (h : p.components = .name [tilde] :: rest) :
    ∃ ss, segments p.bytes = [tilde] :: ss ∧ rest = body ss := by
  obtain ⟨s, ss, hs⟩ := List.exists_cons_of_ne_nil (segments_ne_nil p.bytes)
  rw [components_eq, hs, ofSegments] at h
  split at h
  · cases h
  · rename_i hroot
    split at h
    · cases h
    · rename_i hdot
      by_cases hs' : s = []
      · -- an empty part that is no root is all there is
        obtain rfl : ss = [] := Decidable.of_not_not fun hss => hroot ⟨hs', hss⟩
        rw [hs'] at h
        cases h
      · have hstill : isStill s = false := by
          rw [isStill, Bool.or_eq_false_iff, beq_eq_false_iff_ne, beq_eq_false_iff_ne]
          exact ⟨hs', hdot⟩
        have hfirst : body (s :: ss) =
            (if s = [dot, dot] then .parent else .name s) :: body ss := by
          rw [body, List.filter_cons_of_pos (by simp [hstill]), List.map_cons]
          rfl
        rw [hfirst] at h
        obtain ⟨hname, hrest⟩ := List.cons.inj h
        split at hname
        · cases hname
        · rw [Component.name.inj hname] at hs
          exact ⟨ss, hs, hrest.symm⟩

theorem afterTilde?_eq_none (h : p.components.head? ≠ some (.name [tilde])) :
    p.afterTilde? = none := by
  cases hafter : p.afterTilde? with
  | none => rfl
  | some r =>
    obtain ⟨ss, hs⟩ := segments_of_afterTilde? hafter
    rw [components_eq, hs, ofSegments_tilde] at h
    exact absurd rfl h

/-- What comes after a first step `~` is relative, and takes the other steps. -/
theorem rest_of_components {rest : List Component} (h : p.components = .name [tilde] :: rest) :
    ∃ r, p.afterTilde? = some r ∧ r.isAbsolute = false ∧ r.components = rest ∧
      body (segments r.bytes) = rest := by
  obtain ⟨ss, hs, rfl⟩ := segments_of_components h
  have hslash : ∀ s ∈ segments p.bytes, slash ∉ s := fun s => slash_not_mem_of_mem_segments
  rw [hs] at hslash
  have htrim : ∀ s ∈ trimStill ss, slash ∉ s := fun s hm =>
    hslash s (List.mem_cons_of_mem _ (mem_of_mem_trimStill hm))
  obtain ⟨hsteps, hbody⟩ := components_joinSegments htrim fun s rest => isStill_head_trimStill
  refine ⟨_, afterTilde?_of_segments hs, ?_, hsteps.trans (body_trimStill ss),
    hbody.trans (body_trimStill ss)⟩
  rw [isAbsolute, beq_eq_false_iff_ne, ne_eq, head?_eq_slash, hsteps]
  intro hroot
  rcases isStep_of_mem_body htrim (List.mem_of_mem_head? hroot) with hc | ⟨n, hc, _⟩ <;> cases hc

end Rest

section Home

variable {p : Path} {home : Option Bytes} {h : Bytes}

theorem expandHome_none (p : Path) : p.expandHome none = p := by
  unfold expandHome
  cases p.afterTilde? <;> rfl

/-- A path that does not begin with the step `~` stays as it is. -/
theorem expandHome_of_head? (hp : p.components.head? ≠ some (.name [tilde])) :
    p.expandHome home = p := by
  simp only [expandHome, afterTilde?_eq_none hp]

/-- The steps of the home directory are taken in place of the `~`. -/
theorem components_expandHome {rest : List Component} (h : Bytes)
    (hp : p.components = .name [tilde] :: rest) :
    (p.expandHome (some h)).components = (⟨h⟩ : Path).components ++ rest := by
  obtain ⟨r, hafter, hrelative, hsteps, hbody⟩ := rest_of_components hp
  have hjoin : p.expandHome (some h) = (⟨h⟩ : Path).join r := by
    simp only [expandHome, hafter]
  rw [hjoin]
  by_cases hempty : h = []
  · subst hempty
    have hself : (⟨[]⟩ : Path).join r = r := by
      rw [join, if_neg (by simp [hrelative]), if_pos (Or.inl rfl)]
      rfl
    rw [hself, hsteps]
    rfl
  · rw [components_join_relative hempty hrelative, hbody]

/-- Expanding twice takes the same steps as expanding once, if home is somewhere and is not itself
below a `~`. -/
theorem expandHome_twice (hhome : ∀ h, home = some h →
    h ≠ [] ∧ (⟨h⟩ : Path).components.head? ≠ some (.name [tilde])) :
    ((p.expandHome home).expandHome home).Same (p.expandHome home) := by
  cases home with
  | none => rw [expandHome_none, expandHome_none]; rfl
  | some h =>
    obtain ⟨hne, hfirst⟩ := hhome h rfl
    have hstays : (p.expandHome (some h)).expandHome (some h) = p.expandHome (some h) := by
      by_cases hp : p.components.head? = some (.name [tilde])
      · obtain ⟨rest, hrest⟩ := List.head?_eq_some_iff.mp hp
        obtain ⟨c, cs, hc⟩ := List.exists_cons_of_ne_nil
          (components_ne_nil (p := (⟨h⟩ : Path)) hne)
        apply expandHome_of_head?
        rw [components_expandHome h hrest, hc]
        rwa [hc] at hfirst
      · rw [expandHome_of_head? hp, expandHome_of_head? hp]
    rw [hstays]
    rfl

/-- Behind `~/` stands whatever takes the rest of the steps. -/
theorem components_of_tilde {b : Bytes} (hp : p.bytes = tilde :: slash :: b) :
    p.components = .name [tilde] :: body (segments b) := by
  have hsegments : segments p.bytes = [tilde] :: segments b := by
    rw [hp]
    exact segments_append [tilde] b
  rw [components_eq, hsegments, ofSegments_tilde]

/-- A path is left alone unless its first step is `~` and home is known. Then the steps of home
come in place of the `~`, and the other steps behind them, whatever slashes and dots stand between;
and a second turn changes no step. -/
theorem home_in_place_of_tilde (p : Path) (home : Option Bytes) :
    (p.components.head? ≠ some (.name [tilde]) ∨ home = none → p.expandHome home = p) ∧
    (∀ h rest, home = some h → p.components = .name [tilde] :: rest →
      (p.expandHome home).components = (⟨h⟩ : Path).components ++ rest) ∧
    (∀ h b, home = some h → p.bytes = tilde :: slash :: b →
      (p.expandHome home).components = (⟨h⟩ : Path).components ++ body (segments b)) ∧
    ((∀ h, home = some h → h ≠ [] ∧ (⟨h⟩ : Path).components.head? ≠ some (.name [tilde])) →
      ((p.expandHome home).expandHome home).Same (p.expandHome home)) := by
  refine ⟨?_, ?_, ?_, expandHome_twice⟩
  · rintro (hp | rfl)
    · exact expandHome_of_head? hp
    · exact expandHome_none p
  · rintro h rest rfl hp
    exact components_expandHome h hp
  · rintro h b rfl hp
    exact components_expandHome h (components_of_tilde hp)

/-- Two slashes, a dot and a slash at the end leave home where it is, and so does a name `~` further
on. -/
theorem home_in_place_of_tilde_slashes :
    ((ofString "~//./~/").expandHome (some (Utf8.encode "/h/."))).components =
        [.root, .name (Utf8.encode "h"), .name [tilde]] ∧
      (ofString "./~").expandHome (some (Utf8.encode "/h/.")) = ofString "./~" ∧
      (((ofString "~//./~/").expandHome (some (Utf8.encode "/h/."))).expandHome
        (some (Utf8.encode "/h/."))).Same
        ((ofString "~//./~/").expandHome (some (Utf8.encode "/h/."))) := by
  obtain ⟨_, _, hrest, htwice⟩ :=
    home_in_place_of_tilde (ofString "~//./~/") (some (Utf8.encode "/h/."))
  refine ⟨?_, ?_, htwice ?_⟩
  · rw [hrest (Utf8.encode "/h/.") (Utf8.encode "/./~/") rfl (by decide)]
    decide
  · exact (home_in_place_of_tilde (ofString "./~") _).1 (Or.inl (by decide))
  · rintro h hh
    cases hh
    exact ⟨by decide, by decide⟩

end Home

end TaggedLibrary.Path
