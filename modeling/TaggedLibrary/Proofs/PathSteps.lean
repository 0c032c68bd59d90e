import TaggedLibrary.FileTree.Change
/-!
The steps of a path and the names on its way. The names that take a step are told by the steps, a
path made of steps takes those steps, and a name that is joined to a path is one more step.
-/

namespace TaggedLibrary

namespace Path

/-- A name that stands for itself in a path. -/
structure IsNormal (n : Bytes) : Prop where
  nonempty : n ≠ []
  not_dot : n ≠ [dot]
  not_dots : n ≠ [dot, dot]
  no_slash : slash ∉ n

theorem IsNormal.isStill {n : Bytes} (h : IsNormal n) : isStill n = false := by
  simp [Path.isStill, h.nonempty, h.not_dot]

section Segments

theorem segments_ne_nil (b : Bytes) : segments b ≠ [] := by
  cases b with
  | nil => simp [segments]
  | cons x rest =>
    unfold segments
    split
    · simp
    · split <;> simp

theorem segments_slash (b : Bytes) : segments (slash :: b) = [] :: segments b := by
  rw [segments, if_pos rfl]

theorem segments_cons {x : UInt8} {b s : Bytes} {ss : List Bytes} (hx : x ≠ slash)
    (h : segments b = s :: ss) : segments (x :: b) = (x :: s) :: ss := by
  rw [segments, if_neg hx, h]

theorem segments_append (a b : Bytes) :
    segments (a ++ slash :: b) = segments a ++ segments b := by
  induction a with
  | nil => rw [List.nil_append, segments_slash]; rfl
  | cons x a ih =>
    by_cases hx : x = slash
    · subst hx
      rw [List.cons_append, segments_slash, segments_slash, ih, List.cons_append]
    · obtain ⟨s, ss, hs⟩ := List.exists_cons_of_ne_nil (segments_ne_nil a)
      rw [hs, List.cons_append] at ih
      rw [List.cons_append, segments_cons hx ih, segments_cons hx hs, List.cons_append]

theorem segments_of_not_mem {n : Bytes} (h : slash ∉ n) : segments n = [n] := by
  induction n with
  | nil => rfl
  | cons x n ih =>
    rw [List.mem_cons, not_or] at h
    exact segments_cons (Ne.symm h.1) (ih h.2)

theorem slash_not_mem_of_mem_segments {b s : Bytes} (h : s ∈ segments b) : slash ∉ s := by
  induction b generalizing s with
  | nil =>
    obtain rfl := List.mem_singleton.mp h
    exact List.not_mem_nil
  | cons x b ih =>
    by_cases hx : x = slash
    · subst hx
      rw [segments_slash] at h
      rcases List.mem_cons.mp h with rfl | h
      · exact List.not_mem_nil
      · exact ih h
    · obtain ⟨t, ts, ht⟩ := List.exists_cons_of_ne_nil (segments_ne_nil b)
      rw [segments_cons hx ht] at h
      rcases List.mem_cons.mp h with rfl | h
      · intro hm
        rcases List.mem_cons.mp hm with he | hm
        · exact hx he.symm
        · exact ih (by rw [ht]; simp) hm
      · exact ih (by rw [ht]; simp [h])

theorem joinSegments_cons (s : Bytes) {ss : List Bytes} (h : ss ≠ []) :
    joinSegments (s :: ss) = s ++ slash :: joinSegments ss := by
  cases ss with
  | nil => exact absurd rfl h
  | cons t ts => rfl

theorem segments_joinSegments {ss : List Bytes} (hne : ss ≠ []) (h : ∀ s ∈ ss, slash ∉ s) :
    segments (joinSegments ss) = ss := by
  induction ss with
  | nil => exact absurd rfl hne
  | cons s ss ih =>
    have hs := segments_of_not_mem (h s List.mem_cons_self)
    by_cases hss : ss = []
    · rw [hss]
      exact hs
    · rw [joinSegments_cons s hss, segments_append, hs,
        ih hss fun t ht => h t (List.mem_cons_of_mem _ ht), List.singleton_append]

end Segments

section Steps

/-- The steps that the parts between slashes take. -/
def ofSegments : List Bytes → List Component
  | [] => []
  | s :: ss =>
    if s = [] ∧ ss ≠ [] then .root :: body ss
    else if s = [dot] then .here :: body ss
    else body (s :: ss)

theorem components_eq (p : Path) : p.components = ofSegments (segments p.bytes) := by
  unfold components
  cases segments p.bytes <;> rfl

/-- The name by which a step is taken. -/
def nameOf? : Component → Option Bytes
  | .name n => some n
  | .parent => some [dot, dot]
  | _ => none

theorem nameOf?_body (ss : List Bytes) : (body ss).filterMap nameOf? = ss.filter (!isStill ·) := by
  have hone : (nameOf? ∘ fun s : Bytes => if s = [dot, dot] then .parent else .name s) = some := by
    funext s
    by_cases hs : s = [dot, dot]
    · simp [hs, nameOf?]
    · simp [hs, nameOf?]
  rw [body, List.filterMap_map, hone, List.filterMap_some]

theorem nameOf?_ofSegments (ss : List Bytes) :
    (ofSegments ss).filterMap nameOf? = ss.filter (!isStill ·) := by
  cases ss with
  | nil => rfl
  | cons s ss =>
    rw [ofSegments]
    split
    · rename_i h
      rw [h.1]
      exact nameOf?_body ss
    · split
      · rename_i h
        rw [h]
        exact nameOf?_body ss
      · exact nameOf?_body (s :: ss)

/-- The names that take a step are those of the steps. -/
theorem filter_names (p : Path) :
    (FileTree.names p.bytes).filter (!isStill ·) = p.components.filterMap nameOf? := by
  have hnil : (!isStill []) = false := rfl
  have hlast : (if p.bytes.getLast? = some slash then [[]] else [] : List Bytes).filter
      (!isStill ·) = [] := by
    split <;> rfl
  rw [components_eq, nameOf?_ofSegments, FileTree.names, List.filter_append, hlast,
    List.append_nil, List.filter_filter]
  congr 1
  funext s
  by_cases hs : s = []
  · simp [hs, hnil]
  · simp [hs]

/-- A step that is not the start of a path. -/
def IsStep (c : Component) : Prop := c = .parent ∨ ∃ n, c = .name n ∧ IsNormal n

theorem isStep_of_mem_body {ss : List Bytes} (h : ∀ s ∈ ss, slash ∉ s) {c : Component}
    (hc : c ∈ body ss) : IsStep c := by
  obtain ⟨s, hs, rfl⟩ := List.mem_map.mp hc
  obtain ⟨hs, hstill⟩ := List.mem_filter.mp hs
  by_cases hdots : s = [dot, dot]
  · exact Or.inl (if_pos hdots)
  · refine Or.inr ⟨s, if_neg hdots, ?_, ?_, hdots, h s hs⟩
    · rintro rfl
      cases hstill
    · rintro rfl
      cases hstill

/-- Steps as a path takes them: only the first of them can be a start. -/
def Proper : List Component → Prop
  | [] => True
  | c :: cs => (c = .root ∨ c = .here ∨ IsStep c) ∧ ∀ x ∈ cs, IsStep x

theorem proper_components (p : Path) : Proper p.components := by
  have hslash : ∀ s ∈ segments p.bytes, slash ∉ s := fun s => slash_not_mem_of_mem_segments
  rw [components_eq]
  generalize segments p.bytes = ss at hslash
  cases ss with
  | nil => trivial
  | cons s ss =>
    have hbody : ∀ c ∈ body ss, IsStep c := fun c hc =>
      isStep_of_mem_body (fun s hs => hslash s (List.mem_cons_of_mem _ hs)) hc
    rw [ofSegments]
    split
    · exact ⟨Or.inl rfl, hbody⟩
    · split
      · exact ⟨Or.inr (Or.inl rfl), hbody⟩
      · have hall : ∀ c ∈ body (s :: ss), IsStep c := fun c hc => isStep_of_mem_body hslash hc
        cases hb : body (s :: ss) with
        | nil => trivial
        | cons c cs =>
          rw [hb] at hall
          exact ⟨Or.inr (Or.inr (hall c List.mem_cons_self)),
            fun x hx => hall x (List.mem_cons_of_mem _ hx)⟩

theorem Proper.of_append {cs ds : List Component} (h : Proper (cs ++ ds)) : Proper cs := by
  cases cs with
  | nil => trivial
  | cons c cs => exact ⟨h.1, fun x hx => h.2 x (List.mem_append_left _ hx)⟩

theorem Proper.isStep {cs : List Component} {c : Component} (h : Proper (cs ++ [c]))
    (hcs : cs ≠ []) : IsStep c := by
  cases cs with
  | nil => exact absurd rfl hcs
  | cons d cs => exact h.2 c (by simp)

/-- A path is absolute if its steps begin at the root. -/
theorem head?_eq_slash (p : Path) :
    p.bytes.head? = some slash ↔ p.components.head? = some .root := by
  rw [components_eq]
  rcases p with ⟨_ | ⟨x, b⟩⟩
  · simp [segments, ofSegments, body, isStill]
  · by_cases hx : x = slash
    · subst hx
      rw [segments_slash, ofSegments, if_pos ⟨rfl, segments_ne_nil b⟩]
      simp
    · obtain ⟨s, ss, hs⟩ := List.exists_cons_of_ne_nil (segments_ne_nil b)
      have hslash : ∀ t ∈ (x :: s) :: ss, slash ∉ t := by
        intro t ht
        rw [← segments_cons hx hs] at ht
        exact slash_not_mem_of_mem_segments ht
      simp only [segments_cons hx hs, ofSegments]
      rw [if_neg (by simp)]
      split
      · simp [hx]
      · have hne : (body ((x :: s) :: ss)).head? ≠ some .root := by
          intro h
          rcases isStep_of_mem_body hslash (List.mem_of_mem_head? h) with h | ⟨n, h, _⟩ <;> cases h
        simp [hx, hne]

theorem components_ne_nil {p : Path} (h : p.bytes ≠ []) : p.components ≠ [] := by
  rw [components_eq]
  rcases p with ⟨_ | ⟨x, b⟩⟩
  · exact absurd rfl h
  · by_cases hx : x = slash
    · subst hx
      rw [segments_slash, ofSegments, if_pos ⟨rfl, segments_ne_nil b⟩]
      exact List.cons_ne_nil _ _
    · obtain ⟨s, ss, hs⟩ := List.exists_cons_of_ne_nil (segments_ne_nil b)
      rw [segments_cons hx hs, ofSegments, if_neg (by simp)]
      split
      · exact List.cons_ne_nil _ _
      · rename_i hdot
        have hstill : isStill (x :: s) = false := by
          rw [isStill, Bool.or_eq_false_iff, beq_eq_false_iff_ne, beq_eq_false_iff_ne]
          exact ⟨List.cons_ne_nil _ _, hdot⟩
        simp [body, hstill]

/-- What a step is written as. -/
def segmentOf : Component → Bytes
  | .root => []
  | .here => [dot]
  | .parent => [dot, dot]
  | .name n => n

theorem ofComponents_eq {cs : List Component} (h : cs ≠ [.root]) :
    ofComponents cs = ⟨joinSegments (cs.map segmentOf)⟩ := by
  rw [ofComponents]
  · rfl
  · exact h

theorem segmentOf_isStep {c : Component} (h : IsStep c) : segmentOf c ≠ [] ∧
    segmentOf c ≠ [dot] ∧ slash ∉ segmentOf c := by
  rcases h with rfl | ⟨n, rfl, hn⟩
  · decide
  · exact ⟨hn.nonempty, hn.not_dot, hn.no_slash⟩

theorem body_segmentOf {cs : List Component} (h : ∀ c ∈ cs, IsStep c) :
    body (cs.map segmentOf) = cs := by
  induction cs with
  | nil => rfl
  | cons c cs ih =>
    have hc := h c List.mem_cons_self
    have hrest := ih fun x hx => h x (List.mem_cons_of_mem _ hx)
    have hstill : (!isStill (segmentOf c)) = true := by
      obtain ⟨h1, h2, _⟩ := segmentOf_isStep hc
      simp [isStill, h1, h2]
    have hback :
        (if segmentOf c = [dot, dot] then Component.parent else .name (segmentOf c)) = c := by
      rcases hc with rfl | ⟨n, rfl, hn⟩
      · rfl
      · exact if_neg hn.not_dots
    rw [body] at hrest ⊢
    rw [List.map_cons, List.filter_cons, if_pos hstill, List.map_cons, hback, hrest]

/-- A path made of steps takes these steps. -/
theorem components_ofComponents {cs : List Component} (h : Proper cs) (hne : cs ≠ []) :
    (ofComponents cs).components = cs := by
  by_cases hroot : cs = [.root]
  · subst hroot
    rfl
  obtain ⟨c, rest, rfl⟩ := List.exists_cons_of_ne_nil hne
  obtain ⟨hc, hrest⟩ := h
  have hslash : ∀ s ∈ (c :: rest).map segmentOf, slash ∉ s := by
    intro s hs
    obtain ⟨d, hd, rfl⟩ := List.mem_map.mp hs
    rcases List.mem_cons.mp hd with rfl | hd
    · rcases hc with rfl | rfl | hc
      · decide
      · decide
      · exact (segmentOf_isStep hc).2.2
    · exact (segmentOf_isStep (hrest d hd)).2.2
  rw [ofComponents_eq hroot, components_eq, segments_joinSegments (by simp) hslash, List.map_cons,
    ofSegments]
  rcases hc with rfl | rfl | hc
  · have hrest' : rest ≠ [] := by
      rintro rfl
      exact hroot rfl
    rw [if_pos ⟨rfl, by simpa using hrest'⟩, body_segmentOf hrest]
  · rw [if_neg (by simp [segmentOf]), if_pos (show segmentOf .here = [dot] from rfl),
      body_segmentOf hrest]
  · obtain ⟨h1, h2, _⟩ := segmentOf_isStep hc
    rw [if_neg (by simp [h1]), if_neg h2, ← List.map_cons, body_segmentOf]
    intro x hx
    rcases List.mem_cons.mp hx with rfl | hx
    · exact hc
    · exact hrest x hx

end Steps

section Join

variable {p r : Path} {n : Bytes}

theorem IsNormal.relative (hn : IsNormal n) : (⟨n⟩ : Path).isAbsolute = false := by
  rw [isAbsolute, beq_eq_false_iff_ne]
  exact fun h => hn.no_slash (List.mem_of_mem_head? h)

/-- A relative path goes behind a path and one slash, which may be there already. -/
theorem bytes_join_relative (hp : p.bytes ≠ []) (hr : r.isAbsolute = false) :
    ∃ a, (p.join r).bytes = a ++ slash :: r.bytes ∧
      (p.bytes = a ∧ a.getLast? ≠ some slash ∨ p.bytes = a ++ [slash]) := by
  have hrelative : ¬ r.isAbsolute = true := by simp [hr]
  by_cases hlast : p.bytes.getLast? = some slash
  · obtain ⟨a, ha⟩ := List.getLast?_eq_some_iff.mp hlast
    refine ⟨a, ?_, Or.inr ha⟩
    rw [join, if_neg hrelative, if_pos (Or.inr hlast), ha, List.append_assoc,
      List.singleton_append]
  · refine ⟨p.bytes, ?_, Or.inl ⟨rfl, hlast⟩⟩
    rw [join, if_neg hrelative, if_neg (not_or.mpr ⟨hp, hlast⟩)]

theorem bytes_join (hp : p.bytes ≠ []) (hn : IsNormal n) :
    ∃ a, (p.join ⟨n⟩).bytes = a ++ slash :: n ∧
      (p.bytes = a ∧ a.getLast? ≠ some slash ∨ p.bytes = a ++ [slash]) :=
  bytes_join_relative hp hn.relative

theorem bytes_join_ne_nil (hp : p.bytes ≠ []) (hn : IsNormal n) : (p.join ⟨n⟩).bytes ≠ [] := by
  obtain ⟨a, ha, _⟩ := bytes_join hp hn
  rw [ha]
  simp

theorem head?_bytes_join (hp : p.bytes ≠ []) (hn : IsNormal n) :
    (p.join ⟨n⟩).bytes.head? = p.bytes.head? := by
  obtain ⟨a, hj, ⟨ha, _⟩ | ha⟩ := bytes_join hp hn
  · rw [hj, ha]
    rw [ha] at hp
    obtain ⟨x, rest, rfl⟩ := List.exists_cons_of_ne_nil hp
    rfl
  · rw [hj, ha]
    cases a <;> rfl

/-- The names of a path with a name behind it, where a slash at the end of the path is gone. -/
theorem names_join (hp : p.bytes ≠ []) (hn : IsNormal n) :
    ∃ ns, FileTree.names (p.join ⟨n⟩).bytes = ns ++ [n] ∧
      (FileTree.names p.bytes = ns ∨ FileTree.names p.bytes = ns ++ [[]]) := by
  obtain ⟨a, hj, hform⟩ := bytes_join hp hn
  have hlast : (a ++ slash :: n).getLast? ≠ some slash := by
    rcases List.eq_nil_or_concat n with he | ⟨init, x, hx⟩
    · exact absurd he hn.nonempty
    intro h
    rw [hx, List.concat_eq_append, ← List.cons_append, ← List.append_assoc,
      List.getLast?_concat] at h
    apply hn.no_slash
    rw [hx, ← Option.some.inj h]
    simp
  have hkeep : ([n].filter (· != [])) = [n] := by simp [hn.nonempty]
  refine ⟨(segments a).filter (· != []), ?_, ?_⟩
  · rw [hj, FileTree.names, if_neg hlast, segments_append, segments_of_not_mem hn.no_slash,
      List.filter_append, hkeep, List.append_nil]
  · rcases hform with ⟨ha, hend⟩ | ha
    · left
      rw [ha, FileTree.names, if_neg hend, List.append_nil]
    · right
      rw [ha, FileTree.names, if_pos (by simp), segments_append]
      simp [segments]

theorem body_append (ss ts : List Bytes) : body (ss ++ ts) = body ss ++ body ts := by
  rw [body, List.filter_append, List.map_append]
  rfl

theorem body_normal (hn : IsNormal n) : body [n] = [.name n] := by
  simp [body, hn.isStill, hn.not_dots]

/-- Behind some part of a path, parts between slashes take the steps of their names. -/
theorem ofSegments_append {ss ts : List Bytes} (hss : ss ≠ []) (hts : ts ≠ []) :
    ofSegments (ss ++ ts) = ofSegments (ss ++ [[]]) ++ body ts := by
  obtain ⟨s, ss, rfl⟩ := List.exists_cons_of_ne_nil hss
  have hnil : body [[]] = [] := rfl
  have hne : ∀ us : List Bytes, us ≠ [] → ss ++ us ≠ [] := fun us hus =>
    List.append_ne_nil_of_right_ne_nil ss hus
  simp only [List.cons_append, ofSegments, hne ts hts, hne [[]] (List.cons_ne_nil _ _), ne_eq,
    not_false_eq_true, and_true]
  split
  · rw [body_append, body_append, hnil, List.append_nil, List.cons_append]
  · split
    · rw [body_append, body_append, hnil, List.append_nil, List.cons_append]
    · rw [← List.cons_append, ← List.cons_append, body_append, body_append, hnil, List.append_nil]

theorem ofSegments_concat_nil {ss : List Bytes} (h : ss ≠ [[]]) :
    ofSegments (ss ++ [[]]) = ofSegments ss := by
  have hnil : body [[]] = [] := rfl
  cases ss with
  | nil => rfl
  | cons s ss =>
    by_cases hs : s = [] ∧ ss ≠ []
    · rw [List.cons_append, ofSegments, ofSegments, if_pos hs, if_pos ⟨hs.1, by simp⟩, body_append,
        hnil, List.append_nil]
    · have hs' : s ≠ [] := by
        rintro rfl
        refine hs ⟨rfl, fun hss => h ?_⟩
        rw [hss]
      rw [List.cons_append, ofSegments, ofSegments, if_neg hs, if_neg fun hn => hs' hn.1]
      split
      · rw [body_append, hnil, List.append_nil]
      · rw [← List.cons_append, body_append, hnil, List.append_nil]

theorem segments_ne_single {b : Bytes} (h : b ≠ []) : segments b ≠ [[]] := by
  intro hb
  cases b with
  | nil => exact h rfl
  | cons x b =>
    by_cases hx : x = slash
    · subst hx
      rw [segments_slash] at hb
      exact segments_ne_nil b (List.cons.inj hb).2
    · obtain ⟨s, ss, hs⟩ := List.exists_cons_of_ne_nil (segments_ne_nil b)
      rw [segments_cons hx hs] at hb
      exact List.cons_ne_nil _ _ (List.cons.inj hb).1

/-- A relative path behind a path takes the steps of its names after those of the path. -/
theorem components_join_relative (hp : p.bytes ≠ []) (hr : r.isAbsolute = false) :
    (p.join r).components = p.components ++ body (segments r.bytes) := by
  obtain ⟨a, hj, hform⟩ := bytes_join_relative hp hr
  rw [components_eq, hj, segments_append,
    ofSegments_append (segments_ne_nil a) (segments_ne_nil r.bytes), components_eq]
  rcases hform with ⟨ha, _⟩ | ha
  · rw [ha, ofSegments_concat_nil (segments_ne_single (ha ▸ hp))]
  · rw [ha, segments_append]
    rfl

/-- A normal name behind a path is one more step. -/
theorem components_join (hp : p.bytes ≠ []) (hn : IsNormal n) :
    (p.join ⟨n⟩).components = p.components ++ [.name n] := by
  rw [components_join_relative hp hn.relative, segments_of_not_mem hn.no_slash, body_normal hn]

end Join

end Path

end TaggedLibrary
