import TaggedLibrary.Toml.Document
/-!
Names in a document: no table that is read has one name twice. What puts a node among others keeps
it so, and every value that is read is so already.
-/

namespace TaggedLibrary

/-- No table in a tree of settings has one name twice. -/
inductive Setting.Distinct : Setting → Prop
  | scalar {o : Option Origin} {v : Scalar} : Distinct (.scalar o v)
  | array {o : Option Origin} {xs : List Setting} (items : ∀ s ∈ xs, Distinct s) :
      Distinct (.array o xs)
  | table {o : Option Origin} {es : Entries} (names : (es.map Prod.fst).Nodup)
      (entries : ∀ e ∈ es, Distinct e.2) : Distinct (.table o es)

namespace Toml

/-- No table in a node has one name twice, and no two nodes of a table share a name. -/
inductive Node.Distinct : Node → Prop
  | value {s : Setting} (h : s.Distinct) : Distinct (.value s)
  | table {making : Making} {es : Nodes} (names : (es.map Prod.fst).Nodup)
      (nodes : ∀ e ∈ es, Distinct e.2) : Distinct (.table making es)
  | tables {closed : List Nodes} {last : Nodes}
      (names : ∀ es ∈ closed ++ [last], (es.map Prod.fst).Nodup)
      (nodes : ∀ es ∈ closed ++ [last], ∀ e ∈ es, Distinct e.2) : Distinct (.tables closed last)

/-- Nodes of different names, and distinct names in each. -/
structure Nodes.Distinct (es : Nodes) : Prop where
  names : (es.map Prod.fst).Nodup
  nodes : ∀ e ∈ es, e.2.Distinct

namespace Nodes

variable {es es' sub : Nodes} {name : String} {names : List String} {n : Node} {v : Setting}

theorem distinct_nil : Distinct [] := ⟨List.nodup_nil, fun _ h => by cases h⟩

theorem mem_set {e : String × Node} (h : e ∈ set name n es) : e = (name, n) ∨ e ∈ es := by
  induction es with
  | nil => exact Or.inl (List.mem_singleton.mp h)
  | cons x es ih =>
    obtain ⟨m, old⟩ := x
    rw [set] at h
    by_cases hm : m = name
    · rw [if_pos hm, hm] at h
      rcases List.mem_cons.mp h with h | h
      · exact Or.inl h
      · exact Or.inr (List.mem_cons_of_mem _ h)
    · rw [if_neg hm] at h
      rcases List.mem_cons.mp h with rfl | h
      · exact Or.inr List.mem_cons_self
      · exact (ih h).imp_right (List.mem_cons_of_mem _)

/-- A name that is set is where it was, or behind all others. -/
theorem map_fst_set : (set name n es).map Prod.fst =
    if name ∈ es.map Prod.fst then es.map Prod.fst else es.map Prod.fst ++ [name] := by
  induction es with
  | nil => rfl
  | cons x es ih =>
    obtain ⟨m, old⟩ := x
    rw [set]
    by_cases hm : m = name
    · rw [if_pos hm]
      simp [hm]
    · have hcons : name ∈ List.map Prod.fst ((m, old) :: es) ↔ name ∈ es.map Prod.fst := by
        simp [Ne.symm hm]
      rw [if_neg hm, List.map_cons, ih]
      by_cases hin : name ∈ es.map Prod.fst
      · rw [if_pos hin, if_pos (hcons.mpr hin), List.map_cons]
      · rw [if_neg hin, if_neg (mt hcons.mp hin), List.map_cons, List.cons_append]

theorem Distinct.set (h : es.Distinct) (hn : n.Distinct) : (set name n es).Distinct := by
  refine ⟨?_, fun e he => ?_⟩
  · rw [map_fst_set]
    split
    · exact h.names
    · rename_i hnew
      rw [List.nodup_append]
      refine ⟨h.names, by simp, fun a ha b hb => ?_⟩
      rw [List.mem_singleton.mp hb]
      rintro rfl
      exact hnew ha
  · rcases mem_set he with rfl | he
    · exact hn
    · exact h.nodes e he

theorem Distinct.lookup (h : es.Distinct) (hn : es.lookup name = some n) : n.Distinct := by
  obtain ⟨before, behind, rfl, _⟩ := List.lookup_eq_some_iff.mp hn
  exact h.nodes (name, n) (by simp)

theorem Distinct.table (h : es.Distinct) (making : Making) : (Node.table making es).Distinct :=
  .table h.names h.nodes

theorem distinct_of_table {making : Making} (h : (Node.table making es).Distinct) :
    es.Distinct := by
  cases h with
  | table names nodes => exact ⟨names, nodes⟩

/-- Of a list of tables the last one can be replaced. -/
theorem distinct_tables {closed : List Nodes} (h : (Node.tables closed es).Distinct) :
    es.Distinct ∧ ∀ last : Nodes, last.Distinct → (Node.tables closed last).Distinct := by
  cases h with
  | tables names nodes =>
    refine ⟨⟨names es (by simp), nodes es (by simp)⟩, fun last hlast => .tables ?_ ?_⟩
    · intro xs hxs
      rcases List.mem_append.mp hxs with hxs | hxs
      · exact names xs (List.mem_append_left _ hxs)
      · exact List.mem_singleton.mp hxs ▸ hlast.names
    · intro xs hxs
      rcases List.mem_append.mp hxs with hxs | hxs
      · exact nodes xs (List.mem_append_left _ hxs)
      · exact List.mem_singleton.mp hxs ▸ hlast.nodes

theorem Distinct.add (h : es.Distinct) (hv : v.Distinct) (ha : add v names es = some es') :
    es'.Distinct := by
  fun_induction Nodes.add v names es generalizing es' with
  | case1 => cases ha
  | case2 name es hnew =>
    cases ha
    exact h.set (.value hv)
  | case3 => cases ha
  | case4 name names es hne hnone ih =>
    obtain ⟨sub, hsub, rfl⟩ := Option.map_eq_some_iff.mp ha
    exact h.set ((ih distinct_nil hsub).table _)
  | case5 => cases ha
  | case6 => cases ha
  | case7 name names es hne making sub hother hfound ih =>
    obtain ⟨sub', hsub, rfl⟩ := Option.map_eq_some_iff.mp ha
    exact h.set ((ih (distinct_of_table (h.lookup hfound)) hsub).table _)
  | case8 => cases ha
  | case9 name names es hne closed last hfound hone ih =>
    obtain ⟨last', hlast, rfl⟩ := Option.map_eq_some_iff.mp ha
    obtain ⟨hold, hnew⟩ := distinct_tables (h.lookup hfound)
    exact h.set (hnew _ (ih hold hlast))

theorem Distinct.within {f : Nodes → Option Nodes}
    (hf : ∀ {es es' : Nodes}, es.Distinct → f es = some es' → es'.Distinct) (h : es.Distinct)
    (hw : within f names es = some es') : es'.Distinct := by
  fun_induction Nodes.within f names es generalizing es' with
  | case1 es => exact hf h hw
  | case2 es name names hnone ih =>
    obtain ⟨sub, hsub, rfl⟩ := Option.map_eq_some_iff.mp hw
    exact h.set ((ih distinct_nil hsub).table _)
  | case3 es name names making sub hfound ih =>
    obtain ⟨sub', hsub, rfl⟩ := Option.map_eq_some_iff.mp hw
    exact h.set ((ih (distinct_of_table (h.lookup hfound)) hsub).table _)
  | case4 es name names closed last hfound ih =>
    obtain ⟨last', hlast, rfl⟩ := Option.map_eq_some_iff.mp hw
    obtain ⟨hold, hnew⟩ := distinct_tables (h.lookup hfound)
    exact h.set (hnew _ (ih hold hlast))
  | case5 => cases hw

theorem Distinct.openTable (h : es.Distinct) (ho : openTable name es = some es') :
    es'.Distinct := by
  unfold Nodes.openTable at ho
  split at ho
  · cases ho
    exact h.set (distinct_nil.table _)
  · rename_i sub hfound
    cases ho
    exact h.set ((distinct_of_table (h.lookup hfound)).table _)
  · cases ho

theorem Distinct.openTables (h : es.Distinct) (ho : openTables name es = some es') :
    es'.Distinct := by
  unfold Nodes.openTables at ho
  split at ho
  · cases ho
    exact h.set (.tables (by simp) (by simp))
  · rename_i closed last hfound
    cases ho
    cases h.lookup hfound with
    | tables names nodes =>
      refine h.set (.tables ?_ ?_)
      · intro xs hxs
        rcases List.mem_append.mp hxs with hxs | hxs
        · exact names xs hxs
        · rw [List.mem_singleton.mp hxs]
          exact List.nodup_nil
      · intro xs hxs e he
        rcases List.mem_append.mp hxs with hxs | hxs
        · exact nodes xs hxs e he
        · rw [List.mem_singleton.mp hxs] at he
          cases he
  · cases ho

end Nodes

theorem entriesOf_eq (es : Nodes) : entriesOf es = es.map fun e => (e.1, e.2.toSetting) := by
  induction es with
  | nil => rfl
  | cons e es ih => rw [entriesOf, ih, List.map_cons]

theorem tablesOf_eq (ess : List Nodes) :
    tablesOf ess = ess.map fun es => .table none (entriesOf es) := by
  induction ess with
  | nil => rfl
  | cons es ess ih => rw [tablesOf, ih, List.map_cons]

theorem map_fst_entriesOf (es : Nodes) : (entriesOf es).map Prod.fst = es.map Prod.fst := by
  rw [entriesOf_eq, List.map_map]
  rfl

theorem Node.Distinct.toSetting {n : Node} (h : n.Distinct) : n.toSetting.Distinct := by
  have htable : ∀ {es : Nodes}, (es.map Prod.fst).Nodup → (∀ e ∈ es, e.2.toSetting.Distinct) →
      (Setting.table none (entriesOf es)).Distinct := by
    intro es names nodes
    refine .table (by rwa [map_fst_entriesOf]) fun e he => ?_
    rw [entriesOf_eq] at he
    obtain ⟨x, hx, rfl⟩ := List.mem_map.mp he
    exact nodes x hx
  induction h with
  | value h => exact h
  | table names _ ih => exact htable names ih
  | @tables closed last names _ ih =>
    rw [Node.toSetting, tablesOf_eq]
    refine .array fun s hs => ?_
    rcases List.mem_append.mp hs with hs | hs
    · obtain ⟨es, hes, rfl⟩ := List.mem_map.mp hs
      have hin : es ∈ closed ++ [last] := List.mem_append_left _ hes
      exact htable (names es hin) (ih es hin)
    · rw [List.mem_singleton.mp hs]
      exact htable (names last (by simp)) (ih last (by simp))

theorem Nodes.Distinct.entriesOf {es : Nodes} (h : es.Distinct) :
    (Setting.table none (entriesOf es)).Distinct := (h.table .header).toSetting

section Readers

/-- What a reader reads is distinct. -/
def ReadsDistinct (r : Reader Setting) : Prop := ∀ cs s rest, r cs = some (s, rest) → s.Distinct

variable {r : Reader Setting}

theorem readsDistinct_scalar : ReadsDistinct scalar? := by
  intro cs s rest h
  unfold scalar? at h
  split at h
  · obtain ⟨_, _, he⟩ := Option.map_eq_some_iff.mp h
    cases he
    exact .scalar
  · obtain ⟨_, _, he⟩ := Option.map_eq_some_iff.mp h
    cases he
    exact .scalar
  · obtain ⟨_, _, he⟩ := Option.map_eq_some_iff.mp h
    cases he
    exact .scalar

theorem readsDistinct_items (hr : ReadsDistinct r) (fuel : Nat) {read : List Setting}
    (hread : ∀ s ∈ read, s.Distinct) : ReadsDistinct (items? r fuel read) := by
  induction fuel generalizing read with
  | zero =>
    intro cs s rest h
    cases h
  | succ fuel ih =>
    intro cs s rest h
    simp only [items?, Option.bind_eq_bind, Option.bind_eq_some_iff] at h
    obtain ⟨cs', _, h⟩ := h
    split at h
    · cases h
      exact .array fun x hx => hread x (List.mem_reverse.mp hx)
    · simp only [Option.bind_eq_some_iff] at h
      obtain ⟨⟨x, cs''⟩, hx, cs3, _, h⟩ := h
      have hmore : ∀ y ∈ x :: read, y.Distinct := by
        intro y hy
        rcases List.mem_cons.mp hy with rfl | hy
        · exact hr _ _ _ hx
        · exact hread y hy
      split at h
      · exact ih hmore _ _ _ h
      · cases h
        exact .array fun y hy => hmore y (List.mem_reverse.mp hy)
      · cases h

theorem distinct_of_entry (hr : ReadsDistinct r) {cs rest : Rest} {names : List String}
    {s : Setting} (h : entry? r cs = some ((names, s), rest)) : s.Distinct := by
  simp only [ entry?, Option.bind_eq_bind, Option.bind_eq_some_iff] at h
  obtain ⟨⟨found, cs'⟩, _, h⟩ := h
  split at h
  · simp only [Option.bind_eq_some_iff] at h
    obtain ⟨⟨x, cs''⟩, hx, h⟩ := h
    cases h
    exact hr _ _ _ hx
  · cases h

theorem readsDistinct_braced (hr : ReadsDistinct r) (fuel : Nat) {read : Nodes}
    (hread : read.Distinct) : ReadsDistinct (braced? r fuel read) := by
  induction fuel generalizing read with
  | zero =>
    intro cs s rest h
    cases h
  | succ fuel ih =>
    intro cs s rest h
    simp only [braced?, Option.bind_eq_bind, Option.bind_eq_some_iff] at h
    obtain ⟨cs', _, h⟩ := h
    split at h
    · cases h
      exact hread.entriesOf
    · simp only [Option.bind_eq_some_iff] at h
      obtain ⟨⟨⟨names, x⟩, cs''⟩, hx, read', hadd, cs3, _, h⟩ := h
      have hmore := hread.add (distinct_of_entry hr hx) hadd
      split at h
      · exact ih hmore _ _ _ h
      · cases h
        exact hmore.entriesOf
      · cases h

theorem readsDistinct_value (depth : Nat) : ReadsDistinct (value? depth) := by
  induction depth with
  | zero =>
    intro cs s rest h
    unfold value? at h
    split at h
    · cases h
    · exact readsDistinct_scalar _ _ _ h
  | succ depth ih =>
    intro cs s rest h
    unfold value? at h
    split at h
    · exact readsDistinct_items ih _ (fun _ hs => by cases hs) _ _ _ h
    · exact readsDistinct_braced ih _ Nodes.distinct_nil _ _ _ h
    · exact readsDistinct_scalar _ _ _ h

end Readers

theorem distinct_of_expression {r r' : Reading} {cs rest : Rest} (hr : r.nodes.Distinct)
    (h : expression? r cs = some (r', rest)) : r'.nodes.Distinct := by
  unfold expression? at h
  split at h
  · simp only [Option.bind_eq_bind, Option.bind_eq_some_iff] at h
    obtain ⟨⟨names, cs'⟩, _, nodes, hnodes, h⟩ := h
    cases h
    exact hr.within (fun hes ho => hes.openTables ho) hnodes
  · simp only [Option.bind_eq_bind, Option.bind_eq_some_iff] at h
    obtain ⟨⟨names, cs'⟩, _, nodes, hnodes, h⟩ := h
    cases h
    exact hr.within (fun hes ho => hes.openTable ho) hnodes
  · simp only [Option.bind_eq_bind, Option.bind_eq_some_iff] at h
    obtain ⟨⟨⟨names, s⟩, cs'⟩, hs, nodes, hnodes, h⟩ := h
    cases h
    exact hr.within (fun hes ho => hes.add (distinct_of_entry (readsDistinct_value _) hs) ho) hnodes

theorem distinct_of_expressions {fuel : Nat} {r r' : Reading} {cs : Rest} (hr : r.nodes.Distinct)
    (h : expressions? fuel r cs = some r') : r'.nodes.Distinct := by
  induction fuel generalizing r cs with
  | zero => cases h
  | succ fuel ih =>
    simp only [expressions?, Option.bind_eq_bind, Option.bind_eq_some_iff] at h
    obtain ⟨cs', _, h⟩ := h
    split at h
    · cases h
      exact hr
    · simp only [Option.bind_eq_some_iff] at h
      obtain ⟨⟨r'', cs''⟩, hone, cs3, _, h⟩ := h
      have hnext := distinct_of_expression hr hone
      split at h
      · cases h
        exact hnext
      · simp only [Option.bind_eq_some_iff] at h
        obtain ⟨rest, _, h⟩ := h
        exact ih hnext h

/-- No table of a document has one name twice, the document itself among them. -/
theorem distinct_of_parse {s : String} {es : Entries} (h : parse? s = some es) :
    (Setting.table none es).Distinct := by
  simp only [parse?, Option.bind_eq_bind, Option.bind_eq_some_iff] at h
  obtain ⟨r, hr, h⟩ := h
  cases h
  exact (distinct_of_expressions Nodes.distinct_nil hr).entriesOf

end Toml

end TaggedLibrary
