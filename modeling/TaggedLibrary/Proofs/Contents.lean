import Mathlib.Data.List.Nodup
import TaggedLibrary.FileTree.Listing
import TaggedLibrary.Proofs.PlainTree
/-!
All that is below a directory, as a listing shows it. Below a plain directory each node has one
way, and where no directory has a name twice, no way is shown twice.
-/

namespace TaggedLibrary

namespace Path

variable {p : Path}

/-- Down from a path, name by name. -/
def down (p : Path) (ns : List Bytes) : Path := ns.foldl (fun p n => p.join ⟨n⟩) p

@[simp] theorem down_nil (p : Path) : p.down [] = p := rfl

theorem down_cons (p : Path) (n : Bytes) (ns : List Bytes) :
    p.down (n :: ns) = (p.join ⟨n⟩).down ns := rfl

theorem down_concat (p : Path) (ns : List Bytes) (n : Bytes) :
    p.down (ns ++ [n]) = (p.down ns).join ⟨n⟩ := by
  rw [down, List.foldl_append]
  rfl

theorem components_down {ns : List Bytes} (hp : p.bytes ≠ []) (hn : ∀ n ∈ ns, IsNormal n) :
    (p.down ns).components = p.components ++ ns.map .name := by
  induction ns generalizing p with
  | nil => rw [down_nil, List.map_nil, List.append_nil]
  | cons n ns ih =>
    obtain ⟨hn, hns⟩ := List.forall_mem_cons.mp hn
    rw [down_cons, ih (bytes_join_ne_nil hp hn) hns, components_join hp hn, List.append_assoc]
    rfl

/-- Different names lead down by different steps. -/
theorem eq_of_down_same {ns ms : List Bytes} (hp : p.bytes ≠ []) (hn : ∀ n ∈ ns, IsNormal n)
    (hm : ∀ m ∈ ms, IsNormal m) (h : (p.down ns).Same (p.down ms)) : ns = ms := by
  rw [Same, components_down hp hn, components_down hp hm] at h
  have hinj : Function.Injective Component.name := fun _ _ h => Component.name.inj h
  exact hinj.list_map (List.append_cancel_left h)

/-- Different names lead down to different paths. -/
theorem down_injective {ns ms : List Bytes} (hp : p.bytes ≠ []) (hn : ∀ n ∈ ns, IsNormal n)
    (hm : ∀ m ∈ ms, IsNormal m) (h : p.down ns = p.down ms) : ns = ms :=
  eq_of_down_same hp hn hm (congrArg components h)

end Path

namespace FileTree

/-- What a listing shows of a node. -/
def Shown.ofNode : Node → Shown
  | .file bytes .. => .file bytes
  | .directory .. => .directory
  | .link _ => .link
  | .device => .device

/-- Everything below a path, by the paths that lead there. -/
def contents (t : FileTree) (p : Path) : List (Path × Shown) :=
  (t.listing p).map fun (way, shown) => (p.down way, shown)

/-- `Leads t d ns i`: from directory `d` the names `ns` lead down to node `i`. -/
inductive Leads (t : FileTree) (d : Nat) : List Bytes → Nat → Prop
  | top : Leads t d [] d
  | entry {ns : List Bytes} {i j : Nat} {n : Bytes} (h : Leads t d ns i) (he : IsEntry t i n j) :
      Leads t d (ns ++ [n]) j

/-- Every name in a directory is there once. -/
def Distinct (t : FileTree) (i : Nat) : Prop :=
  ∀ parent entries, t.node? i = some (.directory parent entries) → (entries.map Prod.fst).Nodup

section Ways

variable {t t' : FileTree} {d i j : Nat} {ns ms : List Bytes}

theorem Leads.isBelow (h : Leads t d ns i) : Below t d i := by
  induction h with
  | top => exact .top
  | entry _ he ih => exact .entry ih he

theorem Leads.eq_top (h : Leads t d [] i) : i = d := by
  generalize hns : ([] : List Bytes) = ns at h
  cases h with
  | top => rfl
  | entry => exact absurd hns (by simp)

/-- Below a plain directory there is one way to each node. -/
theorem Leads.unique (hp : Plain t d) (h : Leads t d ns i) (h' : Leads t d ms i) : ns = ms := by
  induction h generalizing ms with
  | top =>
    cases h' with
    | top => rfl
    | entry h' he => exact absurd he (hp.top h'.isBelow)
  | entry h he ih =>
    cases h' with
    | top => exact absurd he (hp.top h.isBelow)
    | entry h' he' =>
      obtain ⟨rfl, rfl⟩ := hp.unique h.isBelow h'.isBelow he he'
      rw [ih h']

/-- A name is added to a directory only where it is free. -/
theorem Change.distinct {dirs files : Path → Prop} (h : Change dirs files t t')
    (hi : Distinct t i) : Distinct t' i := by
  have hadd : ∀ {k parent : Nat} {es : List (Bytes × Nat)} {name : Bytes} {new : Node},
      t.node? k = some (.directory parent es) → es.lookup name = none →
      (∀ up names, new = .directory up names → names = []) →
      Distinct (t.addEntry k name new) i := by
    intro k parent es name new hk hfree hnew up entries hnode
    by_cases hik : i = k
    · subst hik
      rw [node?_addEntry_directory hk] at hnode
      cases hnode
      have hout : name ∉ es.map Prod.fst := by
        intro hm
        obtain ⟨e, he, rfl⟩ := List.mem_map.mp hm
        have hsome : (es.lookup e.1).isSome = true := by
          rw [List.lookup_isSome_iff]
          exact ⟨e, he, beq_self_eq_true _⟩
        rw [hfree] at hsome
        cases hsome
      rw [List.map_append, List.map_singleton]
      refine List.nodup_append.mpr ⟨hi _ _ hk, List.nodup_singleton _, fun a ha b hb hab => ?_⟩
      obtain rfl := List.mem_singleton.mp hb
      exact hout (hab ▸ ha)
    · by_cases hsize : i = t.nodes.size
      · subst hsize
        rw [node?_addEntry_new hk] at hnode
        rw [hnew up entries (Option.some.inj hnode)]
        exact List.nodup_nil
      · rw [node?_addEntry_of_ne hk hik hsize] at hnode
        exact hi _ _ hnode
  cases h with
  | directory hp hr hns hs =>
    obtain ⟨_, _, _, hd, hc⟩ := hs.free_node
    exact hadd hd hc fun _ _ he => by cases he; rfl
  | file hp hr hs =>
    obtain ⟨_, _, _, hd, hc⟩ := hs.free_node
    exact hadd hd hc fun _ _ he => by cases he
  | @contents _ k _ _ _ _ _ hk =>
    intro up entries hnode
    have hik : i ≠ k := by
      rintro rfl
      rw [node?_setNode _ hk] at hnode
      cases hnode
    rw [node?_setNode_of_ne _ hik] at hnode
    exact hi _ _ hnode

theorem Changes.distinct {dirs files : Path → Prop} (h : Changes dirs files t t')
    (hi : Distinct t i) : Distinct t' i := by
  induction h with
  | refl => exact hi
  | tail _ hc ih => exact hc.distinct ih

end Ways

section Below

variable {t : FileTree} {d i depth : Nat} {way : List Bytes}

/-- Only a directory has anything below it. -/
theorem below_of_not_directory
    (hi : ∀ parent entries, t.node? i ≠ some (.directory parent entries)) :
    t.below depth way i = [] := by
  cases depth with
  | zero => rfl
  | succ depth =>
    rw [below]
    cases hn : t.node? i with
    | none => rfl
    | some node =>
      cases node with
      | directory parent entries => exact absurd hn (hi parent entries)
      | file => rfl
      | link => rfl
      | device => rfl

/-- One level of a listing: each name with what is below it. -/
theorem below_succ {parent : Nat} {entries : List (Bytes × Nat)}
    (hi : t.node? i = some (.directory parent entries)) :
    t.below (depth + 1) way i = entries.flatMap fun e =>
      match t.node? e.2 with
      | some node => (way ++ [e.1], Shown.ofNode node) :: t.below depth (way ++ [e.1]) e.2
      | none => [] := by
  rw [below, hi]
  refine List.flatMap_congr fun ⟨name, child⟩ _ => ?_
  simp only
  cases hn : t.node? child with
  | none => rfl
  | some node =>
    have hleaf : (∀ parent entries, node ≠ .directory parent entries) →
        t.below depth (way ++ [name]) child = [] := fun hnode =>
      below_of_not_directory fun _ _ hd => hnode _ _ (Option.some.inj (hn.symm.trans hd))
    cases node with
    | directory parent entries => rfl
    | file bytes mode modified =>
      rw [hleaf (by simp)]
      rfl
    | link target =>
      rw [hleaf (by simp)]
      rfl
    | device =>
      rw [hleaf (by simp)]
      rfl

theorem mem_below_succ {x : List Bytes × Shown} : x ∈ t.below (depth + 1) way i ↔
    ∃ n child node, IsEntry t i n child ∧ t.node? child = some node ∧
      (x = (way ++ [n], Shown.ofNode node) ∨ x ∈ t.below depth (way ++ [n]) child) := by
  constructor
  · intro h
    by_cases hdir : ∃ parent entries, t.node? i = some (.directory parent entries)
    · obtain ⟨parent, entries, hi⟩ := hdir
      rw [below_succ hi] at h
      obtain ⟨⟨n, child⟩, he, hx⟩ := List.mem_flatMap.mp h
      simp only at hx
      cases hn : t.node? child with
      | none =>
        rw [hn] at hx
        cases hx
      | some node =>
        rw [hn] at hx
        exact ⟨n, child, node, ⟨parent, entries, hi, he⟩, hn, List.mem_cons.mp hx⟩
    · rw [below_of_not_directory fun parent entries hi => hdir ⟨parent, entries, hi⟩] at h
      cases h
  · rintro ⟨n, child, node, ⟨parent, entries, hi, he⟩, hn, hx⟩
    rw [below_succ hi]
    refine List.mem_flatMap.mpr ⟨(n, child), he, ?_⟩
    simp only [hn]
    exact List.mem_cons.mpr hx

/-- What a listing shows is there, further down. -/
theorem leads_of_mem_below {x : List Bytes × Shown} (h : Leads t d way i)
    (hx : x ∈ t.below depth way i) : ∃ n ns j node, x.1 = way ++ n :: ns ∧ Leads t d x.1 j ∧
      t.node? j = some node ∧ x.2 = Shown.ofNode node := by
  induction depth generalizing way i with
  | zero => cases hx
  | succ depth ih =>
    rw [mem_below_succ] at hx
    obtain ⟨n, child, node, he, hn, rfl | hx⟩ := hx
    · exact ⟨n, [], child, node, rfl, h.entry he, hn, rfl⟩
    · obtain ⟨m, ms, j, node', hw, hl, hj, hs⟩ := ih (h.entry he) hx
      exact ⟨n, m :: ms, j, node', by rw [hw, List.append_assoc]; rfl, hl, hj, hs⟩

/-- Where names are distinct, no way is shown twice. The ways through one name are told from those
through another by that name. -/
theorem nodup_below (hd : ∀ {j}, Below t d j → Distinct t j) (h : Leads t d way i) :
    ((t.below depth way i).map Prod.fst).Nodup := by
  induction depth generalizing way i with
  | zero => exact List.nodup_nil
  | succ depth ih =>
    by_cases hdir : ∀ parent entries, t.node? i ≠ some (.directory parent entries)
    · rw [below_of_not_directory hdir]
      exact List.nodup_nil
    · simp only [not_forall, not_not] at hdir
      obtain ⟨parent, entries, hi⟩ := hdir
      rw [below_succ hi, List.map_flatMap, List.nodup_flatMap]
      have hstart : ∀ {e : Bytes × Nat} {w : List Bytes}, e ∈ entries →
          w ∈ (match t.node? e.2 with
            | some node => (way ++ [e.1], Shown.ofNode node) :: t.below depth (way ++ [e.1]) e.2
            | none => []).map Prod.fst → ∃ ns, w = way ++ e.1 :: ns := by
        intro e w he hw
        obtain ⟨x, hx, rfl⟩ := List.mem_map.mp hw
        cases hn : t.node? e.2 with
        | none =>
          rw [hn] at hx
          cases hx
        | some node =>
          rw [hn] at hx
          rcases List.mem_cons.mp hx with rfl | hx
          · exact ⟨[], rfl⟩
          · obtain ⟨m, ms, _, _, hw, _⟩ :=
              leads_of_mem_below (h.entry ⟨parent, entries, hi, he⟩) hx
            exact ⟨m :: ms, by rw [hw, List.append_assoc]; rfl⟩
      refine ⟨fun e he => ?_, ?_⟩
      · cases hn : t.node? e.2 with
        | none => exact List.nodup_nil
        | some node =>
          have hlead := h.entry (n := e.1) (j := e.2) ⟨parent, entries, hi, he⟩
          refine List.nodup_cons.mpr ⟨fun hm => ?_, ih hlead⟩
          obtain ⟨x, hx, hfirst⟩ := List.mem_map.mp hm
          obtain ⟨m, ms, _, _, hw, _⟩ := leads_of_mem_below hlead hx
          have hlen := congrArg List.length (hw.symm.trans hfirst)
          simp at hlen
      · have hnames := hd h.isBelow parent entries hi
        rw [List.nodup_iff_pairwise_ne, List.pairwise_map] at hnames
        refine hnames.imp_of_mem fun {e e'} he he' hne => ?_
        intro w hw hw'
        obtain ⟨ns, rfl⟩ := hstart he hw
        obtain ⟨ns', hsame⟩ := hstart he' hw'
        exact hne (List.cons.inj (List.append_cancel_left hsame)).1

end Below

end FileTree

end TaggedLibrary
