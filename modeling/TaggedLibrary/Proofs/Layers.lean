import Mathlib.Data.List.TakeWhile
import TaggedLibrary.Settings
import TaggedLibrary.Proofs.DistinctNames
/-!
Trees of settings laid over one another, seen through their entries: an entry of the upper tree is
laid over the entry of the same name, and every other entry stays. `Setting.member?` looks at what
a group sets; what a layer does to it is said once for a file and once for the environment.
-/

namespace TaggedLibrary

namespace Setting

variable {es : Entries} {s base : Setting} {name other group : String} {o : Origin}
  {f : Setting → Setting}

/-- The entry of a name in what is taken for a table. -/
def child? (s : Setting) (name : String) : Option Setting := s.asTable.2.lookup name

/-- What a group of a tree sets under a name. -/
def member? (s : Setting) (group name : String) : Option Setting :=
  (s.child? group).bind (·.child? name)

def isTable : Setting → Bool
  | .table .. => true
  | _ => false

/-- The plain value that a setting is, if it is one. -/
def scalar? : Setting → Option Scalar
  | .scalar _ v => some v
  | _ => none

/-- What has a name in the tree is a group of settings. -/
def Grouped (s : Setting) (name : String) : Prop := ∀ x, s.child? name = some x → x.isTable

@[simp] theorem child?_table (o : Option Origin) (es : Entries) (name : String) :
    (table o es).child? name = es.lookup name := rfl

/-! ### One entry changed -/

theorem lookup_eq_none_of_notMem {α : Type} {es : List (String × α)}
    (h : name ∉ es.map Prod.fst) : es.lookup name = none := by
  rw [List.lookup_eq_none_iff]
  intro e he
  rw [bne_iff_ne]
  rintro rfl
  exact h (List.mem_map_of_mem he)

theorem lookup_alter : (alter name f es).lookup other =
    if other = name then some (f ((es.lookup name).getD missing)) else es.lookup other := by
  induction es with
  | nil =>
    by_cases h : other = name
    · simp [alter, h]
    · simp [alter, h, List.lookup_cons, beq_eq_false_iff_ne.mpr h]
  | cons e es ih =>
    obtain ⟨n, s⟩ := e
    by_cases hn : n = name
    · subst hn
      by_cases h : other = n
      · simp [alter, h]
      · simp [alter, h, List.lookup_cons, beq_eq_false_iff_ne.mpr h]
    · rw [alter, if_neg hn]
      by_cases h : other = n
      · simp [h, hn]
      · rw [List.lookup_cons, List.lookup_cons, List.lookup_cons, beq_eq_false_iff_ne.mpr h,
          beq_eq_false_iff_ne.mpr (Ne.symm hn)]
        exact ih

theorem child?_alterEntry : (s.alterEntry name f).child? other =
    if other = name then some (f ((s.child? name).getD missing)) else s.child? other :=
  lookup_alter

/-! ### A tree laid over a setting -/

theorem child?_mergeEntries (hnames : (es.map Prod.fst).Nodup) :
    (mergeEntries es base).child? name = match es.lookup name with
      | some s => some (merge s ((base.child? name).getD missing))
      | none => base.child? name := by
  induction es generalizing base with
  | nil => rw [mergeEntries, List.lookup_nil]
  | cons e es ih =>
    obtain ⟨n, s⟩ := e
    obtain ⟨hnew, hnames⟩ := List.nodup_cons.mp hnames
    rw [mergeEntries, ih hnames, child?_alterEntry]
    by_cases h : name = n
    · subst h
      rw [lookup_eq_none_of_notMem hnew, if_pos rfl, List.lookup_cons_self]
    · rw [if_neg h, List.lookup_cons, beq_eq_false_iff_ne.mpr h]

theorem isTable_mergeEntries (h : base.isTable) : (mergeEntries es base).isTable := by
  induction es generalizing base with
  | nil => rwa [mergeEntries]
  | cons e es ih =>
    rw [mergeEntries]
    exact ih rfl

theorem merge_table_missing (o : Option Origin) (es : Entries) :
    merge (table o es) missing = mergeEntries es (table none []) := by
  rw [merge]
  rfl

theorem merge_missing_of_not_isTable (h : s.isTable = false) : merge s missing = s := by
  cases s with
  | scalar | array => rw [merge]; rintro _ _ ⟨⟩
  | table => cases h

theorem isTable_merge_missing (h : s.isTable) : (merge s missing).isTable := by
  cases s with
  | scalar | array => cases h
  | table o es =>
    rw [merge_table_missing]
    exact isTable_mergeEntries rfl

theorem scalar?_eq_none_of_isTable (h : s.isTable) : s.scalar? = none := by
  cases s with
  | scalar => cases h
  | array | table => rfl

/-- Laid over nothing, a tree keeps its entries. -/
theorem child?_merge_missing (h : (s.asTable.2.map Prod.fst).Nodup) :
    (merge s missing).child? name = (s.child? name).map (merge · missing) := by
  cases s with
  | scalar | array => rw [merge_missing_of_not_isTable rfl]; rfl
  | table o es =>
    have hnames : (es.map Prod.fst).Nodup := h
    rw [merge_table_missing, child?_mergeEntries hnames, child?_table, child?_table]
    cases es.lookup name <;> rfl

theorem scalar?_merge_missing : (merge s missing).scalar? = s.scalar? := by
  cases h : s.isTable with
  | false => rw [merge_missing_of_not_isTable h]
  | true =>
    rw [scalar?_eq_none_of_isTable h, scalar?_eq_none_of_isTable (isTable_merge_missing h)]

/-! ### Where a tree was set -/

theorem setEntriesAt_eq_map : setEntriesAt o es = es.map fun e => (e.1, setAt o e.2) := by
  induction es with
  | nil => rfl
  | cons e es ih => rw [setEntriesAt, ih, List.map_cons]

theorem map_fst_setEntriesAt : (setEntriesAt o es).map Prod.fst = es.map Prod.fst := by
  rw [setEntriesAt_eq_map, List.map_map]
  rfl

theorem lookup_setEntriesAt : (setEntriesAt o es).lookup name = (es.lookup name).map (setAt o) := by
  induction es with
  | nil => rfl
  | cons e es ih =>
    obtain ⟨n, s⟩ := e
    rw [setEntriesAt, List.lookup_cons, List.lookup_cons]
    cases name == n
    · exact ih
    · rfl

theorem asTable_setAt : (setAt o s).asTable.2 = setEntriesAt o s.asTable.2 := by
  cases s <;> rfl

theorem child?_setAt : (setAt o s).child? name = (s.child? name).map (setAt o) := by
  rw [child?, asTable_setAt, lookup_setEntriesAt, child?]

theorem isTable_setAt : (setAt o s).isTable = s.isTable := by cases s <;> rfl

theorem scalar?_setAt : (setAt o s).scalar? = s.scalar? := by cases s <;> rfl

theorem Distinct.names (h : s.Distinct) : (s.asTable.2.map Prod.fst).Nodup := by
  cases h with
  | scalar | array => exact List.nodup_nil
  | table names => exact names

theorem Distinct.entry (h : s.Distinct) {e : Setting} (he : s.child? name = some e) :
    e.Distinct := by
  cases h with
  | scalar | array => cases he
  | table names entries =>
    obtain ⟨before, behind, rfl, _⟩ := List.lookup_eq_some_iff.mp he
    exact entries (name, e) (by simp)

end Setting

/-! ### Names that lead into a tree -/

namespace KeyPath

/-- A name without dots and brackets, and all of whose characters may stand in one. -/
def IsPlain (s : String) : Prop := s ≠ "" ∧ ∀ c ∈ s.toList, isNameChar c

-- by the characters of the text, not by all characters there are
instance (s : String) : Decidable (IsPlain s) :=
  decidable_of_iff (s ≠ "" ∧ s.toList.all isNameChar = true) (by rw [IsPlain, List.all_eq_true])

theorem ofString_of_isPlain {s : String} (h : IsPlain s) : ofString s = { root := s } := by
  have hall : s.toList.takeWhile isNameChar = s.toList := List.takeWhile_eq_self_iff.mpr h.2
  have hne : s.toList ≠ [] := mt String.toList_eq_nil_iff.mp h.1
  rw [ofString, parse?, hall, if_neg hne, List.drop_length, steps?]
  simp

variable {k : KeyPath} {v base : Setting} {name group : String}

theorem child?_put : (k.put v base).child? name =
    if name = k.root then some (alterBelow v.merge k.steps ((base.child? k.root).getD .missing))
    else base.child? name := by
  rw [put, alterBelow]
  exact Setting.child?_alterEntry

/-- A member of a group that is set changes no other member. -/
theorem member?_put_entry {g n : String} : (({ root := g, steps := [.entry n] } : KeyPath).put v
      base).member? group name =
    if group = g ∧ name = n then some (v.merge ((base.member? g n).getD .missing))
    else base.member? group name := by
  rw [Setting.member?, child?_put]
  by_cases hg : group = g
  · subst hg
    rw [if_pos rfl, Option.bind_some, alterBelow, Setting.child?_alterEntry, alterBelow]
    have hmember (m : String) :
        ((base.child? group).getD .missing).child? m = base.member? group m := by
      rw [Setting.member?]
      cases base.child? group <;> rfl
    by_cases hn : name = n
    · rw [if_pos hn, if_pos ⟨rfl, hn⟩, hmember]
    · rw [if_neg hn, if_neg fun h => hn h.2, hmember]
  · rw [if_neg hg, if_neg fun h => hg h.1, Setting.member?]

/-- Where a member is set there is a group from then on. -/
theorem grouped_put_entry {g n : String} (h : base.Grouped group) :
    (({ root := g, steps := [.entry n] } : KeyPath).put v base).Grouped group := by
  intro x hx
  rw [child?_put] at hx
  by_cases hg : group = g
  · rw [if_pos hg, alterBelow] at hx
    cases hx
    rfl
  · rw [if_neg hg] at hx
    exact h x hx

end KeyPath

namespace Setting

variable {es : Entries} {s base : Setting} {name group : String}

/-- Entries of which only the one of that name leads into a group. -/
def Apart (group : String) (es : Entries) : Prop :=
  ∀ e ∈ es, e.1 ≠ group → (KeyPath.ofString e.1).root ≠ group

theorem apart_of_isPlain (h : ∀ e ∈ es, KeyPath.IsPlain e.1) : Apart group es := by
  intro e he hne
  rwa [KeyPath.ofString_of_isPlain (h e he)]

/-- A group is laid over the group that was there. -/
theorem child?_layer (hgroup : KeyPath.IsPlain group) (hnames : (es.map Prod.fst).Nodup)
    (hapart : Apart group es) :
    (base.layer es).child? group = match es.lookup group with
      | some s => some (merge s ((base.child? group).getD missing))
      | none => base.child? group := by
  induction es generalizing base with
  | nil => rfl
  | cons e es ih =>
    obtain ⟨n, s⟩ := e
    obtain ⟨hnew, hnames⟩ := List.nodup_cons.mp hnames
    have hstep : base.layer ((n, s) :: es) = ((KeyPath.ofString n).put s base).layer es := rfl
    rw [hstep, ih hnames fun e he => hapart e (List.mem_cons_of_mem _ he), KeyPath.child?_put]
    by_cases h : n = group
    · subst h
      rw [lookup_eq_none_of_notMem hnew, KeyPath.ofString_of_isPlain hgroup, if_pos rfl,
        List.lookup_cons_self]
      rfl
    · have hroot := hapart (n, s) List.mem_cons_self h
      rw [if_neg (Ne.symm hroot), List.lookup_cons, beq_eq_false_iff_ne.mpr (Ne.symm h)]

/-- The tree that a file's entries make, each of them set at `o`. -/
def ofFile (o : Origin) (es : Entries) : Setting := (table none []).layer (setEntriesAt o es)

section OfFile

variable {o : Origin} (hgroup : KeyPath.IsPlain group) (hdistinct : (table none es).Distinct)
  (hapart : Apart group es)
include hgroup hdistinct hapart

theorem child?_ofFile :
    (ofFile o es).child? group = (es.lookup group).map fun s => merge (setAt o s) missing := by
  have hapart' : Apart group (setEntriesAt o es) := by
    rw [setEntriesAt_eq_map]
    intro e he hne
    obtain ⟨e', he', rfl⟩ := List.mem_map.mp he
    exact hapart e' he' hne
  have hnames : ((setEntriesAt o es).map Prod.fst).Nodup := by
    rw [map_fst_setEntriesAt]
    exact hdistinct.names
  rw [ofFile, child?_layer hgroup hnames hapart', lookup_setEntriesAt]
  cases es.lookup group <;> rfl

theorem member?_ofFile : (ofFile o es).member? group name =
    ((table none es).member? group name).map fun s => merge (setAt o s) missing := by
  rw [member?, child?_ofFile hgroup hdistinct hapart, member?, child?_table]
  cases hlookup : es.lookup group with
  | none => rfl
  | some s =>
    have hs : s.Distinct := hdistinct.entry hlookup
    have hnames : ((setAt o s).asTable.2.map Prod.fst).Nodup := by
      rw [asTable_setAt, map_fst_setEntriesAt]
      exact hs.names
    rw [Option.map_some, Option.bind_some, Option.bind_some, child?_merge_missing hnames,
      child?_setAt, Option.map_map]
    rfl

theorem Grouped.ofFile (h : (table none es).Grouped group) : (ofFile o es).Grouped group := by
  intro s hs
  rw [child?_ofFile hgroup hdistinct hapart] at hs
  obtain ⟨s, hlookup, rfl⟩ := Option.map_eq_some_iff.mp hs
  exact isTable_merge_missing (isTable_setAt.trans (h s hlookup))

end OfFile

end Setting

end TaggedLibrary
