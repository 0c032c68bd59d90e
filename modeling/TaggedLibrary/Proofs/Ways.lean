import TaggedLibrary.FileTree.Change
/-!
The ways that names take through a tree of files, one step at a time, and the places where last
names belong. A way can be cut in two behind any name and put together again.
-/

namespace TaggedLibrary.FileTree

/-- A name that is looked up in a directory. -/
structure IsName (n : Bytes) : Prop where
  step : ¬ (n = [] ∨ n = [Path.dot])
  down : n ≠ [Path.dot, Path.dot]
  short : n.length ≤ nameLimit

def IsLink (node : Option Node) : Prop := ∃ target, node = some (.link target)

/-- Where the names that a link holds start. -/
def base (t : FileTree) (directory : Nat) (target : Bytes) : Nat :=
  if target.head? = some Path.slash then t.root else directory

/-- `Way t follow links i ns j left`: from node `i`, following at most `links` links, the names
`ns` lead to node `j`, with `left` links still to be followed. -/
inductive Way (t : FileTree) (follow : Bool) : Nat → Nat → List Bytes → Nat → Nat → Prop
  | here {links i : Nat} : Way t follow links i [] i links
  | still {links i j left parent : Nat} {entries : List (Bytes × Nat)} {n : Bytes}
      {rest : List Bytes} (hi : t.node? i = some (.directory parent entries))
      (hn : n = [] ∨ n = [Path.dot]) (hw : Way t follow links i rest j left) :
      Way t follow links i (n :: rest) j left
  | up {links i j left parent : Nat} {entries : List (Bytes × Nat)} {rest : List Bytes}
      (hi : t.node? i = some (.directory parent entries))
      (hw : Way t follow links parent rest j left) :
      Way t follow links i ([Path.dot, Path.dot] :: rest) j left
  | down {links i j left parent child : Nat} {entries : List (Bytes × Nat)} {n : Bytes}
      {rest : List Bytes} (hi : t.node? i = some (.directory parent entries)) (hn : IsName n)
      (hc : entries.lookup n = some child) (hl : ¬ IsLink (t.node? child))
      (hw : Way t follow links child rest j left) : Way t follow links i (n :: rest) j left
  | last {links i parent child : Nat} {entries : List (Bytes × Nat)} {n target : Bytes}
      (hi : t.node? i = some (.directory parent entries)) (hn : IsName n)
      (hc : entries.lookup n = some child) (hl : t.node? child = some (.link target))
      (hf : follow = false) : Way t follow links i [n] child links
  | jump {links i j left parent child : Nat} {entries : List (Bytes × Nat)} {n target : Bytes}
      {rest : List Bytes} (hi : t.node? i = some (.directory parent entries)) (hn : IsName n)
      (hc : entries.lookup n = some child) (hl : t.node? child = some (.link target))
      (hf : ¬ (rest = [] ∧ follow = false))
      (hw : Way t follow links (t.base i target) (names target ++ rest) j left) :
      Way t follow (links + 1) i (n :: rest) j left

section Walk

variable {t : FileTree} {follow : Bool} {links i j left : Nat} {ns : List Bytes}

/-- What a walk does at a link that has to be followed. -/
def onward (t : FileTree) (follow : Bool) : Nat → Nat → List Bytes → Except IoError (Nat × Nat)
  | 0 => fun _ _ => .error .tooManyLinks
  | links + 1 => t.walk follow links

theorem walk_nil : t.walk follow links i [] = .ok (i, links) := by
  cases links <;> rfl

theorem walk_cons (n : Bytes) (rest : List Bytes) : t.walk follow links i (n :: rest) =
    match t.node? i with
    | some (.directory parent entries) =>
      if n = [] ∨ n = [Path.dot] then t.walk follow links i rest
      else if n = [Path.dot, Path.dot] then t.walk follow links parent rest
      else if nameLimit < n.length then .error .nameTooLong
      else match entries.lookup n with
        | none => .error .notFound
        | some child =>
          match t.node? child with
          | some (.link target) =>
            if rest = [] ∧ !follow then .ok (child, links)
            else t.onward follow links (t.base i target) (names target ++ rest)
          | _ => t.walk follow links child rest
    | _ => .error .notDirectory := by
  cases links <;> rfl

theorem Way.walk (h : Way t follow links i ns j left) :
    t.walk follow links i ns = .ok (j, left) := by
  induction h with
  | here => exact walk_nil
  | still hi hn _ ih => rw [walk_cons, hi]; simp only [if_pos hn, ih]
  | up hi _ ih =>
    rw [walk_cons, hi]
    simpa using ih
  | down hi hn hc hl _ ih =>
    rw [walk_cons, hi]
    simp only [if_neg hn.step, if_neg hn.down, if_neg (Nat.not_lt.mpr hn.short), hc]
    split
    · rename_i hlink
      exact absurd ⟨_, hlink⟩ hl
    · exact ih
  | last hi hn hc hl hf =>
    rw [walk_cons, hi]
    simp only [if_neg hn.step, if_neg hn.down, if_neg (Nat.not_lt.mpr hn.short), hc, hl]
    simp [hf]
  | jump hi hn hc hl hf _ ih =>
    rw [walk_cons, hi]
    simp only [if_neg hn.step, if_neg hn.down, if_neg (Nat.not_lt.mpr hn.short), hc, hl]
    rw [if_neg (by simpa using hf)]
    exact ih

theorem way_of_walk (h : t.walk follow links i ns = .ok (j, left)) :
    Way t follow links i ns j left := by
  induction links using Nat.strongRecOn generalizing i ns with
  | ind links ihl =>
    induction ns generalizing i with
    | nil =>
      rw [walk_nil] at h
      cases h
      exact .here
    | cons n rest ih =>
      rw [walk_cons] at h
      split at h
      · rename_i parent entries hi
        by_cases hs : n = [] ∨ n = [Path.dot]
        · rw [if_pos hs] at h
          exact .still hi hs (ih h)
        rw [if_neg hs] at h
        by_cases hu : n = [Path.dot, Path.dot]
        · subst hu
          rw [if_pos rfl] at h
          exact .up hi (ih h)
        rw [if_neg hu] at h
        by_cases hlong : nameLimit < n.length
        · rw [if_pos hlong] at h
          cases h
        rw [if_neg hlong] at h
        have hn : IsName n := ⟨hs, hu, Nat.not_lt.mp hlong⟩
        rcases hc : entries.lookup n with _ | child
        · rw [hc] at h
          cases h
        rw [hc] at h
        simp only at h
        split at h
        · rename_i target hlink
          by_cases hf : rest = [] ∧ (!follow) = true
          · rw [if_pos hf] at h
            cases h
            obtain ⟨rfl, hf⟩ := hf
            exact .last hi hn hc hlink (by simpa using hf)
          · rw [if_neg hf] at h
            cases links with
            | zero => cases h
            | succ links =>
              exact .jump hi hn hc hlink (by simpa using hf) (ihl links (Nat.lt_succ_self _) h)
        · rename_i hlink
          exact .down hi hn hc (fun ⟨target, hl⟩ => hlink target hl) (ih h)
      · cases h

theorem walk_eq_ok : t.walk follow links i ns = .ok (j, left) ↔ Way t follow links i ns j left :=
  ⟨way_of_walk, Way.walk⟩

/-- No way gives links back. -/
theorem Way.left_le (h : Way t follow links i ns j left) : left ≤ links := by
  induction h with
  | here | last => exact Nat.le_refl _
  | still _ _ _ ih | up _ _ ih | down _ _ _ _ _ ih => exact ih
  | jump _ _ _ _ _ _ ih => exact Nat.le_succ_of_le ih

/-- A way that is followed to its end goes on with whatever names come after it. -/
theorem Way.append {k right : Nat} {ms : List Bytes} (h : Way t true links i ns j left)
    (hm : Way t follow left j ms k right) (hne : ms ≠ []) :
    Way t follow links i (ns ++ ms) k right := by
  generalize hf : true = all at h
  induction h with
  | here => exact hm
  | still hi hn _ ih => exact .still hi hn (ih hm)
  | up hi _ ih => exact .up hi (ih hm)
  | down hi hn hc hl _ ih => exact .down hi hn hc hl (ih hm)
  | last _ _ _ _ hfalse =>
    rw [← hf] at hfalse
    cases hfalse
  | jump hi hn hc hl _ _ ih =>
    have hall := ih hm
    rw [List.append_assoc] at hall
    exact .jump hi hn hc hl (by simp [hne]) hall

/-- A way is followed to the end of any of its first parts. -/
theorem Way.split {ms : List Bytes} (h : Way t follow links i (ns ++ ms) j left)
    (hne : ms ≠ []) :
    ∃ k between, Way t true links i ns k between ∧ Way t follow between k ms j left := by
  generalize he : ns ++ ms = all at h
  induction h generalizing ns with
  | here => exact absurd (List.append_eq_nil_iff.mp he).2 hne
  | @still links i _ _ _ _ n rest hi hn hw ih =>
    rcases ns with _ | ⟨m, ns⟩
    · rw [List.nil_append] at he
      subst he
      exact ⟨i, links, .here, .still hi hn hw⟩
    · obtain ⟨rfl, rfl⟩ := List.cons.inj he
      obtain ⟨k, between, h1, h2⟩ := ih rfl
      exact ⟨k, between, .still hi hn h1, h2⟩
  | @up links i _ _ _ _ rest hi hw ih =>
    rcases ns with _ | ⟨m, ns⟩
    · rw [List.nil_append] at he
      subst he
      exact ⟨i, links, .here, .up hi hw⟩
    · obtain ⟨rfl, rfl⟩ := List.cons.inj he
      obtain ⟨k, between, h1, h2⟩ := ih rfl
      exact ⟨k, between, .up hi h1, h2⟩
  | @down links i _ _ _ _ _ n rest hi hn hc hl hw ih =>
    rcases ns with _ | ⟨m, ns⟩
    · rw [List.nil_append] at he
      subst he
      exact ⟨i, links, .here, .down hi hn hc hl hw⟩
    · obtain ⟨rfl, rfl⟩ := List.cons.inj he
      obtain ⟨k, between, h1, h2⟩ := ih rfl
      exact ⟨k, between, .down hi hn hc hl h1, h2⟩
  | @last links i _ _ _ n _ hi hn hc hl hf =>
    rcases ns with _ | ⟨m, ns⟩
    · rw [List.nil_append] at he
      subst he
      exact ⟨i, links, .here, .last hi hn hc hl hf⟩
    · exact absurd (List.append_eq_nil_iff.mp (List.cons.inj he).2).2 hne
  | @jump links i _ _ _ _ _ n _ rest hi hn hc hl hf hw ih =>
    rcases ns with _ | ⟨m, ns⟩
    · rw [List.nil_append] at he
      subst he
      exact ⟨i, links + 1, .here, .jump hi hn hc hl hf hw⟩
    · obtain ⟨rfl, rfl⟩ := List.cons.inj he
      obtain ⟨k, between, h1, h2⟩ := ih (List.append_assoc _ _ _)
      exact ⟨k, between, .jump hi hn hc hl (by simp) h1, h2⟩

end Walk

theorem resolve_eq_ok {t : FileTree} {p : Path} {follow : Bool} {i : Nat} :
    t.resolve p follow = .ok i ↔ refuse? p = none ∧
      ∃ left, Way t follow linkLimit (t.start p.bytes) (names p.bytes) i left := by
  unfold resolve
  cases hr : refuse? p with
  | some e => simp
  | none =>
    simp only [true_and]
    constructor
    · intro h
      rcases hw : t.walk follow linkLimit (t.start p.bytes) (names p.bytes) with e | ⟨j, left⟩
      · rw [hw] at h
        cases h
      · rw [hw] at h
        cases h
        exact ⟨left, walk_eq_ok.mp hw⟩
    · rintro ⟨left, hw⟩
      rw [hw.walk]
      rfl

/-- `Spot t follow links i ns place`: where the last of the names `ns` belongs, looked up from
node `i` through at most `links` links. -/
inductive Spot (t : FileTree) (follow : Bool) : Nat → Nat → List Bytes → Place → Prop
  | free {links i directory left parent : Nat} {entries : List (Bytes × Nat)} {n : Bytes}
      {ns : List Bytes} (hw : Way t true links i ns directory left)
      (hd : t.node? directory = some (.directory parent entries)) (hn : IsName n)
      (hc : entries.lookup n = none) : Spot t follow links i (ns ++ [n]) (.free directory n)
  | taken {links i directory left parent child : Nat} {entries : List (Bytes × Nat)} {n : Bytes}
      {ns : List Bytes} (hw : Way t true links i ns directory left)
      (hd : t.node? directory = some (.directory parent entries)) (hn : IsName n)
      (hc : entries.lookup n = some child) (hl : follow = true → ¬ IsLink (t.node? child)) :
      Spot t follow links i (ns ++ [n]) (.taken child)
  | jump {links i directory left parent child : Nat} {entries : List (Bytes × Nat)}
      {n target : Bytes} {ns : List Bytes} {place : Place}
      (hw : Way t true links i ns directory (left + 1))
      (hd : t.node? directory = some (.directory parent entries)) (hn : IsName n)
      (hc : entries.lookup n = some child) (hl : t.node? child = some (.link target))
      (hs : Spot t follow left (t.base directory target) (names target) place) :
      Spot t follow links i (ns ++ [n]) place

theorem IsName.not_odd {n : Bytes} (h : IsName n) :
    ¬ (n = [] ∨ n = [Path.dot] ∨ n = [Path.dot, Path.dot]) := by
  rintro (rfl | rfl | rfl)
  · exact h.step (Or.inl rfl)
  · exact h.step (Or.inr rfl)
  · exact h.down rfl

theorem spot_of_placeWithin {t : FileTree} {follow : Bool} {odd : IoError} {turns links i : Nat}
    {ns : List Bytes} {place : Place} (h : t.placeWithin follow odd turns links i ns = .ok place) :
    Spot t follow links i ns place := by
  induction turns generalizing links i ns with
  | zero => cases h
  | succ turns ih =>
    unfold placeWithin at h
    generalize hlast : ns.getLast?.getD [] = n at h
    simp only [bind, Except.bind] at h
    by_cases hnil : n = []
    · rw [if_pos hnil] at h
      split at h
      · cases h
      · split at h
        · rw [if_pos (Or.inl hnil)] at h
          cases h
        · cases h
    rw [if_neg hnil] at h
    have hns : ns = ns.dropLast ++ [n] := by
      rcases List.eq_nil_or_concat ns with rfl | ⟨init, m, rfl⟩
      · exact absurd hlast.symm hnil
      · simp at hlast
        simp [hlast]
    split at h
    · cases h
    · rename_i directory hw
      obtain ⟨directory, left⟩ := directory
      have hway := walk_eq_ok.mp hw
      split at h
      · rename_i parent entries hd
        by_cases hodd : n = [] ∨ n = [Path.dot] ∨ n = [Path.dot, Path.dot]
        · rw [if_pos hodd] at h
          cases h
        rw [if_neg hodd] at h
        by_cases hlong : nameLimit < n.length
        · rw [if_pos hlong] at h
          cases h
        rw [if_neg hlong] at h
        simp only [not_or] at hodd
        have hn : IsName n := ⟨not_or.mpr ⟨hodd.1, hodd.2.1⟩, hodd.2.2, Nat.not_lt.mp hlong⟩
        rcases hc : entries.lookup n with _ | child
        · rw [hc] at h
          cases h
          rw [hns]
          exact .free hway hd hn hc
        rw [hc] at h
        simp only at h
        split at h
        · rename_i target hlink
          by_cases hf : follow = true
          · rw [if_pos hf] at h
            cases left with
            | zero => cases h
            | succ left =>
              rw [hns]
              exact .jump hway hd hn hc hlink (ih h)
          · rw [if_neg hf] at h
            cases h
            rw [hns]
            exact .taken hway hd hn hc fun htrue => absurd htrue hf
        · rename_i hlink
          cases h
          rw [hns]
          exact .taken hway hd hn hc fun _ ⟨target, hl⟩ => hlink target hl
      · cases h

theorem spot_of_place {t : FileTree} {follow : Bool} {odd : IoError} {links i : Nat}
    {ns : List Bytes} {place : Place} (h : t.place follow odd links i ns = .ok place) :
    Spot t follow links i ns place := spot_of_placeWithin h

/-- Behind a way to a directory a place is decided by what has the last name there. -/
theorem placeWithin_concat {t : FileTree} {follow : Bool} {odd : IoError}
    {turns links left i directory parent : Nat} {entries : List (Bytes × Nat)} {n : Bytes}
    {ns : List Bytes} (hd : t.node? directory = some (.directory parent entries)) (hn : IsName n) :
    Way t true links i ns directory left →
    t.placeWithin follow odd (turns + 1) links i (ns ++ [n]) = match entries.lookup n with
      | none => .ok (.free directory n)
      | some child =>
        match t.node? child with
        | some (.link target) =>
          if follow then
            match left with
            | 0 => .error .tooManyLinks
            | left + 1 => t.placeWithin follow odd turns left (t.base directory target) (names target)
          else .ok (.taken child)
        | _ => .ok (.taken child) := by
  intro hw
  have hne : n ≠ [] := (not_or.mp hn.not_odd).1
  simp only [placeWithin, List.getLast?_concat, Option.getD_some, if_neg hne,
    List.dropLast_concat, hw.walk, bind, Except.bind, hd, if_neg hn.not_odd,
    if_neg (Nat.not_lt.mpr hn.short)]
  rfl

namespace Spot

variable {t : FileTree} {follow : Bool} {links i : Nat} {ns : List Bytes}

/-- Each turn uses up a link, so that there are turns enough as long as they are more than links. -/
theorem placeWithin {place : Place} (h : Spot t true links i ns place) (odd : IoError) {turns : Nat}
    (hturns : links < turns) : t.placeWithin true odd turns links i ns = .ok place := by
  induction h generalizing turns with
  | free hw hd hn hc =>
    obtain ⟨turns, rfl⟩ := Nat.exists_eq_add_one_of_ne_zero (Nat.ne_zero_of_lt hturns)
    rw [placeWithin_concat hd hn hw, hc]
  | taken hw hd hn hc hl =>
    obtain ⟨turns, rfl⟩ := Nat.exists_eq_add_one_of_ne_zero (Nat.ne_zero_of_lt hturns)
    rw [placeWithin_concat hd hn hw, hc]
    dsimp only
    split
    · rename_i hlink
      exact absurd ⟨_, hlink⟩ (hl rfl)
    · rfl
  | jump hw hd hn hc hl _ ih =>
    obtain ⟨turns, rfl⟩ := Nat.exists_eq_add_one_of_ne_zero (Nat.ne_zero_of_lt hturns)
    have hleft := hw.left_le
    simp only [placeWithin_concat hd hn hw, hc, hl, if_true]
    exact ih (by omega)

theorem place {place : Place} (h : Spot t true links i ns place) (odd : IoError) :
    t.place true odd links i ns = .ok place := h.placeWithin odd (Nat.lt_succ_self _)

/-- The names lead to a place that is taken. -/
theorem way_taken {k : Nat} (h : Spot t true links i ns (.taken k)) :
    ∃ left, Way t true links i ns k left := by
  generalize hp : Place.taken k = place at h
  induction h with
  | free => cases hp
  | taken hw hd hn hc hl =>
    cases hp
    exact ⟨_, hw.append (.down hd hn hc (hl rfl) .here) (by simp)⟩
  | jump hw hd hn hc hl _ ih =>
    obtain ⟨left, hway⟩ := ih hp
    refine ⟨left, hw.append (.jump hd hn hc hl (by simp) ?_) (by simp)⟩
    rwa [List.append_nil]

/-- A free name is free in a directory. -/
theorem free_node {directory : Nat} {n : Bytes} (h : Spot t follow links i ns (.free directory n)) :
    IsName n ∧ ∃ parent entries, t.node? directory = some (.directory parent entries) ∧
      entries.lookup n = none := by
  generalize hp : Place.free directory n = place at h
  induction h with
  | free hw hd hn hc =>
    cases hp
    exact ⟨hn, _, _, hd, hc⟩
  | taken => cases hp
  | jump _ _ _ _ _ _ ih => exact ih hp

end Spot

end TaggedLibrary.FileTree
