import TaggedLibrary.Tag.Error
/-!
Reading from the front of some bytes. What has been read is gone, also where the reading fails;
what is left unread is there for the next reader.
-/

namespace TaggedLibrary

abbrev Reader (α : Type) := ExceptT TagError (StateM Bytes) α

namespace Reader

variable {α β : Type}

/-- Reads from some bytes: the result, and the bytes that are left. -/
def run (r : Reader α) (b : Bytes) : Except TagError α × Bytes := StateT.run (ExceptT.run r) b

@[simp] theorem run_pure (a : α) (b : Bytes) : (pure a : Reader α).run b = (.ok a, b) := rfl

/-- A reader starts where the one before it has stopped. -/
theorem run_bind (r : Reader α) (f : α → Reader β) (b : Bytes) :
    (r >>= f).run b = match r.run b with
      | (.ok a, rest) => (f a).run rest
      | (.error e, rest) => (.error e, rest) := by
  simp only [run, ExceptT.run_bind, StateT.run_bind]
  rcases StateT.run (ExceptT.run r) b with ⟨_ | _, _⟩ <;> rfl

/-- A reading that succeeds has succeeded in all its parts. -/
theorem run_bind_ok {r : Reader α} {f : α → Reader β} {b rest : Bytes} {y : β}
    (h : (r >>= f).run b = (.ok y, rest)) :
    ∃ x mid, r.run b = (.ok x, mid) ∧ (f x).run mid = (.ok y, rest) := by
  rw [run_bind] at h
  rcases hr : r.run b with ⟨e | x, mid⟩
  · rw [hr] at h
    cases h
  · rw [hr] at h
    exact ⟨x, mid, rfl, h⟩

theorem run_map (f : α → β) (r : Reader α) (b : Bytes) :
    (f <$> r).run b = ((r.run b).1.map f, (r.run b).2) := by
  rw [← bind_pure_comp, run_bind]
  rcases r.run b with ⟨_ | _, _⟩ <;> rfl

/-- The result alone. -/
def value (r : Reader α) (b : Bytes) : Except TagError α := (r.run b).1

/-- The result with the bytes that are left behind it. -/
def split (r : Reader α) (b : Bytes) : Except TagError (α × Bytes) :=
  match r.run b with
  | (.ok a, rest) => .ok (a, rest)
  | (.error e, _) => .error e

def fail (e : TagError) : Reader α := fun b => (.error e, b)

@[simp] theorem run_fail (e : TagError) (b : Bytes) :
    (fail e : Reader α).run b = (.error e, b) := rfl

def ofExcept (x : Except TagError α) : Reader α := fun b => (x, b)

@[simp] theorem run_ofExcept (x : Except TagError α) (b : Bytes) :
    (ofExcept x).run b = (x, b) := rfl

/-- The next `n` bytes. Where there are fewer, they are gone all the same. -/
def take (n : Nat) : Reader Bytes := fun b =>
  if lacks n b then (.error .endOfFile, []) else (.ok (b.take n), b.drop n)

theorem run_take_append (b rest : Bytes) :
    (take b.length).run (b ++ rest) = (.ok b, rest) := by
  simp [run, take, lacks_eq, ExceptT.run, StateT.run]

theorem run_take {n : Nat} {head : Bytes} (h : head.length = n) (rest : Bytes) :
    (take n).run (head ++ rest) = (.ok head, rest) := by
  subst h
  exact run_take_append head rest

theorem split_take {n : Nat} {b : Bytes} (h : n ≤ b.length) :
    (take n).split b = .ok (b.take n, b.drop n) := by
  have hlacks : ¬ lacks n b = true := by
    rw [lacks_eq, decide_eq_true_eq]
    exact Nat.not_lt.mpr h
  have hrun : (take n).run b = (.ok (b.take n), b.drop n) := if_neg hlacks
  rw [split, hrun]

/-- The next byte. -/
def byte : Reader UInt8
  | [] => (.error .endOfFile, [])
  | x :: rest => (.ok x, rest)

/-- The next byte, if there is one. -/
def byte? : Reader (Option UInt8)
  | [] => (.ok none, [])
  | x :: rest => (.ok (some x), rest)

@[simp] theorem run_byte?_cons (x : UInt8) (b : Bytes) :
    byte?.run (x :: b) = (.ok (some x), b) := rfl

/-- All that is left. -/
def toEnd : Reader Bytes := fun b => (.ok b, [])

/-- Passes over all that is left. -/
def drain : Reader Unit := fun _ => (.ok (), [])

@[simp] theorem run_drain (b : Bytes) : drain.run b = (.ok (), []) := rfl

/-- Passes over `n` bytes, or as many as there are. -/
def skip (n : Nat) : Reader Unit := fun b => (.ok (), b.drop n)

/-- Shows a reader the next `n` bytes only. Those that it leaves come before what follows them. -/
def within (n : Nat) (r : Reader α) : Reader α := fun b =>
  let (result, left) := r.run (b.take n)
  (result, left ++ b.drop n)

theorem run_within (n : Nat) (r : Reader α) (b : Bytes) :
    (within n r).run b = ((r.run (b.take n)).1, (r.run (b.take n)).2 ++ b.drop n) := rfl

/-- Reads other bytes, to none of the own. -/
def apart (other : Bytes) (r : Reader α) : Reader α := fun b => (r.value other, b)

end Reader

end TaggedLibrary
