import TaggedLibrary.FileTree.Change
import TaggedLibrary.Log.Event
import TaggedLibrary.TrackTags
/-!
A run of the program as a value: the files it works on, what it has reported, and what a
recording writer was asked to do. A failure ends a run, and leaves what was done.
-/

namespace TaggedLibrary

/-- What a recording writer was asked to write, and whether it refused. -/
structure WriteCall where
  path : Path
  tags : TrackTags
  refused : Bool
deriving Repr, DecidableEq

structure Session where
  files : FileTree
  events : List Event := []
  calls : List WriteCall := []
deriving Repr

abbrev Run (α : Type) := ExceptT LibraryError (StateM Session) α

namespace Run

variable {α β ε : Type}

/-- Runs from a session: the result, and the session it leaves. -/
def run (op : Run α) (s : Session) : Except LibraryError α × Session :=
  StateT.run (ExceptT.run op) s

@[simp] theorem run_pure (a : α) (s : Session) : (pure a : Run α).run s = (.ok a, s) := rfl

/-- An operation starts where the one before it has stopped. -/
theorem run_bind (op : Run α) (f : α → Run β) (s : Session) :
    (op >>= f).run s = match op.run s with
      | (.ok a, s) => (f a).run s
      | (.error e, s) => (.error e, s) := by
  simp only [run, ExceptT.run_bind, StateT.run_bind]
  rcases StateT.run (ExceptT.run op) s with ⟨_ | _, _⟩ <;> rfl

/-- An operation that succeeds has succeeded in all its parts. -/
theorem run_bind_ok {op : Run α} {f : α → Run β} {s s' : Session} {b : β}
    (h : (op >>= f).run s = (.ok b, s')) :
    ∃ a mid, op.run s = (.ok a, mid) ∧ (f a).run mid = (.ok b, s') := by
  rw [run_bind] at h
  rcases ho : op.run s with ⟨e | a, mid⟩
  · rw [ho] at h
    cases h
  · rw [ho] at h
    exact ⟨a, mid, rfl, h⟩

def fail (e : LibraryError) : Run α := fun s => (.error e, s)

@[simp] theorem run_fail (e : LibraryError) (s : Session) :
    (fail e : Run α).run s = (.error e, s) := rfl

def report (e : Event) : Run Unit := fun s => (.ok (), { s with events := s.events ++ [e] })

@[simp] theorem run_report (e : Event) (s : Session) :
    (report e).run s = (.ok (), { s with events := s.events ++ [e] }) := rfl

def record (c : WriteCall) : Run Unit := fun s => (.ok (), { s with calls := s.calls ++ [c] })

/-- An operation on the files. -/
def onFiles (wrap : ε → LibraryError) (op : Disk ε α) : Run α := fun s =>
  match op.run s.files with
  | (.ok a, files) => (.ok a, { s with files })
  | (.error e, files) => (.error (wrap e), { s with files })

theorem run_onFiles (wrap : ε → LibraryError) (op : Disk ε α) (s : Session) :
    (onFiles wrap op).run s =
      ((op.run s.files).1.mapError wrap, { s with files := (op.run s.files).2 }) := by
  have h : (onFiles wrap op).run s = match op.run s.files with
      | (.ok a, files) => (.ok a, { s with files })
      | (.error e, files) => (.error (wrap e), { s with files }) := rfl
  rw [h]
  rcases op.run s.files with ⟨_ | _, _⟩ <;> rfl

/-- A question about the files. -/
def ask (question : FileTree → Except LibraryError α) : Run α := fun s => (question s.files, s)

@[simp] theorem run_ask (question : FileTree → Except LibraryError α) (s : Session) :
    (ask question).run s = (question s.files, s) := rfl

/-- An activity whose failure is reported. -/
def during (a : Activity) (op : Run α) : Run α := fun s =>
  match op.run s with
  | (.ok r, s) => (.ok r, s)
  | (.error e, s) => (.error e, { s with events := s.events ++ [.failed a e] })

theorem run_during (a : Activity) (op : Run α) (s : Session) :
    (during a op).run s = match op.run s with
      | (.ok r, s) => (.ok r, s)
      | (.error e, s) => (.error e, { s with events := s.events ++ [.failed a e] }) := rfl

/-- A report leaves the files alone. -/
theorem files_run_during (a : Activity) (op : Run α) (s : Session) :
    ((during a op).run s).2.files = (op.run s).2.files := by
  rw [run_during]
  rcases op.run s with ⟨_ | _, _⟩ <;> rfl

theorem run_during_ok {a : Activity} {op : Run α} {s s' : Session} {r : α}
    (h : (during a op).run s = (.ok r, s')) : op.run s = (.ok r, s') := by
  rw [run_during] at h
  rcases ho : op.run s with ⟨e | x, mid⟩
  · rw [ho] at h
    cases h
  · rw [ho] at h
    exact h

theorem run_onFiles_ok {wrap : ε → LibraryError} {op : Disk ε α} {s s' : Session} {a : α}
    (h : (onFiles wrap op).run s = (.ok a, s')) :
    op.run s.files = (.ok a, s'.files) ∧ s' = { s with files := s'.files } := by
  rw [run_onFiles] at h
  rcases ho : op.run s.files with ⟨e | x, mid⟩
  · rw [ho] at h
    cases h
  · rw [ho] at h
    cases h
    exact ⟨rfl, rfl⟩

end Run

end TaggedLibrary
