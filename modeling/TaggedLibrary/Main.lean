import TaggedLibrary.FileTree.Listing
import TaggedLibrary.Program
/-!
The command. It takes from the disk what a run can look at, runs, and puts back on the disk what
the run has changed.
-/

namespace TaggedLibrary.Command

/-- The variables that matter. -/
def variableNames : List String :=
  ["HOME", "XDG_CONFIG_HOME", "RUST_LOG", "SAMPLE_MUSIC_CONFIG_PATH", "SAMPLE_MUSIC__PATHS",
   "SAMPLE_MUSIC__PATHS__SOURCE", "SAMPLE_MUSIC__PATHS__DESTINATION", "SAMPLE_MUSIC__VERIFY",
   "SAMPLE_MUSIC__VERIFY__ENABLED"]

def environment : IO Environment :=
  variableNames.filterMapM fun name => do
    return (← IO.getEnv name).map fun value => (name, Utf8.encode value)

/-- An empty tree whose current directory is that of the command. -/
def startingTree : IO FileTree := do
  let here := Path.ofString (← IO.currentDir).toString
  let t := ((FileTree.makeDirectories here).run FileTree.empty).2
  match t.resolve here with
  | .ok i => return { t with current := i }
  | .error _ => return t

/-- Takes what is at a path from the disk, directories with all that is below them. -/
partial def fetch (t : FileTree) (p : Path) : IO FileTree := do
  try
    let place := (← IO.currentDir) / p.display
    let about ← place.metadata
    match about.type with
    | .dir =>
      let t := ((FileTree.makeDirectories p).run t).2
      (← place.readDir).foldlM (fun t entry => fetch t (p.joinText entry.fileName)) t
    | .file =>
      let bytes := (← IO.FS.readBinFile place).toList
      let modified : Instant := ⟨about.modified.sec, about.modified.nsec.toNat⟩
      return ((FileTree.placeFile p bytes 0o644 (some modified)).run t).2
    | _ => return t
  catch _ => return t

/-- Puts a file or a directory on the disk. -/
def store (p : Path) : FileTree.Shown → IO Unit
  | .directory => IO.FS.createDirAll p.display
  | .file bytes => IO.FS.writeBinFile p.display ⟨bytes.toArray⟩
  | _ => pure ()

/-- The paths that a run looks at: the settings file and those beside it, the template, and the
library. -/
def fetchAll (env : Environment) (t : FileTree) : IO FileTree := do
  let files : List Path := match env.configPath? with
    | some p => p :: (ConfigFile.siblings p).map Prod.fst
    | none => []
  let t ← files.foldlM fetch t
  match Program.loadSettings env t with
  | .ok s => [s.paths.source, s.paths.destination].foldlM fetch t
  | .error _ => return t

end TaggedLibrary.Command

open TaggedLibrary in
def main : IO UInt32 := do
  let env ← Command.environment
  let before ← Command.fetchAll env (← Command.startingTree)
  let (outcome, after) := Program.run env before
  for (p, shown) in FileTree.changes before after do
    Command.store p shown
  for message in outcome.messages env do
    IO.eprintln message
  IO.print outcome.output
  return UInt32.ofNat outcome.exitCode
