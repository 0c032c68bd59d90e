import TaggedLibrary.FileTree.Basic
/-!
All that is below a directory, and what differs between two trees.
-/

namespace TaggedLibrary.FileTree

/-- What a listing shows of a node. -/
inductive Shown where
  | directory
  | link
  | file (bytes : Bytes)
  | device
deriving Repr, DecidableEq

/-- Everything below directory `i`, by the names that lead there, to a given depth. -/
def below (t : FileTree) : Nat → List Bytes → Nat → List (List Bytes × Shown)
  | 0, _, _ => []
  | depth + 1, way, i =>
    match t.node? i with
    | some (.directory _ entries) => entries.flatMap fun (name, child) =>
      let way := way ++ [name]
      match t.node? child with
      | some (.file bytes ..) => [(way, .file bytes)]
      | some (.link _) => [(way, .link)]
      | some (.directory ..) => (way, .directory) :: t.below depth way child
      | some .device => [(way, .device)]
      | none => []
    | _ => []

/-- Everything below a path. No way down is longer than there are nodes. -/
def listing (t : FileTree) (p : Path) : List (List Bytes × Shown) :=
  match t.resolve p with
  | .ok i => t.below (t.nodes.size + 1) [] i
  | .error _ => []

/-- What is new or different in a later tree, directories before what they hold. -/
def changes (before after : FileTree) : List (Path × Shown) :=
  let old := before.below (before.nodes.size + 1) [] before.root
  let new := after.below (after.nodes.size + 1) [] after.root
  (new.filter fun (way, shown) => old.lookup way != some shown).map fun (way, shown) =>
    (⟨Path.slash :: Path.joinSegments way⟩, shown)

end TaggedLibrary.FileTree
