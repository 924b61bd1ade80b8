import PowerGovernor.Files.Tree

/-! Which paths can be written, and what is left when a text was written to some of them. -/

namespace PowerGovernor.FileTree

/-- A path can be written if a file stands there, or if nothing does and its directory exists. -/
def Writable (tree : FileTree) (path : Path) : Prop :=
  (∃ bytes, tree.get? path = some (.file bytes)) ∨
    (tree.get? path = none ∧ tree.get? path.dropLast = some .directory)

/-- Some paths hold a text, each in a file of its own, and all others hold what they held before. -/
def Rewritten (paths : List Path) (text : String) (before after : FileTree) : Prop :=
  ∀ path, after.get? path =
    if path ∈ paths then some (.file text.toUTF8) else before.get? path

variable {tree next : FileTree} {path : Path} {text : String}

/-- The paths that can be written are those without a fault. -/
theorem writeFault?_eq_none_iff : tree.writeFault? path = none ↔ tree.Writable path := by
  unfold writeFault? Writable get?
  cases tree path with
  | none =>
    -- A file can be made in a directory, and neither below a file nor below nothing.
    rcases tree path.dropLast with _ | _ | _ <;> simp
  | some entry => cases entry <;> simp

/-- A text is written exactly if its path can be written. -/
theorem exists_writeText_iff (text : String) :
    (∃ next, tree.writeText path text = .ok next) ↔ tree.Writable path := by
  rw [← writeFault?_eq_none_iff]
  cases found : tree.writeFault? path with
  | none => simp [writeText, found]
  -- A fault is passed on, and nothing is written.
  | some fault => simp [writeText, found]

/-- Without any path nothing is replaced. -/
theorem rewritten_nil (text : String) (tree : FileTree) : Rewritten [] text tree tree :=
  fun _ => rfl

/-- A single write replaces a single path. -/
theorem rewritten_of_writeText (written : tree.writeText path text = .ok next) :
    Rewritten [path] text tree next := by
  -- Every other path holds what it held before.
  intro other
  simp only [get?_writeText written, List.mem_singleton]

/-- Paths that are replaced one after the other by the same text are replaced together. -/
theorem Rewritten.append {first second : List Path} {middle : FileTree}
    (one : Rewritten first text tree middle) (other : Rewritten second text middle next) :
    Rewritten (first ++ second) text tree next := by
  intro path
  rw [other path, one path]
  -- It does not matter which of the two writes a path that both replace got its text from.
  by_cases early : path ∈ first <;> by_cases late : path ∈ second <;> simp [early, late]

/-- A write changes nothing about which paths can be written. -/
theorem writable_iff_of_writeText (written : tree.writeText path text = .ok next) (other : Path) :
    next.Writable other ↔ tree.Writable other := by
  have before : tree.Writable path := (exists_writeText_iff text).mp ⟨next, written⟩
  -- What stands at the path of the write is no directory, neither before nor afterwards.
  have no : tree.get? path ≠ some .directory := by
    rcases before with ⟨bytes, file⟩ | ⟨absent, -⟩
    · simp [file]
    · simp [absent]
  have parent : next.get? other.dropLast = some .directory ↔
      tree.get? other.dropLast = some .directory := by
    rw [get?_writeText written]
    split
    · rename_i same
      simp [same, no]
    · rfl
  unfold Writable
  rw [parent, get?_writeText written]
  split
  · -- The path of the write itself could be written, and now holds a file.
    rename_i same
    subst same
    exact iff_of_true (Or.inl ⟨_, rfl⟩) before
  · rfl

end PowerGovernor.FileTree
