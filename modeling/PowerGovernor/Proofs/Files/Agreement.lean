import PowerGovernor.Files.Tree

/-! Trees that hold the same at a path, and changes of a tree from outside. -/

namespace PowerGovernor

namespace FileTree

/-- Two trees hold the same at a path. -/
def AgreeAt (left right : FileTree) (path : Path) : Prop :=
  left.get? path = right.get? path

/-- Where two trees agree a file is read from both of them, or from neither. -/
theorem AgreeAt.readBytes {left right : FileTree} {path : Path}
    (agree : left.AgreeAt right path) :
    (∃ bytes, left.readBytes path = .ok bytes ∧ right.readBytes path = .ok bytes) ∨
      ∃ fault other, left.readBytes path = .error fault ∧ right.readBytes path = .error other := by
  have same : left path = right path := agree
  unfold FileTree.readBytes
  rw [same]
  cases right path with
  -- What is missing may be missing for different reasons.
  | none => exact Or.inr ⟨_, _, rfl, rfl⟩
  | some entry =>
    cases entry with
    | directory => exact Or.inr ⟨_, _, rfl, rfl⟩
    | file bytes => exact Or.inl ⟨bytes, rfl, rfl⟩

/-- Where two trees agree a text is read from both of them, or from neither. -/
theorem AgreeAt.readText {left right : FileTree} {path : Path} (agree : left.AgreeAt right path) :
    (∃ text, left.readText path = .ok text ∧ right.readText path = .ok text) ∨
      ∃ fault other, left.readText path = .error fault ∧ right.readText path = .error other := by
  -- The bytes are the same, so they are a text in both trees or in neither.
  unfold FileTree.readText
  rcases agree.readBytes with ⟨bytes, one, other⟩ | ⟨fault, reason, one, other⟩
  · rw [one, other]
    cases decoded : String.fromUTF8? bytes with
    | none => exact Or.inr ⟨.badText, .badText, by simp [decoded], by simp [decoded]⟩
    | some text => exact Or.inl ⟨text, by simp [decoded], by simp [decoded]⟩
  · rw [one, other]
    exact Or.inr ⟨fault, reason, rfl, rfl⟩

/-- Where two trees agree a path can be opened in both of them, or in neither. -/
theorem AgreeAt.canOpen {left right : FileTree} {path : Path} (agree : left.AgreeAt right path) :
    left.canOpen path = right.canOpen path :=
  congrArg Option.isSome agree

/-- What is put at paths from outside; every other path is left alone. -/
def Patch := Path → Option (Option Entry)

/-- A tree after it was changed from outside. -/
def patch (tree : FileTree) (changes : Patch) : FileTree := fun path =>
  match changes path with
  | some entry => entry
  | none => tree path

/-- The same change from outside keeps trees in agreement. -/
theorem AgreeAt.patch {left right : FileTree} {path : Path} (agree : left.AgreeAt right path)
    (changes : Patch) : (left.patch changes).AgreeAt (right.patch changes) path := by
  -- Where the change puts something both trees hold that.
  unfold AgreeAt get? FileTree.patch
  cases changes path with
  | none => exact agree
  | some entry => rfl

/-- A text that is written to one path of a tree shows at no other path. -/
theorem agreeAt_of_writeText {tree next : FileTree} {written path : Path} {text : String}
    (done : tree.writeText written text = .ok next) (apart : path ≠ written) :
    tree.AgreeAt next path := by
  -- A write replaces what stands at its own path only.
  unfold AgreeAt
  rw [get?_writeText done, if_neg apart]

end FileTree

end PowerGovernor
