import Mathlib.Data.List.Forall2

/-! Texts that are split at a separator, and pieces that are read one after the other. -/

namespace PowerGovernor

section Splitting

variable {separator : Char} {text : List Char}

/-- No piece holds the separator. -/
theorem separator_notMem {piece : List Char} (member : piece ∈ text.splitOn separator) :
    separator ∉ piece := by
  -- A character that is no separator joins the first piece of what follows it.
  induction text generalizing piece with
  | nil =>
    rw [List.splitOn_nil, List.mem_singleton] at member
    simp [member]
  | cons char rest ih =>
    rw [List.splitOn_cons_eq_if_modifyHead] at member
    split at member
    · rcases List.mem_cons.mp member with rfl | later
      · exact List.not_mem_nil
      · exact ih later
    · rename_i other
      obtain ⟨first, others, split⟩ :=
        List.exists_cons_of_ne_nil (List.splitOn_ne_nil separator rest)
      rw [split] at member ih
      rcases List.mem_cons.mp member with rfl | later
      · rw [List.mem_cons, not_or]
        exact ⟨fun same => other (by simp [same]), ih List.mem_cons_self⟩
      · exact ih (List.mem_cons_of_mem _ later)

/-- Splitting finds the only pieces without a separator that make up the text when separators are
put between them. -/
theorem splitOn_eq_iff {pieces : List (List Char)} :
    text.splitOn separator = pieces ↔ pieces ≠ [] ∧ (∀ piece ∈ pieces, separator ∉ piece) ∧
      [separator].intercalate pieces = text := by
  -- Splitting and joining undo each other as long as no piece has a separator.
  constructor
  · rintro rfl
    exact ⟨List.splitOn_ne_nil _ _, fun piece => separator_notMem,
      List.intercalate_splitOn separator⟩
  · rintro ⟨nonempty, clean, rfl⟩
    exact List.splitOn_intercalate separator clean nonempty

/-- A text that is put together holds nothing but separators and what is in the pieces. -/
theorem mem_intercalate {char : Char} {pieces : List (List Char)}
    (member : char ∈ [separator].intercalate pieces) :
    char = separator ∨ ∃ piece ∈ pieces, char ∈ piece := by
  -- A separator stands between the first piece and what is put together from the others.
  induction pieces with
  | nil => simp at member
  | cons piece rest ih =>
    cases rest with
    | nil => exact .inr ⟨piece, by simp, by simpa using member⟩
    | cons next more =>
      rw [List.intercalate_cons_cons, List.mem_append, List.mem_append, List.mem_singleton] at member
      rcases member with (first | between) | later
      · exact .inr ⟨piece, by simp, first⟩
      · exact .inl between
      · rcases ih later with same | ⟨other, among, inside⟩
        · exact .inl same
        · exact .inr ⟨other, List.mem_cons_of_mem _ among, inside⟩

/-- There is one piece more than there are separators. -/
theorem length_splitOn (separator : Char) (text : List Char) :
    (text.splitOn separator).length = text.count separator + 1 := by
  induction text with
  | nil => simp
  | cons char rest ih =>
    rw [List.splitOn_cons_eq_if_modifyHead, List.count_cons]
    -- A separator opens a piece, and any other character joins the first one.
    split
    · rw [List.length_cons, ih]
    · rw [List.length_modifyHead, ih]

end Splitting

section Reading

variable {α β ε : Type} {read : α → Except ε β} {pieces : List α}

/-- A reader that finds what is legal and reports what is wrong does nothing else, if every piece is
legal in some way or wrong in some way. -/
theorem read_eq_iff {piece : α} {legal : β → Prop} {wrong : ε → Prop}
    (decided : (∃ result, legal result) ∨ ∃ error, wrong error)
    (finds : ∀ {result}, legal result → read piece = .ok result)
    (reports : ∀ {error}, wrong error → read piece = .error error) :
    (∀ result, read piece = .ok result ↔ legal result) ∧
      ∀ error, read piece = .error error ↔ wrong error := by
  -- Whichever kind the piece is of, its outcome is known, and no outcome belongs to both kinds.
  obtain ⟨found, isLegal⟩ | ⟨blamed, isWrong⟩ := decided
  · refine ⟨fun result => ⟨fun outcome => ?_, finds⟩, fun error => ⟨fun outcome => ?_, reports⟩⟩
    · cases (finds isLegal).symm.trans outcome
      exact isLegal
    · cases (finds isLegal).symm.trans outcome
  · refine ⟨fun result => ⟨fun outcome => ?_, finds⟩, fun error => ⟨fun outcome => ?_, reports⟩⟩
    · cases (reports isWrong).symm.trans outcome
    · cases (reports isWrong).symm.trans outcome
      exact isWrong

/-- A piece that cannot be read ends the reading with its error. -/
theorem mapM_cons_of_error {piece : α} {error : ε} (wrong : read piece = .error error)
    (rest : List α) : (piece :: rest).mapM read = .error error := by
  rw [List.mapM_cons, wrong]
  rfl

/-- A piece that can be read is followed by what is read from the others. -/
theorem mapM_cons_of_ok {piece : α} {result : β} (found : read piece = .ok result)
    (rest : List α) : (piece :: rest).mapM read = (rest.mapM read).map (result :: ·) := by
  rw [List.mapM_cons, found]
  cases rest.mapM read <;> rfl

/-- Pieces are read as the results of each of them. -/
theorem mapM_eq_ok_iff {results : List β} :
    pieces.mapM read = .ok results ↔
      List.Forall₂ (fun piece result => read piece = .ok result) pieces results := by
  induction pieces generalizing results with
  | nil => cases results <;> simp [pure, Except.pure]
  | cons piece rest ih =>
    rw [List.forall₂_cons_left_iff]
    cases found : read piece with
    | error error => simp [mapM_cons_of_error found]
    | ok result =>
      -- The first result is the one of the first piece, and the others are read as before.
      simp only [mapM_cons_of_ok found, ← ih]
      cases rest.mapM read <;> simp [Except.map, eq_comm]

/-- The error is that of the first piece that cannot be read. -/
theorem mapM_eq_error_iff {error : ε} :
    pieces.mapM read = .error error ↔
      ∃ before piece after, pieces = before ++ piece :: after ∧
        (∀ earlier ∈ before, ∃ result, read earlier = .ok result) ∧ read piece = .error error := by
  constructor
  · intro failed
    induction pieces with
    | nil => cases failed
    | cons piece rest ih =>
      cases found : read piece with
      | error other =>
        rw [mapM_cons_of_error found] at failed
        cases failed
        exact ⟨[], piece, rest, rfl, by simp, found⟩
      | ok result =>
        -- The first piece was passed, so it stands in front of the one with the error.
        rw [mapM_cons_of_ok found] at failed
        cases others : rest.mapM read with
        | ok results => simp [others, Except.map] at failed
        | error other =>
          rw [others] at failed
          cases failed
          obtain ⟨before, wrong, after, rfl, earlier, isWrong⟩ := ih others
          exact ⟨piece :: before, wrong, after, rfl,
            List.forall_mem_cons.mpr ⟨⟨result, found⟩, earlier⟩, isWrong⟩
  · rintro ⟨before, piece, after, rfl, earlier, wrong⟩
    -- The pieces in front are passed one after the other.
    induction before with
    | nil => exact mapM_cons_of_error wrong after
    | cons first others ih =>
      obtain ⟨⟨result, found⟩, between⟩ := List.forall_mem_cons.mp earlier
      rw [List.cons_append, mapM_cons_of_ok found, ih between]
      rfl

/-- A property holds of one of the results exactly if it holds of what is read from one of the
pieces. -/
theorem exists_mem_results {results : List β} (done : pieces.mapM read = .ok results)
    (property : β → Prop) :
    (∃ result ∈ results, property result) ↔
      ∃ piece ∈ pieces, ∃ result, read piece = .ok result ∧ property result := by
  -- Piece by piece there is one result, which is what is read.
  rw [mapM_eq_ok_iff] at done
  induction done with
  | nil => simp
  | cons found _ ih => simp [ih, found]

/-- Pieces can be read together exactly if each of them can be read. -/
theorem exists_mapM_iff :
    (∃ results, pieces.mapM read = .ok results) ↔
      ∀ piece ∈ pieces, ∃ result, read piece = .ok result := by
  constructor
  · rintro ⟨results, done⟩
    rw [mapM_eq_ok_iff] at done
    induction done with
    | nil => simp
    | cons found _ ih => exact List.forall_mem_cons.mpr ⟨⟨_, found⟩, ih⟩
  · intro legal
    cases outcome : pieces.mapM read with
    | ok results => exact ⟨results, rfl⟩
    | error error =>
      -- There would have to be a piece that cannot be read.
      obtain ⟨before, piece, after, rfl, -, wrong⟩ := mapM_eq_error_iff.mp outcome
      obtain ⟨result, found⟩ := legal piece (by simp)
      cases found.symm.trans wrong

end Reading

end PowerGovernor
