import Mathlib.Logic.Relation
import PowerGovernor.Proofs.Policy.Grammar

/-! What a description says about a policy state, and that this is what is read from it. -/

namespace PowerGovernor.Policy

/-- What the pieces of a description say about one field of a state: the last piece with the key of
the field holds, and without such a piece the field has its default. -/
structure LastHolds {α : Type} (pieces : List (List Char)) (key : String)
    (means : List Char → α → Prop) (default field : α) : Prop where
  /-- The value of the last piece with the key means what the field holds. -/
  last : ∀ before piece after value, pieces = before ++ piece :: after →
    IsSetting piece key value → (∀ later ∈ after, ∀ other, ¬IsSetting later key other) →
    means value field
  /-- Where no piece has the key, the field holds the default. -/
  unset : (∀ piece ∈ pieces, ∀ value, ¬IsSetting piece key value) → field = default

/-- Some piece with a key is the last one, unless there is none. -/
theorem exists_last_or_unset (pieces : List (List Char)) (key : String) :
    (∃ before piece after value, pieces = before ++ piece :: after ∧ IsSetting piece key value ∧
      ∀ later ∈ after, ∀ other, ¬IsSetting later key other) ∨
      ∀ piece ∈ pieces, ∀ value, ¬IsSetting piece key value := by
  induction pieces with
  | nil => simp
  | cons piece rest ih =>
    -- A piece that is the last one with the key among the others stays so behind the first one.
    rcases ih with ⟨before, last, after, value, rfl, form, silent⟩ | unset
    · exact .inl ⟨piece :: before, last, after, value, rfl, form, silent⟩
    · -- Only the first piece can have the key now.
      by_cases form : ∃ value, IsSetting piece key value
      · obtain ⟨value, form⟩ := form
        exact .inl ⟨[], piece, rest, value, rfl, form, unset⟩
      · exact .inr (List.forall_mem_cons.mpr ⟨fun value is => form ⟨value, is⟩, unset⟩)

/-- Pieces say no two things about a field, if no value means two things. -/
theorem LastHolds.unique {α : Type} {pieces : List (List Char)} {key : String}
    {means : List Char → α → Prop} (functional : Relator.RightUnique means)
    {default first second : α} (one : LastHolds pieces key means default first)
    (other : LastHolds pieces key means default second) : first = second := by
  -- Either some piece is the last with the key, or the default holds for both.
  rcases exists_last_or_unset pieces key with ⟨before, piece, after, value, split, form, silent⟩ |
    unset
  · exact functional (one.last before piece after value split form silent)
      (other.last before piece after value split form silent)
  · rw [one.unset unset, other.unset unset]

/-- The meaning of a value for a field that may also be left open. -/
def Given {α : Type} (means : List Char → α → Prop) (value : List Char) (field : Option α) : Prop :=
  ∃ content, field = some content ∧ means value content

/-- A value means one thing for a field that may be left open if it means one thing at all. -/
theorem Given.rightUnique {α : Type} {means : List Char → α → Prop}
    (functional : Relator.RightUnique means) : Relator.RightUnique (Given means) := by
  -- Both contents are meant by the one value.
  rintro value _ _ ⟨content, rfl, meant⟩ ⟨another, rfl, meantToo⟩
  rw [functional meant meantToo]

/-- A state is described by its name and by the pieces of a body: a table of all fields. -/
structure Describes (name : String) (pieces : List (List Char)) (spec : Spec) : Prop where
  name : spec.name = name
  workload : LastHolds pieces "wlt" (Given IsWord) none spec.workload
  systemPercent : LastHolds pieces "sys" IsWord 0 spec.systemPercent
  cpuPercent : LastHolds pieces "cpu" IsWord 0 spec.cpuPercent
  cpuExitPercent : LastHolds pieces "exit_cpu" IsWord 0 spec.cpuExitPercent
  gfxPercent : LastHolds pieces "gfx" IsWord 0 spec.gfxPercent
  marginPoints : LastHolds pieces "hyst_bp" IsWord 0 spec.marginPoints
  minInterval : LastHolds pieces "min_ms" IsWord 0 spec.minInterval
  maxInterval : LastHolds pieces "max_ms" IsWord 0 spec.maxInterval
  increment : LastHolds pieces "inc" (Given IsIncrement) none spec.increment
  activeCpus : LastHolds pieces "cpus" IsCpuList "" spec.activeCpus
  irq : LastHolds pieces "irq" IsIrq .ignore spec.irq
  epp : LastHolds pieces "epp" (Given IsWord) none spec.epp
  epb : LastHolds pieces "epb" (Given IsWord) none spec.epb
  itmt : LastHolds pieces "itmt" (Given IsWord) none spec.itmt

/-- The state with the settings of the pieces, one after the other, up to the first piece from which
none can be read. -/
def Spec.readPieces : Spec → List (List Char) → Except SpecError Spec
  | spec, [] => .ok spec
  | spec, piece :: rest =>
    match readSetting piece with
    | .ok setting => (setting.apply spec).readPieces rest
    | .error error => .error error

/-- Applying all settings at the end is applying each of them when it is read. -/
theorem readPieces_eq_mapM (pieces : List (List Char)) (spec : Spec) :
    (do let settings ← pieces.mapM readSetting; return settings.foldl Setting.apply spec) =
      spec.readPieces pieces := by
  -- An error ends both at the same piece.
  induction pieces generalizing spec with
  | nil => rfl
  | cons piece rest ih =>
    cases read : readSetting piece with
    | error error => simp [Spec.readPieces, read, bind, Except.bind]
    | ok setting =>
      simp only [List.mapM_cons, read, Spec.readPieces, ← ih]
      -- The rest is read the same way, or fails on both sides.
      cases rest.mapM readSetting <;> rfl

namespace Spec

variable {spec final : Spec} {pieces : List (List Char)}

/-- Pieces are read exactly if each of them stands for a setting. -/
theorem exists_readPieces_iff :
    (∃ final, spec.readPieces pieces = .ok final) ↔
      ∀ piece ∈ pieces, ∃ setting, StandsFor piece setting := by
  -- Applying what was read never fails.
  simp only [← readSetting_eq_ok_iff, ← exists_mapM_iff, ← readPieces_eq_mapM]
  cases pieces.mapM readSetting <;> simp [bind, Except.bind, pure, Except.pure]

/-- The error of the first piece with which something is wrong is reported. -/
theorem readPieces_eq_error_iff {error : SpecError} :
    spec.readPieces pieces = .error error ↔
      ∃ before piece after, pieces = before ++ piece :: after ∧
        (∀ earlier ∈ before, ∃ setting, StandsFor earlier setting) ∧ Offends piece error := by
  -- The only errors are those of the pieces, of which the first one ends the reading.
  simp only [← readSetting_eq_ok_iff, ← readSetting_eq_error_iff, ← mapM_eq_error_iff,
    ← readPieces_eq_mapM]
  cases pieces.mapM readSetting <;> simp [bind, Except.bind, pure, Except.pure]

end Spec

/-- A field that belongs to a key: the settings with the key set it, and no others touch it. -/
structure SetBy {α : Type} (key : String) (means : List Char → α → Prop) (field : Spec → α) :
    Prop where
  /-- A setting with the key sets the field to what is meant. -/
  set : ∀ (setting : Setting) spec value, setting.key = key → setting.IsMeantBy value →
    means value (field (setting.apply spec))
  /-- Any other setting leaves the field alone. -/
  kept : ∀ (setting : Setting) spec, setting.key ≠ key → field (setting.apply spec) = field spec

/-- A field that belongs to a key holds what the pieces say about it. -/
theorem lastHolds_readPieces {α : Type} {key : String} {means : List Char → α → Prop}
    (field : Spec → α) (belongs : SetBy key means field) {pieces : List (List Char)}
    {spec final : Spec} (read : spec.readPieces pieces = .ok final) :
    LastHolds pieces key means (field spec) (field final) := by
  -- What the first piece says holds if the others say nothing, as they do not touch the field then.
  induction pieces generalizing spec with
  | nil =>
    cases read
    exact ⟨by simp, fun _ => rfl⟩
  | cons piece rest ih =>
    cases first : readSetting piece with
    | error error => simp [Spec.readPieces, first] at read
    | ok setting =>
      obtain ⟨value, form, meant⟩ := readSetting_eq_ok_iff.mp first
      have others := ih (by simpa only [Spec.readPieces, first] using read)
      constructor
      · -- The last piece with the key is the first one of all, or one of the others.
        intro before other after held split formToo later
        cases before with
        | nil =>
          cases split
          obtain ⟨same, rfl⟩ := form.unique formToo
          rw [others.unset later]
          exact belongs.set setting spec value same meant
        | cons _ between =>
          cases split
          exact others.last between other after held rfl formToo later
      · intro silent
        obtain ⟨other, silentToo⟩ := List.forall_mem_cons.mp silent
        rw [others.unset silentToo]
        -- The key of the first piece is another one, too.
        exact belongs.kept setting spec fun same => other value (same ▸ form)

/-- No setting changes the name of a state. -/
theorem Spec.name_readPieces {pieces : List (List Char)} {spec final : Spec}
    (read : spec.readPieces pieces = .ok final) : final.name = spec.name := by
  -- Every setting is applied to another field.
  have kept : ∀ (setting : Setting) (spec : Spec), (setting.apply spec).name = spec.name := by
    rintro (_ | _) spec <;> rfl
  induction pieces generalizing spec with
  | nil =>
    cases read
    rfl
  | cons piece rest ih =>
    cases first : readSetting piece with
    | error error => simp [readPieces, first] at read
    | ok setting =>
      simp only [readPieces, first] at read
      exact (ih read).trans (kept setting spec)

/-- What is read from pieces for a name is what they say. -/
theorem describes_of_readPieces {name : String} {pieces : List (List Char)} {spec : Spec}
    (read : ({ name } : Spec).readPieces pieces = .ok spec) : Describes name pieces spec := by
  refine ⟨Spec.name_readPieces read, lastHolds_readPieces Spec.workload ?_ read,
    lastHolds_readPieces Spec.systemPercent ?_ read, lastHolds_readPieces Spec.cpuPercent ?_ read,
    lastHolds_readPieces Spec.cpuExitPercent ?_ read, lastHolds_readPieces Spec.gfxPercent ?_ read,
    lastHolds_readPieces Spec.marginPoints ?_ read, lastHolds_readPieces Spec.minInterval ?_ read,
    lastHolds_readPieces Spec.maxInterval ?_ read, lastHolds_readPieces Spec.increment ?_ read,
    lastHolds_readPieces Spec.activeCpus ?_ read, lastHolds_readPieces Spec.irq ?_ read,
    lastHolds_readPieces Spec.epp ?_ read, lastHolds_readPieces Spec.epb ?_ read,
    lastHolds_readPieces Spec.itmt ?_ read⟩
  -- Each field is set by the one kind of settings with its key.
  all_goals
    constructor
    · rintro (_ | _) spec value same meant <;> first
        | exact meant
        | exact ⟨_, rfl, meant⟩
        | simp [Setting.key] at same
    · rintro (_ | _) spec different <;> first
        | rfl
        | exact absurd rfl different

/-- No two states are described by the same name and pieces. -/
theorem Describes.unique {name : String} {pieces : List (List Char)} {first second : Spec}
    (one : Describes name pieces first) (other : Describes name pieces second) :
    first = second := by
  -- No value means two things, so the fields agree one by one.
  have word := isWord_rightUnique
  have number := Given.rightUnique word
  have increment := Given.rightUnique isIncrement_rightUnique
  cases first
  cases second
  rw [Spec.mk.injEq]
  exact ⟨one.name.trans other.name.symm,
    one.workload.unique number other.workload,
    one.systemPercent.unique word other.systemPercent,
    one.cpuPercent.unique word other.cpuPercent,
    one.cpuExitPercent.unique word other.cpuExitPercent,
    one.gfxPercent.unique word other.gfxPercent,
    one.marginPoints.unique word other.marginPoints,
    one.minInterval.unique word other.minInterval,
    one.maxInterval.unique word other.maxInterval,
    one.increment.unique increment other.increment,
    one.activeCpus.unique isCpuList_rightUnique other.activeCpus,
    one.irq.unique isIrq_rightUnique other.irq,
    one.epp.unique number other.epp,
    one.epb.unique number other.epb,
    one.itmt.unique number other.itmt⟩

/-- The pieces of a body in another order, where only pieces with different keys have changed
places. -/
def Reordered : List (List Char) → List (List Char) → Prop :=
  Relation.ReflTransGen fun pieces others =>
    ∃ before first second after key other value another,
      IsSetting first key value ∧ IsSetting second other another ∧ key ≠ other ∧
        pieces = before ++ first :: second :: after ∧ others = before ++ second :: first :: after

/-- Settings with different keys can be applied in either order. -/
theorem Setting.apply_comm {first second : Setting} (different : first.key ≠ second.key)
    (spec : Spec) : second.apply (first.apply spec) = first.apply (second.apply spec) := by
  -- They are of different kinds, and so set different fields.
  rcases first with _ | _ <;> rcases second with _ | _ <;> first
    | rfl
    | exact absurd rfl different

/-- What is read does not change when two neighbours with different keys change places. -/
theorem Spec.readPieces_swap {before after : List (List Char)} {first second : List Char}
    {key other : String} {value another : List Char} (one : IsSetting first key value)
    (two : IsSetting second other another) (different : key ≠ other) {spec final : Spec}
    (read : spec.readPieces (before ++ first :: second :: after) = .ok final) :
    spec.readPieces (before ++ second :: first :: after) = .ok final := by
  -- Up to the two pieces both orders read the same.
  induction before generalizing spec with
  | nil =>
    cases found : readSetting first with
    | error error => simp [readPieces, found] at read
    | ok setting =>
      cases foundToo : readSetting second with
      | error error => simp [readPieces, found, foundToo] at read
      | ok next =>
        obtain ⟨_, form, -⟩ := readSetting_eq_ok_iff.mp found
        obtain ⟨_, formToo, -⟩ := readSetting_eq_ok_iff.mp foundToo
        -- The settings have the keys of the pieces.
        have apart : setting.key ≠ next.key := by
          rw [(form.unique one).1, (formToo.unique two).1]
          exact different
        simp only [List.nil_append, readPieces, found, foundToo] at read ⊢
        rw [← Setting.apply_comm apart]
        exact read
  -- The piece in front is read by both.
  | cons piece rest ih =>
    cases found : readSetting piece with
    | error error => simp [readPieces, found] at read
    | ok setting =>
      simp only [List.cons_append, readPieces, found] at read ⊢
      exact ih read

/-- What is read does not depend on the order of pieces with different keys. -/
theorem Spec.readPieces_reordered {pieces others : List (List Char)}
    (reordered : Reordered pieces others) {spec final : Spec}
    (read : spec.readPieces pieces = .ok final) : spec.readPieces others = .ok final := by
  -- A new order is made of swaps, none of which changes what is read.
  induction reordered with
  | refl => exact read
  | tail _ swapped ih =>
    obtain ⟨before, first, second, after, key, other, value, another, one, two, different, rfl,
      rfl⟩ := swapped
    exact readPieces_swap one two different ih

namespace Spec

/-- Reading a description with an outer form is reading the pieces of its body. -/
theorem read_of_hasOutline {text name : String} {body : List Char}
    (outline : HasOutline text name body) :
    Spec.read text = ({ name } : Spec).readPieces (settingPieces body) := by
  -- With the outer form the reader has only the pieces left to look at.
  rw [← readPieces_eq_mapM]
  simp only [Spec.read, splitSpec?_eq_some_iff.mpr outline, String.ofList_toList]

/-- A text without the outer form of a description is reported as a whole. -/
theorem read_of_not_hasOutline {text : String}
    (formless : ∀ name body, ¬HasOutline text name body) :
    Spec.read text = .error (.malformed text) := by
  -- Splitting finds an outer form exactly if there is one.
  cases split : splitSpec? (trim text.toList) with
  | none => simp only [Spec.read, split]
  | some parts =>
    obtain ⟨name, body⟩ := parts
    rw [← String.toList_ofList (l := name)] at split
    exact absurd (splitSpec?_eq_some_iff.mp split) (formless _ _)

/-- A text is read exactly if it has the outer form and each piece of its body stands for a
setting. -/
theorem exists_read_iff {text : String} :
    (∃ spec, Spec.read text = .ok spec) ↔
      ∃ name body, HasOutline text name body ∧
        ∀ piece ∈ settingPieces body, ∃ setting, StandsFor piece setting := by
  -- With the form, reading is reading the pieces; without it, nothing is read.
  constructor
  · rintro ⟨spec, read⟩
    by_cases form : ∃ name body, HasOutline text name body
    · obtain ⟨name, body, outline⟩ := form
      rw [read_of_hasOutline outline] at read
      exact ⟨name, body, outline, exists_readPieces_iff.mp ⟨spec, read⟩⟩
    · rw [read_of_not_hasOutline fun name body outline => form ⟨name, body, outline⟩] at read
      contradiction
  · rintro ⟨name, body, outline, legal⟩
    rw [read_of_hasOutline outline]
    exact exists_readPieces_iff.mpr legal

/-- What is read from a text with the outer form is the state that it describes. -/
theorem read_eq_ok_iff {text : String} {spec : Spec} :
    Spec.read text = .ok spec ↔
      ∃ name body, HasOutline text name body ∧
        (∀ piece ∈ settingPieces body, ∃ setting, StandsFor piece setting) ∧
          Describes name (settingPieces body) spec := by
  constructor
  · intro read
    obtain ⟨name, body, outline, legal⟩ := exists_read_iff.mp ⟨spec, read⟩
    rw [read_of_hasOutline outline] at read
    exact ⟨name, body, outline, legal, describes_of_readPieces read⟩
  · rintro ⟨name, body, outline, legal, described⟩
    obtain ⟨other, read⟩ := exists_readPieces_iff.mpr legal
    -- Nothing else is described, so this is what was read.
    rw [read_of_hasOutline outline, read, (describes_of_readPieces read).unique described]

/-- The error is about the whole text if it has not the outer form, and about the first piece with
which something is wrong otherwise. -/
theorem read_eq_error_iff {text : String} {error : SpecError} :
    Spec.read text = .error error ↔
      ((∀ name body, ¬HasOutline text name body) ∧ error = .malformed text) ∨
        ∃ name body before piece after, HasOutline text name body ∧
          settingPieces body = before ++ piece :: after ∧
          (∀ earlier ∈ before, ∃ setting, StandsFor earlier setting) ∧ Offends piece error := by
  -- The outer form comes first, and the pieces are looked at only behind it.
  by_cases form : ∃ name body, HasOutline text name body
  · obtain ⟨name, body, outline⟩ := form
    rw [read_of_hasOutline outline, readPieces_eq_error_iff]
    constructor
    · rintro ⟨before, piece, after, split, earlier, wrong⟩
      exact .inr ⟨name, body, before, piece, after, outline, split, earlier, wrong⟩
    · rintro (⟨formless, -⟩ | ⟨other, another, before, piece, after, same, split, earlier, wrong⟩)
      · exact absurd outline (formless name body)
      · obtain ⟨-, rfl⟩ := outline.unique same
        exact ⟨before, piece, after, split, earlier, wrong⟩
  · have formless : ∀ name body, ¬HasOutline text name body :=
      fun name body outline => form ⟨name, body, outline⟩
    rw [read_of_not_hasOutline formless, Except.error.injEq, eq_comm]
    constructor
    · exact fun whole => .inl ⟨formless, whole⟩
    · rintro (⟨-, whole⟩ | ⟨name, body, _, _, _, outline, -⟩)
      · exact whole
      · exact absurd outline (formless name body)

/-- Descriptions are read as the grammar says.

A text is read exactly if it has the outer form of a description and every piece of its body stands
for a setting. What is read is then the one state that the text describes, in which each field holds
what the last piece with its key says, or its default. The error that is reported otherwise is about
the outer form, or about the first piece with which something is wrong. Pieces with different keys
may stand in any order. -/
theorem read_follows_grammar (text : String) :
    ((∃ spec, Spec.read text = .ok spec) ↔
      ∃ name body, HasOutline text name body ∧
        ∀ piece ∈ settingPieces body, ∃ setting, StandsFor piece setting) ∧
    (∀ spec, Spec.read text = .ok spec ↔
      ∃ name body, HasOutline text name body ∧
        (∀ piece ∈ settingPieces body, ∃ setting, StandsFor piece setting) ∧
          Describes name (settingPieces body) spec) ∧
    (∀ error, Spec.read text = .error error ↔
      ((∀ name body, ¬HasOutline text name body) ∧ error = .malformed text) ∨
        ∃ name body before piece after, HasOutline text name body ∧
          settingPieces body = before ++ piece :: after ∧
          (∀ earlier ∈ before, ∃ setting, StandsFor earlier setting) ∧ Offends piece error) ∧
    ∀ other name body others, HasOutline text name body → HasOutline other name others →
      Reordered (settingPieces body) (settingPieces others) →
        ∀ spec, Spec.read text = .ok spec → Spec.read other = .ok spec := by
  refine ⟨exists_read_iff, fun _ => read_eq_ok_iff, fun _ => read_eq_error_iff, ?_⟩
  -- Only the pieces of the body have moved, and the name is the same.
  intro other name body others outline outlineToo reordered spec read
  rw [read_of_hasOutline outline] at read
  rw [read_of_hasOutline outlineToo]
  exact readPieces_reordered reordered read

/-- Two settings with different keys, one of which is overwritten later, in either order, with a CPU
list of two parts behind them; a key that is not known is reported as such. -/
theorem read_follows_grammar_swapped :
    let spec : Spec := { name := "idle", systemPercent := 5, irq := .enable, activeCpus := "0-3,7" }
    Spec.read " idle:sys=20,irq = on,,sys=+5,cpus=0-3;7 " = .ok spec ∧
      Spec.read "idle:irq = on,sys=20,sys=+5,cpus=0-3;7" = .ok spec ∧
      Spec.read "idle:sys=5,speed=7,sys=x" = .error (.unknownKey "speed") := by
  -- The first description is read as it stands, and the second one has its pieces.
  have read : Spec.read " idle:sys=20,irq = on,,sys=+5,cpus=0-3;7 " =
      .ok { name := "idle", systemPercent := 5, irq := .enable, activeCpus := "0-3,7" } := by
    decide +kernel
  obtain ⟨-, -, -, reorder⟩ := read_follows_grammar " idle:sys=20,irq = on,,sys=+5,cpus=0-3;7 "
  obtain ⟨-, -, fails, -⟩ := read_follows_grammar "idle:sys=5,speed=7,sys=x"
  refine ⟨read, ?_, ?_⟩
  · -- The first two pieces have changed places, and have different keys.
    refine reorder _ "idle" "sys=20,irq = on,,sys=+5,cpus=0-3;7".toList
      "irq = on,sys=20,sys=+5,cpus=0-3;7".toList (splitSpec?_eq_some_iff.mp (by decide +kernel))
      (splitSpec?_eq_some_iff.mp (by decide +kernel)) (.single ?_) _ read
    exact ⟨[], "sys=20".toList, "irq = on".toList, ["sys=+5".toList, "cpus=0-3;7".toList], "sys",
      "irq", "20".toList, "on".toList, splitSetting?_eq_some_iff.mp (by decide +kernel),
      splitSetting?_eq_some_iff.mp (by decide +kernel), by decide, by decide +kernel,
      by decide +kernel⟩
  · -- The piece in front stands for a setting, and what is wrong with the last one comes too late.
    have form : IsSetting "speed=7".toList "speed" "7".toList :=
      splitSetting?_eq_some_iff.mp (by decide +kernel)
    refine (fails _).mpr (.inr ⟨"idle", "sys=5,speed=7,sys=x".toList, ["sys=5".toList],
      "speed=7".toList, ["sys=x".toList], splitSpec?_eq_some_iff.mp (by decide +kernel),
      by decide +kernel, ?_, ?_⟩)
    · exact List.forall_mem_singleton.mpr
        ⟨.systemPercent 5, readSetting_eq_ok_iff.mp (by decide +kernel)⟩
    · exact .unknownKey form (by decide)

end Spec

end PowerGovernor.Policy
