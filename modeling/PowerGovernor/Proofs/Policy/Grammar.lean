import PowerGovernor.Policy.Reader
import PowerGovernor.Proofs.Text.Blank
import PowerGovernor.Proofs.Text.Numeral
import PowerGovernor.Proofs.Text.Pieces

/-! The grammar of described policy states, told apart from the way in which they are read. -/

namespace PowerGovernor.Policy

section Lists

variable {α : Type} {inside : α → Bool} {front rest : List α}

/-- A run stops where another member comes first. -/
theorem stop_cons {first : α} (other : inside first = false) :
    ∀ member, (first :: rest).head? = some member → inside member = false := by
  -- The first member of the list is the only one asked about.
  rintro _ ⟨⟩
  exact other

/-- A run of a list ends where the first other member stands. -/
theorem takeWhile_append_of_stop (run : ∀ member ∈ front, inside member = true)
    (stop : ∀ member, rest.head? = some member → inside member = false) :
    (front ++ rest).takeWhile inside = front := by
  -- The run is passed over as a whole, and what follows it does not go on.
  rw [List.takeWhile_append_of_pos run]
  cases rest with
  | nil => simp
  | cons member others => simp [stop member rfl]

/-- Behind a run of a list, the first other member follows. -/
theorem dropWhile_append_of_stop (run : ∀ member ∈ front, inside member = true)
    (stop : ∀ member, rest.head? = some member → inside member = false) :
    (front ++ rest).dropWhile inside = rest := by
  -- The same stop ends what is dropped.
  rw [List.dropWhile_append_of_pos run]
  cases rest with
  | nil => rfl
  | cons member others => simp [stop member rfl]

end Lists

/-- The outer form of a description: a name, and maybe a body behind a colon, in one line and with
nothing but blanks around them. -/
structure HasOutline (text name : String) (body : List Char) : Prop where
  /-- There is a name. -/
  name_nonempty : name.toList ≠ []
  /-- The name is made of its own characters. -/
  name_chars : ∀ char ∈ name.toList, isNameChar char = true
  /-- The body stands in one line. -/
  body_line : '\n' ∉ body
  /-- Without a colon the body is empty. -/
  form : trim text.toList = name.toList ∧ body = [] ∨
    trim text.toList = name.toList ++ ':' :: body

/-- A piece with the form of a setting: a key, an equals sign and a value, with blanks around
them. -/
structure IsSetting (piece : List Char) (key : String) (value : List Char) : Prop where
  /-- There is a key. -/
  key_nonempty : key.toList ≠ []
  /-- The key is made of its own characters. -/
  key_chars : ∀ char ∈ key.toList, isKeyChar char = true
  /-- The value holds no equals sign. -/
  value_chars : '=' ∉ value
  /-- Blanks around the value do not belong to it. -/
  value_trimmed : IsTrimmed value
  /-- The parts follow each other. -/
  form : ∃ before behind ahead after, isBlankText before = true ∧ isBlankText behind = true ∧
    isBlankText ahead = true ∧ isBlankText after = true ∧
    piece = before ++ (key.toList ++ (behind ++ '=' :: (ahead ++ (value ++ after))))

/-- A character of a key is no blank. -/
theorem isBlank_of_isKeyChar {char : Char} (key : isKeyChar char = true) :
    isBlank char = false := by
  -- Keys are made of lower-case letters and underscores, which are all visible.
  have lower : char.isLower = (decide (97 ≤ char.val) && decide (char.val ≤ 122)) := rfl
  have range : (97 ≤ char.toNat ∧ char.toNat ≤ 122) ∨ char.toNat = 95 := by
    simp only [isKeyChar, lower, Bool.or_eq_true, Bool.and_eq_true, decide_eq_true_eq,
      beq_iff_eq, UInt32.le_iff_toNat_le] at key
    rcases key with letter | rfl
    · exact .inl letter
    · exact .inr rfl
  exact isBlank_of_visible (by omega) (by omega)

/-- A blank is no character of a key. -/
theorem not_isKeyChar_of_isBlank {char : Char} (blank : isBlank char = true) :
    isKeyChar char = false := by
  -- No character is both.
  cases key : isKeyChar char with
  | false => rfl
  | true => exact absurd ((isBlank_of_isKeyChar key).symm.trans blank) (by decide)

/-- The sign between a key and its value is no blank. -/
theorem sign_notMem {blanks : List Char} (blank : isBlankText blanks = true) : '=' ∉ blanks :=
  fun member => absurd (isBlank_of_mem blank member) (by decide)

/-- A piece is split at the end of the key characters that it begins with, if a sign follows. -/
theorem splitSetting?_cases {piece key value : List Char} :
    splitSetting? piece = some (key, value) ↔
      (trimStart piece).takeWhile isKeyChar = key ∧ key ≠ [] ∧ ∃ rest, '=' ∉ rest ∧
        trimStart ((trimStart piece).dropWhile isKeyChar) = '=' :: rest ∧ trim rest = value := by
  -- Splitting succeeds in one way only: there is a sign, a key in front of it, and no second sign.
  simp only [splitSetting?]
  split
  · rename_i rest sign
    simp only [sign, List.cons.injEq, true_and]
    split
    · rename_i malformed
      simp only [Bool.or_eq_true, List.isEmpty_iff, List.contains_iff_mem] at malformed
      grind
    · rename_i wellFormed
      simp only [Bool.or_eq_true, List.isEmpty_iff, List.contains_iff_mem] at wellFormed
      grind
  · rename_i other
    simp only [reduceCtorEq, false_iff, not_and, not_exists]
    intro _ _ rest _ sign _
    exact other rest sign

/-- What a piece is split into is the key and the value of the setting that it has the form of. -/
theorem splitSetting?_eq_some_iff {piece : List Char} {key : String} {value : List Char} :
    splitSetting? piece = some (key.toList, value) ↔ IsSetting piece key value := by
  -- Each step of splitting gives or takes one part of the form, from left to right.
  rw [splitSetting?_cases]
  constructor
  · rintro ⟨isKey, nonempty, rest, noSign, sign, inner⟩
    obtain ⟨before, blank, front⟩ := exists_trimStart piece
    obtain ⟨behind, blankToo, middle⟩ := exists_trimStart ((trimStart piece).dropWhile isKeyChar)
    obtain ⟨trimmed, ahead, after, blankAhead, blankAfter, back⟩ := trim_eq_iff.mp inner
    have chars : ∀ char ∈ key.toList, isKeyChar char = true := by
      rw [← isKey]
      exact List.all_eq_true.mp List.all_takeWhile
    -- The value is a part of what follows the sign.
    have single : '=' ∉ value := fun member => noSign (by rw [back]; simp [member])
    refine ⟨nonempty, chars, single, trimmed, before, behind, ahead, after, blank, blankToo,
      blankAhead, blankAfter, ?_⟩
    calc piece
        = before ++ ((trimStart piece).takeWhile isKeyChar ++
            (trimStart piece).dropWhile isKeyChar) := by
          rw [List.takeWhile_append_dropWhile, ← front]
      _ = before ++ (key.toList ++ (behind ++ '=' :: (ahead ++ (value ++ after)))) := by
          rw [isKey, middle, sign, back]
  · rintro ⟨nonempty, chars, noSign, trimmed, before, behind, ahead, after, blank, blankToo,
      blankAhead, blankAfter, rfl⟩
    -- The key begins behind the first blanks, and ends before a blank or the sign.
    have start :
        trimStart (before ++ (key.toList ++ (behind ++ '=' :: (ahead ++ (value ++ after))))) =
          key.toList ++ (behind ++ '=' :: (ahead ++ (value ++ after))) := by
      obtain ⟨first, others, named⟩ := List.exists_cons_of_ne_nil nonempty
      rw [named] at chars ⊢
      rw [trimStart_append blank]
      exact trimStart_of_head (stop_cons (isBlank_of_isKeyChar (chars first List.mem_cons_self)))
    have stop : ∀ char, (behind ++ '=' :: (ahead ++ (value ++ after))).head? = some char →
        isKeyChar char = false := by
      cases behind with
      | nil => exact stop_cons (by decide)
      | cons first others =>
        exact stop_cons (not_isKeyChar_of_isBlank (isBlank_of_mem blankToo List.mem_cons_self))
    rw [start, takeWhile_append_of_stop chars stop, dropWhile_append_of_stop chars stop,
      trimStart_append blankToo]
    -- No blank is a sign, so the first sign is the only one.
    have single : '=' ∉ ahead ++ (value ++ after) := by
      rw [List.mem_append, List.mem_append, not_or, not_or]
      exact ⟨sign_notMem blankAhead, noSign, sign_notMem blankAfter⟩
    exact ⟨rfl, nonempty, _, single, trimStart_of_head (stop_cons (by decide)),
      trim_eq_iff.mpr ⟨trimmed, ahead, after, blankAhead, blankAfter, rfl⟩⟩

/-- A piece has the form of one setting only. -/
theorem IsSetting.unique {piece value another : List Char} {key other : String}
    (one : IsSetting piece key value) (same : IsSetting piece other another) :
    key = other ∧ value = another := by
  -- Whatever form a piece has, it is split into the same key and value.
  have split := (splitSetting?_eq_some_iff.mpr one).symm.trans (splitSetting?_eq_some_iff.mpr same)
  rw [Option.some.injEq, Prod.mk.injEq, String.toList_inj] at split
  exact split

/-- A description is split at the end of the name characters that it begins with. -/
theorem splitSpec?_cases {text name body : List Char} :
    splitSpec? text = some (name, body) ↔
      text.takeWhile isNameChar = name ∧ name ≠ [] ∧ '\n' ∉ body ∧
        (text.dropWhile isNameChar = [] ∧ body = [] ∨ text.dropWhile isNameChar = ':' :: body) := by
  -- Behind the name the text ends, or a colon comes with a body in the same line.
  simp only [splitSpec?]
  split
  · rename_i empty
    rw [List.isEmpty_iff] at empty
    simp only [reduceCtorEq, false_iff, empty]
    rintro ⟨rfl, named, -⟩
    exact named rfl
  · rename_i named
    rw [List.isEmpty_iff] at named
    split
    · -- Nothing follows the name.
      rename_i rest
      simp only [rest]
      grind
    · -- A colon follows, and the body has to stay in the line.
      rename_i line rest
      simp only [rest]
      split <;> rename_i broken <;> simp only [List.contains_iff_mem] at broken <;> grind
    · -- Something else follows.
      rename_i noEnd noColon
      simp only [reduceCtorEq, false_iff]
      rintro ⟨-, -, -, ⟨rest, -⟩ | rest⟩
      · exact noEnd rest
      · exact noColon _ rest

/-- What a description is split into is the name and the body of its outer form. -/
theorem splitSpec?_eq_some_iff {text name : String} {body : List Char} :
    splitSpec? (trim text.toList) = some (name.toList, body) ↔ HasOutline text name body := by
  rw [splitSpec?_cases]
  constructor
  · rintro ⟨isName, named, line, rest⟩
    have chars : ∀ char ∈ name.toList, isNameChar char = true := by
      rw [← isName]
      exact List.all_eq_true.mp List.all_takeWhile
    -- The description is its name and what follows it.
    have split : name.toList ++ (trim text.toList).dropWhile isNameChar = trim text.toList := by
      rw [← isName]
      exact List.takeWhile_append_dropWhile
    refine ⟨named, chars, line, ?_⟩
    -- Without a colon the name is the whole description.
    rcases rest with ⟨rest, empty⟩ | rest
    · rw [rest, List.append_nil] at split
      exact .inl ⟨split.symm, empty⟩
    · rw [rest] at split
      exact .inr split.symm
  · rintro ⟨named, chars, line, form⟩
    -- Neither the end nor a colon goes on with the name.
    have alone : ∀ char, ([] : List Char).head? = some char → isNameChar char = false := nofun
    have colon : ∀ char, (':' :: body).head? = some char → isNameChar char = false :=
      stop_cons (by decide)
    rcases form with ⟨form, rfl⟩ | form
    · have whole := takeWhile_append_of_stop chars alone
      have nothing := dropWhile_append_of_stop chars alone
      rw [List.append_nil] at whole nothing
      rw [form, whole, nothing]
      exact ⟨rfl, named, line, .inl ⟨rfl, rfl⟩⟩
    · rw [form, takeWhile_append_of_stop chars colon, dropWhile_append_of_stop chars colon]
      exact ⟨rfl, named, line, .inr rfl⟩

/-- A text has one outer form at most. -/
theorem HasOutline.unique {text name other : String} {body another : List Char}
    (one : HasOutline text name body) (same : HasOutline text other another) :
    name = other ∧ body = another := by
  -- The text is split in one way, whichever name and body it has.
  have split := (splitSpec?_eq_some_iff.mpr one).symm.trans (splitSpec?_eq_some_iff.mpr same)
  rw [Option.some.injEq, Prod.mk.injEq, String.toList_inj] at split
  exact split

/-- The words that an increment is written as. -/
inductive IsIncrement : List Char → Increment → Prop
  /-- The interval follows the load. -/
  | adaptive : IsIncrement "adaptive".toList .adaptive
  /-- The interval stays as it is. -/
  | passthrough : IsIncrement "passthrough".toList .passthrough
  /-- The interval grows by a step. -/
  | fixed {value : List Char} {step : UInt32} (number : IsWord value step) :
      IsIncrement value (.fixed step)

/-- The words that an interrupt policy is written as. -/
inductive IsIrq : List Char → IrqPolicy → Prop
  | on : IsIrq "on".toList .enable
  | off : IsIrq "off".toList .disable
  | ignore : IsIrq "ignore".toList .ignore

/-- A CPU list is written as a value with a semicolon for each comma, as commas would end the value;
all other characters are the same. -/
def IsCpuList (value : List Char) (list : String) : Prop :=
  list.toList = value.map fun char => if char = ';' then ',' else char

namespace Setting

/-- The key of a setting. -/
def key : Setting → String
  | workload _ => "wlt"
  | systemPercent _ => "sys"
  | cpuPercent _ => "cpu"
  | cpuExitPercent _ => "exit_cpu"
  | gfxPercent _ => "gfx"
  | marginPoints _ => "hyst_bp"
  | minInterval _ => "min_ms"
  | maxInterval _ => "max_ms"
  | increment _ => "inc"
  | activeCpus _ => "cpus"
  | irq _ => "irq"
  | epp _ => "epp"
  | epb _ => "epb"
  | itmt _ => "itmt"

/-- Whether a setting may be written with a value. -/
def IsMeantBy (value : List Char) : Setting → Prop
  | increment change => IsIncrement value change
  | irq policy => IsIrq value policy
  -- Any value is a CPU list at first.
  | activeCpus list => IsCpuList value list
  -- All other values are numbers.
  | workload number | systemPercent number | cpuPercent number | cpuExitPercent number
  | gfxPercent number | marginPoints number | minInterval number | maxInterval number
  | epp number | epb number | itmt number => IsWord value number

end Setting

/-- A CPU list is read from the value that it is written as. -/
theorem eq_cpuListOfValue_iff {value : List Char} {list : String} :
    list = cpuListOfValue value ↔ IsCpuList value list := by
  -- Reading goes through the value once, replacing character by character.
  rw [IsCpuList, ← String.toList_inj, cpuListOfValue, String.toList_ofList]

/-- A value is no two CPU lists. -/
theorem isCpuList_rightUnique : Relator.RightUnique IsCpuList := by
  -- The characters of the list are computed from those of the value.
  intro value first second one other
  exact String.toList_inj.mp (one.trans other.symm)

/-- An increment is read from the words that it is written as. -/
theorem readIncrement?_eq_some_iff {value : List Char} {change : Increment} :
    readIncrement? value = some change ↔ IsIncrement value change := by
  -- The two words are no numbers, so what is read as a step can only be one.
  have words : ∀ step, ¬IsWord "adaptive".toList step ∧ ¬IsWord "passthrough".toList step := by
    intro step
    rw [← readWord32?_eq_some_iff, ← readWord32?_eq_some_iff]
    exact ⟨nofun, nofun⟩
  constructor
  · intro read
    unfold readIncrement? at read
    split at read
    · rename_i word
      cases read
      exact word ▸ .adaptive
    · split at read
      · rename_i word
        cases read
        exact word ▸ .passthrough
      · obtain ⟨step, number, rfl⟩ := Option.map_eq_some_iff.mp read
        exact .fixed (readWord32?_eq_some_iff.mp number)
  · rintro (_ | _ | number)
    · rfl
    · rfl
    · rename_i step
      have read := readWord32?_eq_some_iff.mpr number
      have notAdaptive : value ≠ "adaptive".toList := fun same => (words step).1 (same ▸ number)
      have notPassthrough : value ≠ "passthrough".toList :=
        fun same => (words step).2 (same ▸ number)
      rw [readIncrement?, if_neg notAdaptive, if_neg notPassthrough, read]
      rfl

/-- An interrupt policy is read from the words that it is written as. -/
theorem readIrq?_eq_some_iff {value : List Char} {policy : IrqPolicy} :
    readIrq? value = some policy ↔ IsIrq value policy := by
  -- The three words are told apart by comparing them, one after the other.
  constructor
  · intro read
    unfold readIrq? at read
    split at read
    · rename_i word
      cases read
      exact word ▸ .on
    · split at read
      · rename_i word
        cases read
        exact word ▸ .off
      · split at read
        · rename_i word
          cases read
          exact word ▸ .ignore
        · contradiction
  · rintro (_ | _ | _) <;> rfl

/-- A value is no two increments. -/
theorem isIncrement_rightUnique : Relator.RightUnique IsIncrement :=
  rightUnique_of_read readIncrement?_eq_some_iff

/-- A value is no two interrupt policies. -/
theorem isIrq_rightUnique : Relator.RightUnique IsIrq :=
  rightUnique_of_read readIrq?_eq_some_iff

/-- A value that is read for one kind of settings means a setting of that kind. -/
theorem map_make_eq_some_iff {α : Type} {make : α → Setting} {key : String}
    (kind : ∀ setting : Setting, setting.key = key ↔ ∃ field, setting = make field)
    {value : List Char} {found : Option α}
    (means : ∀ field, found = some field ↔ (make field).IsMeantBy value) (setting : Setting) :
    found.map make = some setting ↔ setting.key = key ∧ setting.IsMeantBy value := by
  -- A setting of the kind is made of one field, and only the field is read.
  rw [Option.map_eq_some_iff, kind]
  constructor
  · rintro ⟨field, read, rfl⟩
    exact ⟨⟨field, rfl⟩, (means field).mp read⟩
  · rintro ⟨⟨field, rfl⟩, meant⟩
    exact ⟨field, (means field).mpr meant, rfl⟩

/-- The reader of a key finds the setting of that key which is meant by a value. -/
theorem settingReader?_spec {key : String} {reader : List Char → Option Setting}
    (known : settingReader? key = some reader) (value : List Char) (setting : Setting) :
    reader value = some setting ↔ setting.key = key ∧ setting.IsMeantBy value := by
  unfold settingReader? at known
  split at known <;> cases known
  -- An increment and an interrupt policy have words of their own.
  case h_9 =>
    exact map_make_eq_some_iff (by rintro (_ | _) <;> simp [Setting.key])
      (fun _ => readIncrement?_eq_some_iff) setting
  case h_10 =>
    -- Every value is read.
    have read : ∀ list, some (cpuListOfValue value) = some list ↔
        (Setting.activeCpus list).IsMeantBy value :=
      fun list => (Option.some_inj.trans eq_comm).trans eq_cpuListOfValue_iff
    have kind : ∀ setting : Setting, setting.key = "cpus" ↔ ∃ list, setting = .activeCpus list := by
      rintro (_ | _) <;> simp [Setting.key]
    exact map_make_eq_some_iff kind read setting
  case h_11 =>
    exact map_make_eq_some_iff (by rintro (_ | _) <;> simp [Setting.key])
      (fun _ => readIrq?_eq_some_iff) setting
  -- All other values are numbers.
  all_goals
    exact map_make_eq_some_iff (by rintro (_ | _) <;> simp [Setting.key])
      (fun _ => readWord32?_eq_some_iff) setting

/-- The keys of all settings. -/
def keys : List String :=
  ["wlt", "sys", "cpu", "exit_cpu", "gfx", "hyst_bp", "min_ms", "max_ms", "inc", "cpus", "irq",
    "epp", "epb", "itmt"]

/-- The key of a setting is among them. -/
theorem Setting.key_mem_keys (setting : Setting) : setting.key ∈ keys := by
  -- There is one key for each kind of settings.
  cases setting <;> simp [Setting.key, keys]

/-- The keys that can be read are those of the settings. -/
theorem settingReader?_isSome_iff {key : String} :
    (settingReader? key).isSome = true ↔ key ∈ keys := by
  -- The keys are compared one after the other, both when a reader is looked for and in the list.
  constructor
  · intro known
    unfold settingReader? at known
    split at known
    case h_15 => contradiction
    all_goals simp [keys]
  · intro listed
    simp only [keys, List.mem_cons, List.not_mem_nil, or_false] at listed
    rcases listed with rfl | rfl | rfl | rfl | rfl | rfl | rfl | rfl | rfl | rfl | rfl | rfl | rfl |
      rfl <;> rfl

/-- A piece that stands for a setting: it has the form of one, with a value that means it. -/
def StandsFor (piece : List Char) (setting : Setting) : Prop :=
  ∃ value, IsSetting piece setting.key value ∧ setting.IsMeantBy value

/-- What is wrong with a piece: its form, or else its key, or else its value. -/
inductive Offends (piece : List Char) : SpecError → Prop
  /-- It has not the form of a setting. -/
  | malformed (formless : ∀ key value, ¬IsSetting piece key value) :
      Offends piece (.malformed (String.ofList piece))
  /-- No setting has its key. -/
  | unknownKey {key : String} {value : List Char} (form : IsSetting piece key value)
      (unknown : key ∉ keys) : Offends piece (.unknownKey key)
  /-- No setting of its key is meant by its value. -/
  | badValue {key : String} {value : List Char} (form : IsSetting piece key value)
      (known : key ∈ keys)
      (meaningless : ∀ setting : Setting, setting.key = key → ¬setting.IsMeantBy value) :
      Offends piece (.badValue key (String.ofList value))

/-- A piece is read as the setting that it stands for. -/
theorem readSetting_of_standsFor {piece : List Char} {setting : Setting}
    (stands : StandsFor piece setting) : readSetting piece = .ok setting := by
  -- The form gives key and value, the key its reader, and the reader the setting.
  obtain ⟨value, form, meant⟩ := stands
  have known : (settingReader? setting.key).isSome = true :=
    settingReader?_isSome_iff.mpr setting.key_mem_keys
  obtain ⟨reader, known⟩ := Option.isSome_iff_exists.mp known
  have read := (settingReader?_spec known value setting).mpr ⟨rfl, meant⟩
  simp only [readSetting, splitSetting?_eq_some_iff.mpr form, String.ofList_toList, known, read]

/-- From a piece with which something is wrong nothing but the error is read. -/
theorem readSetting_of_offends {piece : List Char} {error : SpecError}
    (offends : Offends piece error) : readSetting piece = .error error := by
  -- Each offence stops the reader at its own step, when the steps before it have succeeded.
  cases offends with
  | malformed formless =>
    cases split : splitSetting? piece with
    | none => simp only [readSetting, split]
    | some parts =>
      obtain ⟨key, value⟩ := parts
      rw [← String.toList_ofList (l := key)] at split
      exact absurd (splitSetting?_eq_some_iff.mp split) (formless _ _)
  | unknownKey form unknown =>
    rename_i key value
    have missing : settingReader? key = none := by
      rw [← Option.not_isSome_iff_eq_none, settingReader?_isSome_iff]
      exact unknown
    simp only [readSetting, splitSetting?_eq_some_iff.mpr form, String.ofList_toList, missing]
  | badValue form known meaningless =>
    rename_i key value
    obtain ⟨reader, found⟩ := Option.isSome_iff_exists.mp (settingReader?_isSome_iff.mpr known)
    -- A setting that was found all the same would be meant by the value.
    have nothing : reader value = none := by
      rw [Option.eq_none_iff_forall_ne_some]
      intro setting read
      obtain ⟨same, meant⟩ := (settingReader?_spec found value setting).mp read
      exact meaningless setting same meant
    simp only [readSetting, splitSetting?_eq_some_iff.mpr form, String.ofList_toList, found,
      nothing]

/-- Every piece stands for a setting, or something is wrong with it. -/
theorem standsFor_or_offends (piece : List Char) :
    (∃ setting, StandsFor piece setting) ∨ ∃ error, Offends piece error := by
  -- The form, the key and the value are questioned in this order.
  by_cases form : ∃ key value, IsSetting piece key value
  · obtain ⟨key, value, form⟩ := form
    by_cases known : key ∈ keys
    · by_cases meant : ∃ setting : Setting, setting.key = key ∧ setting.IsMeantBy value
      · obtain ⟨setting, rfl, meant⟩ := meant
        exact .inl ⟨setting, value, form, meant⟩
      · exact .inr ⟨_, .badValue form known fun setting same means => meant ⟨setting, same, means⟩⟩
    · exact .inr ⟨_, .unknownKey form known⟩
  · exact .inr ⟨_, .malformed fun key value is => form ⟨key, value, is⟩⟩

/-- From a piece either the setting that it stands for is read, or what is wrong with it. -/
theorem readSetting_eq_iff (piece : List Char) :
    (∀ setting, readSetting piece = .ok setting ↔ StandsFor piece setting) ∧
      ∀ error, readSetting piece = .error error ↔ Offends piece error :=
  read_eq_iff (standsFor_or_offends piece) readSetting_of_standsFor readSetting_of_offends

/-- What is read from a piece is the setting that it stands for. -/
theorem readSetting_eq_ok_iff {piece : List Char} {setting : Setting} :
    readSetting piece = .ok setting ↔ StandsFor piece setting :=
  (readSetting_eq_iff piece).1 setting

/-- The error that is read from a piece is what is wrong with it. -/
theorem readSetting_eq_error_iff {piece : List Char} {error : SpecError} :
    readSetting piece = .error error ↔ Offends piece error :=
  (readSetting_eq_iff piece).2 error

end PowerGovernor.Policy
