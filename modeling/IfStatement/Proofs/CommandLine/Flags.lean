import IfStatement.CommandLine

/-! The flags around a file name are read in any order and from either side of the name. -/

namespace IfStatement

/-- Flags around a file name, each of them given at most once. -/
structure FlagPlacement where
  /-- The flags before the name. -/
  before : List Flag
  /-- The flags after the name. -/
  after : List Flag
  /-- No flag is given twice, not even on two sides of the name. -/
  distinct : (before ++ after).Nodup

/-- Whether a flag stands on either side of the name. -/
def FlagPlacement.gives (placement : FlagPlacement) (flag : Flag) : Bool :=
  (placement.before ++ placement.after).contains flag

/-- The arguments that spell the flags around a file name. -/
def FlagPlacement.around (placement : FlagPlacement) (file : String) : List String :=
  placement.before.map Flag.spelling ++ file :: placement.after.map Flag.spelling

/-- A command reads the name of a file when that name alone is enough for a request. -/
def Command.Takes (command : Command) (file : String) : Prop :=
  ∃ request, command.read .initial false [file] = .ok request

/-- Reading goes on at the program's own level or at that of a command. -/
def readLevel : Option Command → Options → Bool → List String → Except Interruption Request
  | none => readProgram
  | some command => command.read

/-- Each flag that a level knows is read as that flag. -/
theorem roleOf_spelling {level : Option Command} {flag : Flag} (known : flag ∈ flagsOf level) :
    roleOf level flag.spelling = .flag flag := by
  -- Levels and flags are few enough to compare every spelling.
  cases level with
  | none => cases flag <;> decide
  | some command =>
    cases command <;> cases flag <;> first | decide | cases known <;> contradiction

/-- A level that starts has been given no flag. -/
theorem Options.has_initial (flag : Flag) : Options.initial.has flag = false := by
  cases flag <;> rfl

private theorem Options.has_named (options : Options) (file : String) (flag : Flag) :
    Options.has { options with file := some file } flag = options.has flag := by
  cases flag <;> rfl

/-- Giving a flag adds that flag to those that had been given. -/
theorem Options.has_give (options : Options) (given flag : Flag) :
    (options.give given).has flag = (options.has flag || flag == given) := by
  cases given <;> cases flag <;> simp [Options.give, Options.has]

private theorem Options.file_give (options : Options) (given : Flag) :
    (options.give given).file = options.file := by
  cases given <;> rfl

/-- A flag that has not been given before can be given. -/
theorem Options.giveOnce_of_new {options : Options} {flag : Flag}
    (new : options.has flag = false) : options.giveOnce flag = .ok (options.give flag) := by
  simp only [Options.giveOnce, new, Bool.false_eq_true, if_false]

/-- Giving flags one after another adds all of them to those that had been given. -/
theorem Options.has_giveAll (options : Options) (flags : List Flag) (flag : Flag) :
    (flags.foldl Options.give options).has flag = (options.has flag || flags.contains flag) := by
  -- The induction is on the flags, and each of them is added to those before it.
  induction flags generalizing options with
  | nil => simp
  | cons given rest ih => rw [List.foldl_cons, ih, has_give, List.contains_cons, Bool.or_assoc]

/-- Giving flags one after another names no file. -/
theorem Options.file_giveAll (options : Options) (flags : List Flag) :
    (flags.foldl Options.give options).file = options.file := by
  -- None of the flags touches the name.
  induction flags generalizing options with
  | nil => rfl
  | cons given rest ih => rw [List.foldl_cons, ih, file_give]

private theorem Options.eq_of_has {left right : Options}
    (flags : ∀ flag, left.has flag = right.has flag) (file : left.file = right.file) :
    left = right := by
  -- Asking for each of the two flags reads off both fields.
  obtain ⟨leftJson, leftNoTokens, leftFile⟩ := left
  obtain ⟨rightJson, rightNoTokens, rightFile⟩ := right
  have json : leftJson = rightJson := flags .json
  have noTokens : leftNoTokens = rightNoTokens := flags .noTokens
  have sameFile : leftFile = rightFile := file
  rw [json, noTokens, sameFile]

/-- Flags that are given to a level that starts are all that it has been given then. -/
theorem Options.giveAll_initial (flags : List Flag) :
    flags.foldl Options.give .initial = ⟨flags.contains .json, flags.contains .noTokens, none⟩ := by
  refine Options.eq_of_has ?_ (Options.file_giveAll .initial flags)
  intro flag
  rw [Options.has_giveAll, Options.has_initial, Bool.false_or]
  cases flag <;> rfl

/-- A level gives the flag that it reads, unless something is wrong with the options so far. -/
theorem readLevel_flag {level : Option Command} {flag : Flag} (known : flag ∈ flagsOf level)
    (options : Options) (rest : List String) :
    readLevel level options false (flag.spelling :: rest) =
      (do readLevel level (← (← options.settled).giveOnce flag) false rest) := by
  have role := roleOf_spelling known
  cases level with
  | none =>
    rw [readLevel, readProgram, if_neg Bool.false_ne_true, role]
  | some command =>
    rw [readLevel, Command.read, if_neg Bool.false_ne_true, role]

/-- Flags that are new to the options are read one after another. -/
theorem readLevel_flags {level : Option Command} {options : Options} {flags : List Flag}
    (rest : List String) (known : ∀ flag ∈ flags, flag ∈ flagsOf level)
    (distinct : flags.Nodup) (fresh : ∀ flag ∈ flags, options.has flag = false)
    (named : options.file ≠ some "") :
    readLevel level options false (flags.map Flag.spelling ++ rest) =
      readLevel level (flags.foldl Options.give options) false rest := by
  -- The induction is on the flags, and the options collect those that were read.
  induction flags generalizing options with
  | nil => rfl
  | cons flag others ih =>
    obtain ⟨absent, distinctOthers⟩ := List.nodup_cons.mp distinct
    have new := fresh flag List.mem_cons_self
    -- A name that is not empty keeps the options settled at every flag.
    have settled : options.settled = .ok options := if_neg named
    have given := Options.giveOnce_of_new new
    rw [List.map_cons, List.cons_append, readLevel_flag (known flag List.mem_cons_self)]
    simp only [settled, given, bind, Except.bind]
    refine ih (fun other member => known other (List.mem_cons_of_mem flag member)) distinctOthers
      ?_ ?_
    · -- The flag just given is not among those that follow.
      intro other member
      rw [Options.has_give, fresh other (List.mem_cons_of_mem flag member), Bool.false_or]
      exact beq_false_of_ne fun same => absent (same ▸ member)
    · rw [Options.file_give]
      exact named

/-- Reading a file name keeps it for the arguments that follow. -/
theorem readLevel_file {level : Option Command} {options : Options} {file : String}
    (rest : List String) (role : roleOf level file = .file) (needed : level ≠ some .version)
    (unnamed : options.file = none) :
    readLevel level options false (file :: rest) =
      readLevel level { options with file := some file } false rest := by
  -- The name is the first one, and the level has a use for it.
  have named : options.nameFile level file = .ok { options with file := some file } := by
    refine if_neg ?_
    rw [unnamed]
    exact fun surplus => surplus.elim Bool.noConfusion needed
  cases level with
  | none =>
    rw [readLevel, readProgram, if_neg Bool.false_ne_true, role]
    simp only [named, bind, Except.bind]
  | some command =>
    rw [readLevel, Command.read, if_neg Bool.false_ne_true, role]
    simp only [named, bind, Except.bind]

/-- A command that has a use for a file name keeps it for the arguments that follow. -/
theorem Command.read_file {command : Command} {options : Options} {file : String}
    (rest : List String) (role : roleOf (some command) file = .file)
    (needed : command ≠ .version) (unnamed : options.file = none) :
    command.read options false (file :: rest) =
      command.read { options with file := some file } false rest :=
  readLevel_file rest role (fun same => needed (Option.some.inj same)) unnamed

/-- A level collects the flags around a file name, and the name with them. -/
theorem readLevel_around {level : Option Command} {file : String} (rest : List String)
    (role : roleOf level file = .file) (nonempty : file ≠ "") (needed : level ≠ some .version)
    (placement : FlagPlacement)
    (known : ∀ flag ∈ placement.before ++ placement.after, flag ∈ flagsOf level) :
    readLevel level .initial false (placement.around file ++ rest) =
      readLevel level ⟨placement.gives .json, placement.gives .noTokens, some file⟩ false rest := by
  obtain ⟨before, after, distinct⟩ := placement
  obtain ⟨distinctBefore, distinctAfter, apart⟩ := List.nodup_append.mp distinct
  -- The flags before the name are read first, then the name and then the flags after it.
  have unnamed := Options.file_giveAll .initial before
  have named : some file ≠ some "" := fun same => nonempty (Option.some.inj same)
  let middle : Options := { before.foldl Options.give .initial with file := some file }
  have given : ∀ flag, middle.has flag = before.contains flag := by
    intro flag
    rw [Options.has_named, Options.has_giveAll, Options.has_initial, Bool.false_or]
  have fresh : ∀ flag ∈ after, middle.has flag = false := by
    intro flag member
    rw [given, List.contains_eq_mem, decide_eq_false_iff_not]
    exact fun early => apart flag early flag member rfl
  -- In the end a flag has been given when it stands on either side.
  have reached : after.foldl Options.give middle =
      ⟨(before ++ after).contains .json, (before ++ after).contains .noTokens, some file⟩ := by
    refine Options.eq_of_has ?_ (Options.file_giveAll middle after)
    intro flag
    rw [Options.has_giveAll, given, ← List.contains_append]
    cases flag <;> rfl
  have split : before.map Flag.spelling ++ file :: after.map Flag.spelling ++ rest =
      before.map Flag.spelling ++ file :: (after.map Flag.spelling ++ rest) := by
    rw [List.append_assoc, List.cons_append]
  rw [FlagPlacement.around, split]
  calc readLevel level .initial false
        (before.map Flag.spelling ++ file :: (after.map Flag.spelling ++ rest))
    _ = readLevel level (before.foldl Options.give .initial) false
          (file :: (after.map Flag.spelling ++ rest)) :=
      readLevel_flags _ (fun flag member => known flag (List.mem_append_left after member))
        distinctBefore (fun flag _ => Options.has_initial flag) nofun
    _ = readLevel level middle false (after.map Flag.spelling ++ rest) :=
      readLevel_file _ role needed unnamed
    _ = readLevel level (after.foldl Options.give middle) false rest :=
      readLevel_flags rest (fun flag member => known flag (List.mem_append_right before member))
        distinctAfter fresh named
    _ = readLevel level _ false rest := by rw [reached]; rfl

/-- With nothing left to read, a command makes the request of the options that it was given. -/
theorem Command.read_nil (command : Command) {options : Options} (named : options.file ≠ some "")
    (onlyFiles : Bool) : command.read options onlyFiles [] = command.request options := by
  have settled : options.settled = .ok options := if_neg named
  simp only [Command.read, settled, bind, Except.bind]

/-- Without any file name there is nothing that a command could do. -/
theorem Command.read_unnamed {command : Command} {options : Options} (onlyFiles : Bool)
    (needed : command ≠ .version) (unnamed : options.file = none) :
    command.read options onlyFiles [] = .error (.misuse .missingFile) := by
  -- The options are settled without a name, and then the request misses one.
  rw [command.read_nil (by rw [unnamed]; exact nofun) onlyFiles, Command.request.eq_def, unnamed]
  cases command with
  | version => exact absurd rfl needed
  | check => rfl
  | tokens => rfl

/-- A command that takes a file reads its name as a file name, which is not empty. -/
theorem Command.Takes.role {command : Command} {file : String} (takes : command.Takes file)
    (needed : command ≠ .version) : roleOf (some command) file = .file ∧ file ≠ "" := by
  -- Every other role either fails at once or leaves the command without a name.
  obtain ⟨request, accepted⟩ := takes
  cases role : roleOf (some command) file with
  | file =>
    refine ⟨rfl, ?_⟩
    -- An empty name is noticed at the end of the arguments.
    rintro rfl
    rw [command.read_file [] role needed rfl] at accepted
    cases accepted
  | separator =>
    have missing := Command.read_unnamed true needed (rfl : Options.initial.file = none)
    rw [Command.read, if_neg Bool.false_ne_true, role] at accepted
    cases missing.symm.trans accepted
  | flag flag =>
    have given : Options.initial.giveOnce flag = .ok (Options.initial.give flag) :=
      Options.giveOnce_of_new (Options.has_initial flag)
    have missing := Command.read_unnamed false needed (Options.file_give .initial flag)
    rw [Command.read, if_neg Bool.false_ne_true, role] at accepted
    change (Options.initial.giveOnce flag >>= fun options => command.read options false []) =
      .ok request at accepted
    rw [given] at accepted
    cases missing.symm.trans accepted
  | command | helpCommand | help | version | unknown =>
    rw [Command.read, if_neg Bool.false_ne_true, role] at accepted
    cases accepted

/-- A long option is never a file name, whether the level knows it or not. -/
theorem longRole_ne_file (level : Option Command) (argument : String) :
    longRole level argument ≠ .file := by
  unfold longRole
  split
  · exact Role.noConfusion
  split
  · exact Role.noConfusion
  split <;> exact Role.noConfusion

/-- A level reads a name as that of a file when it has no other use for a word without a dash. -/
theorem roleOf_eq_file_iff_wordRole (level : Option Command) (name : String) :
    roleOf level name = .file ↔
      name.toList = ['-'] ∨ name.toList.head? ≠ some '-' ∧ wordRole level name = .file := by
  cases letters : name.toList with
  | nil => simp [roleOf, letters]
  | cons first rest =>
    by_cases dash : first = '-'
    · subst dash
      cases rest with
      | nil => simp [roleOf, letters]
      | cons second more =>
        -- With more behind the dash, the name is taken for an option or for the separator.
        have option : roleOf level name ≠ .file := by
          unfold roleOf
          rw [letters]
          split <;> simp_all [longRole_ne_file]
          split <;> simp
        simp [option]
    · have word : roleOf level name = wordRole level name := by
        unfold roleOf
        rw [letters]
        split <;> simp_all
      simp [word, dash]

/-- A command reads a name as that of a file unless a dash and more comes first in it. -/
theorem roleOf_eq_file_iff (command : Command) (name : String) :
    roleOf (some command) name = .file ↔ name.toList = ['-'] ∨ name.toList.head? ≠ some '-' := by
  -- A command knows nothing but file names among the words without a dash.
  rw [roleOf_eq_file_iff_wordRole]
  simp [wordRole]

/-- A command that needs a file takes every name that it reads as one and that is not empty. -/
theorem Command.takes_iff {command : Command} (needed : command ≠ .version) (file : String) :
    command.Takes file ↔ roleOf (some command) file = .file ∧ file ≠ "" := by
  constructor
  · intro takes
    exact takes.role needed
  · intro named
    obtain ⟨role, nonempty⟩ := named
    -- The name is the only argument, and the request is made of it.
    have notEmpty : some file ≠ some "" := fun same => nonempty (Option.some.inj same)
    rw [Command.Takes, command.read_file [] role needed rfl, command.read_nil notEmpty false]
    cases command with
    | version => exact absurd rfl needed
    | check | tokens => exact ⟨_, rfl⟩

/-- What one command takes for the name of a file, every other one takes that needs a file. -/
theorem Command.Takes.other {command other : Command} {file : String}
    (takes : command.Takes file) (needed : command ≠ .version) (otherNeeded : other ≠ .version) :
    other.Takes file := by
  -- No command knows a word that another one reads as a file name.
  rw [Command.takes_iff needed, roleOf_eq_file_iff] at takes
  rw [Command.takes_iff otherNeeded, roleOf_eq_file_iff]
  exact takes

/-- A command that takes a file takes it with any flags that it knows, wherever they stand. -/
theorem Command.Takes.request {command : Command} {file : String} (takes : command.Takes file)
    (needed : command ≠ .version) (placement : FlagPlacement)
    (known : ∀ flag ∈ placement.before ++ placement.after, flag ∈ flagsOf (some command)) :
    command.read .initial false (placement.around file) =
      command.request ⟨placement.gives .json, placement.gives .noTokens, some file⟩ := by
  obtain ⟨role, nonempty⟩ := takes.role needed
  have named : some file ≠ some "" := fun same => nonempty (Option.some.inj same)
  have collected := readLevel_around [] role nonempty
    (fun same => needed (Option.some.inj same)) placement known
  rw [List.append_nil] at collected
  exact collected.trans (command.read_nil named false)

/-- A command reads the arguments behind it alone, whatever options were given in front of it. -/
theorem readProgram_command {name : String} {command : Command}
    (named : Command.ofName? name = some command) {options : Options}
    (kept : options.file ≠ some "") (arguments : List String) :
    readProgram options false (name :: arguments) = command.read .initial false arguments := by
  -- Only three names are those of a command, and none of them is an option.
  have role : roleOf none name = .command command := by
    unfold Command.ofName? at named
    split at named
    · cases named
      subst name
      decide
    split at named
    · cases named
      subst name
      decide
    split at named
    · cases named
      subst name
      decide
    · cases named
  have settled : options.settled = .ok options := if_neg kept
  rw [readProgram, if_neg Bool.false_ne_true, role]
  -- The options are settled, so that they cannot spoil what the command has read.
  change (command.read .initial false arguments >>= fun request =>
    options.settled >>= fun _ => .ok request) = _
  rw [settled]
  cases command.read .initial false arguments <;> rfl

/-- The arguments behind a command are read by that command alone. -/
theorem ofArguments_command {name : String} {command : Command}
    (named : Command.ofName? name = some command) (arguments : List String) :
    Request.ofArguments (name :: arguments) = command.read .initial false arguments := by
  have unnamed : Options.initial.file ≠ some "" := nofun
  exact readProgram_command named unnamed arguments

end IfStatement
