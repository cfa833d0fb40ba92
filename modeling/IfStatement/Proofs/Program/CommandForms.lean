import IfStatement.Program
import IfStatement.Proofs.CommandLine.Flags
import Mathlib.Data.List.Perm.Basic

/-! A command line asks for the same in each of its forms, in whatever order its options stand. -/

namespace IfStatement

/-- A plain file name can be taken for nothing else, neither for a command nor for an option. -/
structure PlainFileName (name : String) : Prop where
  nonempty : name ≠ ""
  noCommand : name ∉ ["check", "tokens", "version", "help"]
  undashed : name.toList = ['-'] ∨ name.toList.head? ≠ some '-'

/-- Arguments give some flags, each of them once, and at most one file name, in any order. -/
structure GivesOptions (arguments : List String) (flags : List Flag) (file : Option String) :
    Prop where
  distinct : flags.Nodup
  plain : ∀ name ∈ file, PlainFileName name
  order : arguments.Perm (file.toList ++ flags.map Flag.spelling)

/-- Only three names are those of a command. -/
theorem exists_ofName?_of_mem {name : String} (listed : name ∈ ["check", "tokens", "version"]) :
    ∃ command, Command.ofName? name = some command := by
  simp only [List.mem_cons, List.not_mem_nil, or_false] at listed
  rcases listed with rfl | rfl | rfl
  · exact ⟨.check, rfl⟩
  · exact ⟨.tokens, rfl⟩
  · exact ⟨.version, rfl⟩

/-- Every level reads a plain file name as that of a file. -/
theorem PlainFileName.role {name : String} (plain : PlainFileName name) (level : Option Command) :
    roleOf level name = .file := by
  obtain ⟨_, noCommand, undashed⟩ := plain
  simp only [List.mem_cons, List.not_mem_nil, or_false, not_or] at noCommand
  obtain ⟨notCheck, notTokens, notVersion, notHelp⟩ := noCommand
  -- The program's own level looks for a command first, and finds none of this name.
  have word : wordRole level name = .file := by
    simp [wordRole, Command.ofName?, notCheck, notTokens, notVersion, notHelp]
  rw [roleOf_eq_file_iff_wordRole]
  exact undashed.imp_right fun other => ⟨other, word⟩

/-- Reordered spellings of flags spell the flags in another order. -/
theorem exists_flags_of_perm {arguments : List String} {flags : List Flag}
    (order : arguments.Perm (flags.map Flag.spelling)) :
    ∃ given : List Flag, arguments = given.map Flag.spelling ∧ given.Perm flags := by
  -- Mapping and reordering can change places.
  have commuted := congrFun (congrFun (List.eq_map_comp_perm Flag.spelling) arguments) flags
  exact commuted.mpr order

section Gives

variable {arguments : List String} {flags : List Flag} {file : Option String}

/-- The same options are given in any other order. -/
theorem GivesOptions.reorder (gives : GivesOptions arguments flags file) {reordered : List String}
    (order : reordered.Perm arguments) : GivesOptions reordered flags file :=
  ⟨gives.distinct, gives.plain, order.trans gives.order⟩

/-- Options with a file name are flags around that name. -/
theorem GivesOptions.exists_around {name : String}
    (gives : GivesOptions arguments flags (some name)) :
    ∃ placement : FlagPlacement, arguments = placement.around name ∧
      ∀ flag, placement.gives flag = flags.contains flag := by
  obtain ⟨distinct, _, order⟩ := gives
  have member : name ∈ arguments := order.mem_iff.mpr (List.mem_cons_self ..)
  obtain ⟨front, back, rfl⟩ := List.append_of_mem member
  -- Without the name, what is left on its two sides spells the flags.
  have sides : (front ++ back).Perm (flags.map Flag.spelling) :=
    (List.perm_middle.symm.trans order).cons_inv
  obtain ⟨given, spelled, same⟩ := exists_flags_of_perm sides
  obtain ⟨before, after, rfl, rfl, rfl⟩ := List.append_eq_map_iff.mp spelled
  refine ⟨⟨before, after, same.nodup_iff.mpr distinct⟩, rfl, ?_⟩
  intro flag
  exact same.contains_eq

/-- A level collects the options that it is given, whatever follows them. -/
theorem GivesOptions.readLevel (gives : GivesOptions arguments flags file) {level : Option Command}
    (known : ∀ flag ∈ flags, flag ∈ flagsOf level) (needed : level ≠ some .version)
    (rest : List String) :
    readLevel level .initial false (arguments ++ rest) =
      readLevel level ⟨flags.contains .json, flags.contains .noTokens, file⟩ false rest := by
  cases file with
  | none =>
    -- Without a name, the flags are all there is.
    obtain ⟨given, rfl, same⟩ := exists_flags_of_perm gives.order
    have knownGiven : ∀ flag ∈ given, flag ∈ flagsOf level :=
      fun flag member => known flag (same.mem_iff.mp member)
    have distinct : given.Nodup := same.nodup_iff.mpr gives.distinct
    rw [readLevel_flags rest knownGiven distinct (fun flag _ => Options.has_initial flag) nofun,
      Options.giveAll_initial, same.contains_eq, same.contains_eq]
  | some name =>
    obtain ⟨placement, rfl, given⟩ := gives.exists_around
    have plain := gives.plain name rfl
    have knownGiven : ∀ flag ∈ placement.before ++ placement.after, flag ∈ flagsOf level := by
      intro flag member
      have listed := given flag
      rw [FlagPlacement.gives, List.contains_iff_mem.mpr member] at listed
      exact known flag (List.contains_iff_mem.mp listed.symm)
    rw [readLevel_around rest (plain.role level) plain.nonempty needed placement knownGiven,
      given, given]

/-- Options with a file name ask for a check of that file, with the command or without it. -/
theorem GivesOptions.ofArguments {name : String}
    (gives : GivesOptions arguments flags (some name)) :
    Request.ofArguments arguments =
        .ok (.check name (flags.contains .json) (!flags.contains .noTokens)) ∧
      Request.ofArguments ("check" :: arguments) =
        .ok (.check name (flags.contains .json) (!flags.contains .noTokens)) := by
  have plain := gives.plain name rfl
  have named : some name ≠ some "" := fun same => plain.nonempty (Option.some.inj same)
  -- The program's own level knows the same flags as a check, and nothing follows the options.
  have known : ∀ level ∈ [none, some Command.check], ∀ flag ∈ flags, flag ∈ flagsOf level := by
    intro level member flag _
    simp only [List.mem_cons, List.not_mem_nil, or_false] at member
    rcases member with rfl | rfl <;> cases flag <;> decide
  constructor
  · have collected := gives.readLevel (known none (by simp)) (by decide) []
    rw [List.append_nil] at collected
    have settled : Options.settled ⟨flags.contains .json, flags.contains .noTokens, some name⟩ =
        .ok ⟨flags.contains .json, flags.contains .noTokens, some name⟩ := if_neg named
    refine collected.trans ?_
    rw [IfStatement.readLevel, readProgram, settled]
    rfl
  · have collected := gives.readLevel (known (some .check) (by simp)) (by decide) []
    rw [List.append_nil] at collected
    rw [ofArguments_command rfl]
    exact collected.trans (Command.check.read_nil named false)

/-- Options in front of a command make no difference to what it is asked for. -/
theorem GivesOptions.ofArguments_append (gives : GivesOptions arguments flags file)
    {name : String} {command : Command} (named : Command.ofName? name = some command)
    (rest : List String) :
    Request.ofArguments (arguments ++ name :: rest) = Request.ofArguments (name :: rest) := by
  have known : ∀ flag ∈ flags, flag ∈ flagsOf none := by
    intro flag _
    cases flag <;> decide
  have kept : file ≠ some "" := by
    rintro rfl
    exact (gives.plain "" rfl).nonempty rfl
  -- The level of the command starts anew, and it is never asked what came before.
  calc Request.ofArguments (arguments ++ name :: rest)
    _ = readProgram ⟨flags.contains .json, flags.contains .noTokens, file⟩ false (name :: rest) :=
      gives.readLevel known (by decide) (name :: rest)
    _ = command.read .initial false rest := readProgram_command named kept rest
    _ = Request.ofArguments (name :: rest) := (ofArguments_command named rest).symm

end Gives

/--
A file is checked alike with the command and without it, in whatever order its options stand.

Options in front of a command, and a file name among them, make no difference to that command.
-/
theorem run_command_forms (read : String → Except ReadFailure String) {arguments : List String}
    {flags : List Flag} {file : Option String} (gives : GivesOptions arguments flags file) :
    (file.isSome → run read ("check" :: arguments) = run read arguments ∧
      ∀ reordered : List String, reordered.Perm arguments →
        run read reordered = run read arguments ∧
        run read ("check" :: reordered) = run read arguments) ∧
    ∀ command ∈ ["check", "tokens", "version"], ∀ rest,
      run read (arguments ++ command :: rest) = run read (command :: rest) := by
  constructor
  · intro isSome
    obtain ⟨name, rfl⟩ := Option.isSome_iff_exists.mp isSome
    -- Every form asks for the same check, which depends on the options alone.
    have asked : ∀ reordered : List String, reordered.Perm arguments →
        run read reordered = run read arguments ∧
        run read ("check" :: reordered) = run read arguments := by
      intro reordered order
      obtain ⟨bare, _⟩ := gives.ofArguments
      obtain ⟨sameBare, same⟩ := (gives.reorder order).ofArguments
      simp only [run, bare, sameBare, same, and_self]
    exact ⟨(asked arguments (.refl arguments)).2, asked⟩
  · intro command listed rest
    obtain ⟨_, named⟩ := exists_ofName?_of_mem listed
    rw [run, run, gives.ofArguments_append named rest]

/-- A dash alone is a file name, and a missing name behind a command is not made up for by it. -/
theorem run_command_forms_dash :
    let read : String → Except ReadFailure String := fun _ => .ok "if (1 = 1) \x7b\x7d"
    GivesOptions ["--no-tokens", "-", "--json"] [.json, .noTokens] (some "-") ∧
      ["--json", "--no-tokens", "-"].Perm ["--no-tokens", "-", "--json"] ∧
      run read ["check", "--json", "--no-tokens", "-"] =
        run read ["--no-tokens", "-", "--json"] ∧
      "tokens" ∈ ["check", "tokens", "version"] ∧
      run read ["--no-tokens", "-", "--json", "tokens", "--json"] =
        run read ["tokens", "--json"] := by
  intro read
  have gives : GivesOptions ["--no-tokens", "-", "--json"] [.json, .noTokens] (some "-") := by
    refine ⟨by decide, ?_, by decide⟩
    rintro name ⟨⟩
    exact ⟨by decide, by decide, .inl (by decide)⟩
  have order : ["--json", "--no-tokens", "-"].Perm ["--no-tokens", "-", "--json"] := by decide
  obtain ⟨alike, ahead⟩ := run_command_forms read gives
  have listed : "tokens" ∈ ["check", "tokens", "version"] := by decide
  exact ⟨gives, order, ((alike rfl).2 _ order).2, listed, ahead _ listed ["--json"]⟩

end IfStatement
