import Mathlib.Data.List.Basic
import Mathlib.Data.List.Induction
import FormulaGrid.Session.Run

/-!
# Options, group by group

* `Group`            an option and its value, as they stand among the arguments;
* `Group.set`, `extend_groups`   groups are read one after the other, each as a whole;
* `lastOptions`      the options with the value of the last group for each field;
* `lastOptions_congr`   the order of groups for different fields does not matter;
* `Refused`          arguments that begin with no group, and the fault that they are;
* `groups_or_refused`   all arguments are groups, or groups and then a fault;
* `run_refused`      nothing is run once there is a fault;
* `options_of_groups`   what the arguments are worth.
-/

namespace FormulaGrid

open Number (readNat maxIndex)

/-! ## groups -/

/-- a text that is a count, and its number -/
structure Count where
  text : String
  number : Nat
  read : readNat maxIndex text.toList = .ok number

/-- an option and its value, which may be any text unless it is a count -/
inductive Group where
  | command (short : Bool) (formula : String)
  | rows (count : Count)
  | cols (count : Count)
  | config (path : String)
  | noConfig

/-- the arguments of a group -/
def Group.arguments : Group → List String
  | .command short formula => [if short then "-c" else "--command", formula]
  | .rows count => ["--rows", count.text]
  | .cols count => ["--cols", count.text]
  | .config path => ["--config", path]
  | .noConfig => ["--no-config"]

/-- the field that a group is for -/
def Group.flag : Group → Flag
  | .command .. => .withValue .command
  | .rows _ => .withValue .rows
  | .cols _ => .withValue .cols
  | .config _ => .withValue .config
  | .noConfig => .noConfig

def Group.formula? : Group → Option String
  | .command _ formula => some formula
  | _ => none

def Group.rows? : Group → Option Nat
  | .rows count => some count.number
  | _ => none

def Group.cols? : Group → Option Nat
  | .cols count => some count.number
  | _ => none

def Group.path? : Group → Option String
  | .config path => some path
  | _ => none

/-- for each field the value of its last group -/
def lastOptions (groups : List Group) : Options where
  command := (groups.filterMap Group.formula?).getLast?
  rows := (groups.filterMap Group.rows?).getLast?
  cols := (groups.filterMap Group.cols?).getLast?
  config := (groups.filterMap Group.path?).getLast?
  noConfig := groups.any (·.flag = .noConfig)

def argumentsOf (groups : List Group) : List String := groups.flatMap Group.arguments

theorem argumentsOf_cons (group : Group) (groups : List Group) :
    argumentsOf (group :: groups) = group.arguments ++ argumentsOf groups := rfl

/-! ## reading groups -/

/-- the options after a group -/
def Group.set (options : Options) : Group → Options
  | .command _ formula => { options with command := some formula }
  | .rows count => { options with rows := some count.number }
  | .cols count => { options with cols := some count.number }
  | .config path => { options with config := some path }
  | .noConfig => { options with noConfig := true }

theorem readCount_eq (flag : ValueFlag) (count : Count) : readCount flag count.text = .ok count.number := by
  rw [readCount, count.read]
  rfl

section
variable (options : Options) {argument : String} {flag : ValueFlag} {value : String}

theorem extend_value {next : Options} (hargument : Flag.ofArgument? argument = some (.withValue flag))
    (hset : options.set flag value = .ok next) (rest : List String) :
    options.extend (argument :: value :: rest) = next.extend rest := by
  rw [Options.extend, hargument]
  simp only [hset]

/-- a group is read as a whole, whatever follows -/
theorem extend_group (group : Group) (rest : List String) :
    options.extend (group.arguments ++ rest) = (group.set options).extend rest := by
  cases group with
  | command short formula => cases short <;> exact extend_value options rfl rfl rest
  | rows count =>
    refine extend_value options rfl ?_ rest
    rw [Options.set, readCount_eq]
    rfl
  | cols count =>
    refine extend_value options rfl ?_ rest
    rw [Options.set, readCount_eq]
    rfl
  | config path => exact extend_value options rfl rfl rest
  | noConfig => rfl

end

theorem extend_groups (groups : List Group) (options : Options) (rest : List String) :
    options.extend (argumentsOf groups ++ rest) = (groups.foldl Group.set options).extend rest := by
  induction groups generalizing options with
  | nil => rfl
  | cons group groups ih => rw [argumentsOf_cons, List.append_assoc, extend_group, ih, List.foldl_cons]

/-- a field that a group sets or leaves has the value of the last group that sets it -/
theorem foldl_set_eq {α : Type} (field : Options → Option α) (value? : Group → Option α)
    (hset : ∀ options group, field (group.set options) = (value? group).or (field options)) (groups : List Group)
    (options : Options) :
    field (groups.foldl Group.set options) = (groups.filterMap value?).getLast?.or (field options) := by
  induction groups using List.reverseRecOn with
  | nil => rfl
  | append_singleton groups group ih =>
    rw [List.foldl_concat, hset, ih, List.filterMap_append, List.getLast?_append, List.filterMap_cons]
    cases value? group with
    | none => rfl
    | some a => rfl

theorem foldl_set_noConfig (groups : List Group) (options : Options) :
    (groups.foldl Group.set options).noConfig = (groups.any (·.flag = .noConfig) || options.noConfig) := by
  induction groups generalizing options with
  | nil => rfl
  | cons group groups ih =>
    rw [List.foldl_cons, ih, List.any_cons]
    cases group with
    | noConfig => simp [Group.set, Group.flag]
    | _ => rfl

/-- **The last group for a field decides it.** -/
theorem foldl_set_eq_lastOptions (groups : List Group) : groups.foldl Group.set {} = lastOptions groups := by
  have hcommand := foldl_set_eq Options.command Group.formula? (fun _ group => by cases group <;> rfl) groups {}
  have hrows := foldl_set_eq Options.rows Group.rows? (fun _ group => by cases group <;> rfl) groups {}
  have hcols := foldl_set_eq Options.cols Group.cols? (fun _ group => by cases group <;> rfl) groups {}
  have hconfig := foldl_set_eq Options.config Group.path? (fun _ group => by cases group <;> rfl) groups {}
  have hnoConfig := foldl_set_noConfig groups {}
  rw [Option.or_none] at hcommand hrows hcols hconfig
  rw [Bool.or_false] at hnoConfig
  calc groups.foldl Group.set {}
      = ⟨_, _, _, _, _⟩ := rfl
    _ = lastOptions groups := by rw [hcommand, hrows, hcols, hconfig, hnoConfig, lastOptions]

/-! ## the order of groups -/

theorem filterMap_congr_of_flag {α : Type} (value? : Group → Option α) (flag : Flag)
    (hvalue : ∀ group, group.flag ≠ flag → value? group = none) {groups others : List Group}
    (h : groups.filter (·.flag = flag) = others.filter (·.flag = flag)) :
    groups.filterMap value? = others.filterMap value? := by
  have hfilter : ∀ gs : List Group, gs.filterMap value? = (gs.filter (·.flag = flag)).filterMap value? := by
    intro gs
    rw [List.filterMap_filter]
    refine List.filterMap_congr fun group _ => ?_
    split
    · rfl
    · next hne => exact hvalue group (by simpa using hne)
  rw [hfilter groups, hfilter others, h]

/-- only the order of the groups for one field matters -/
theorem lastOptions_congr {groups others : List Group}
    (h : ∀ flag, groups.filter (·.flag = flag) = others.filter (·.flag = flag)) :
    lastOptions groups = lastOptions others := by
  have hcommand : groups.filterMap Group.formula? = others.filterMap Group.formula? :=
    filterMap_congr_of_flag _ (.withValue .command) (fun group hne => by cases group <;> trivial) (h _)
  have hrows : groups.filterMap Group.rows? = others.filterMap Group.rows? :=
    filterMap_congr_of_flag _ (.withValue .rows) (fun group hne => by cases group <;> trivial) (h _)
  have hcols : groups.filterMap Group.cols? = others.filterMap Group.cols? :=
    filterMap_congr_of_flag _ (.withValue .cols) (fun group hne => by cases group <;> trivial) (h _)
  have hconfig : groups.filterMap Group.path? = others.filterMap Group.path? :=
    filterMap_congr_of_flag _ (.withValue .config) (fun group hne => by cases group <;> trivial) (h _)
  have hnoConfig : groups.any (·.flag = .noConfig) = others.any (·.flag = .noConfig) := by
    have hany : ∀ gs : List Group, gs.any (·.flag = .noConfig) =
        (gs.filter (·.flag = .noConfig)).any (·.flag = .noConfig) := fun gs => by
      simp only [List.any_filter, Bool.and_self]
    rw [hany groups, hany others, h]
  rw [lastOptions, lastOptions, hcommand, hrows, hcols, hconfig, hnoConfig]

/-! ## faults -/

/-- the arguments that a group begins with, and those that ask for help -/
def optionNames : List String :=
  ["-h", "--help", "-c", "--command", "--rows", "--cols", "--config", "--no-config"]

/-- the options that are followed by a value -/
def valueNames : ValueFlag → List String
  | .command => ["-c", "--command"]
  | .rows => ["--rows"]
  | .cols => ["--cols"]
  | .config => ["--config"]

/-- arguments that do not begin with a group, and why; nothing is known of what follows the fault -/
inductive Refused : List String → OptionFault → Prop where
  | help {argument} (rest) : argument ∈ ["-h", "--help"] → Refused (argument :: rest) .help
  | unexpected {argument} (rest) : argument ∉ optionNames → Refused (argument :: rest) (.unexpected argument)
  | missingValue {argument flag} : argument ∈ valueNames flag → Refused [argument] (.missingValue flag)
  | notANumber {argument flag text} (rest) : flag = .rows ∨ flag = .cols → argument ∈ valueNames flag →
      (∀ n, readNat maxIndex text.toList ≠ .ok n) → Refused (argument :: text :: rest) (.notANumber flag text)

theorem ofArgument?_eq_none_iff (argument : String) : Flag.ofArgument? argument = none ↔ argument ∉ optionNames := by
  constructor
  · intro hnone hmem
    simp only [optionNames, List.mem_cons, List.not_mem_nil, or_false] at hmem
    rcases hmem with rfl | rfl | rfl | rfl | rfl | rfl | rfl | rfl <;> cases hnone
  · intro hmem
    simp only [optionNames, List.mem_cons, List.not_mem_nil, or_false, not_or] at hmem
    simp [Flag.ofArgument?, hmem]

theorem ofArgument?_eq_value_iff (argument : String) (flag : ValueFlag) :
    Flag.ofArgument? argument = some (.withValue flag) ↔ argument ∈ valueNames flag := by
  unfold Flag.ofArgument?
  constructor
  · intro h
    split at h <;> cases h <;> decide
  · intro h
    cases flag <;> simp only [valueNames, List.mem_cons, List.not_mem_nil, or_false] at h
    · rcases h with rfl | rfl <;> rfl
    · subst h
      rfl
    · subst h
      rfl
    · subst h
      rfl

theorem ofArgument?_eq_help_iff (argument : String) :
    Flag.ofArgument? argument = some .help ↔ argument ∈ ["-h", "--help"] := by
  unfold Flag.ofArgument?
  constructor
  · intro h
    split at h <;> cases h <;> decide
  · intro h
    simp only [List.mem_cons, List.not_mem_nil, or_false] at h
    rcases h with rfl | rfl <;> rfl

theorem ofArgument?_eq_noConfig_iff (argument : String) :
    Flag.ofArgument? argument = some .noConfig ↔ argument = "--no-config" := by
  unfold Flag.ofArgument?
  constructor
  · intro h
    split at h <;> cases h
    rfl
  · rintro rfl
    rfl

theorem readCount_eq_error {text : String} (flag : ValueFlag) (h : ∀ n, readNat maxIndex text.toList ≠ .ok n) :
    readCount flag text = .error (.notANumber flag text) := by
  rw [readCount]
  cases hread : readNat maxIndex text.toList with
  | ok n => exact absurd hread (h n)
  | error cause => rfl

/-- the first fault ends the reading -/
theorem Refused.extend_eq {tail : List String} {fault : OptionFault} (h : Refused tail fault) (options : Options) :
    options.extend tail = .error fault := by
  cases h with
  | help rest hmem =>
    rw [Options.extend, (ofArgument?_eq_help_iff _).mpr hmem]
  | unexpected rest hmem =>
    rw [Options.extend, (ofArgument?_eq_none_iff _).mpr hmem]
  | missingValue hmem =>
    rw [Options.extend, (ofArgument?_eq_value_iff _ _).mpr hmem]
  | @notANumber argument flag text rest hflag hmem hno =>
    have hset : options.set flag text = .error (.notANumber flag text) := by
      rcases hflag with rfl | rfl <;> rw [Options.set, readCount_eq_error _ hno] <;> rfl
    rw [Options.extend, (ofArgument?_eq_value_iff _ _).mpr hmem]
    simp only [hset]

theorem count_or_none (value : String) :
    (∃ count : Count, count.text = value) ∨ ∀ n, readNat maxIndex value.toList ≠ .ok n := by
  cases hread : readNat maxIndex value.toList with
  | ok n => exact .inl ⟨⟨value, n, hread⟩, rfl⟩
  | error cause => exact .inr fun n => nofun

/-- an option for a value and what follows it are a group, or the value is no count -/
theorem group_or_refused {argument : String} {flag : ValueFlag} (h : argument ∈ valueNames flag) (value : String) :
    (∃ group : Group, group.arguments = [argument, value]) ∨
      ∃ fault, ∀ rest, Refused (argument :: value :: rest) fault := by
  cases flag with
  | command =>
    rcases List.mem_pair.mp h with rfl | rfl
    · exact .inl ⟨.command true value, rfl⟩
    · exact .inl ⟨.command false value, rfl⟩
  | rows =>
    rcases count_or_none value with ⟨count, rfl⟩ | hno
    · exact .inl ⟨.rows count, by rw [Group.arguments, List.mem_singleton.mp h]⟩
    · exact .inr ⟨_, fun rest => .notANumber rest (.inl rfl) h hno⟩
  | cols =>
    rcases count_or_none value with ⟨count, rfl⟩ | hno
    · exact .inl ⟨.cols count, by rw [Group.arguments, List.mem_singleton.mp h]⟩
    · exact .inr ⟨_, fun rest => .notANumber rest (.inr rfl) h hno⟩
  | config =>
    exact .inl ⟨.config value, by rw [Group.arguments, List.mem_singleton.mp h]⟩

/-- **All arguments are groups, or groups and then a fault.** -/
theorem groups_or_refused (arguments : List String) : (∃ groups, arguments = argumentsOf groups) ∨
    ∃ groups tail fault, arguments = argumentsOf groups ++ tail ∧ Refused tail fault := by
  induction hn : arguments.length using Nat.strongRecOn generalizing arguments with
  | ind n ih =>
    subst hn
    -- a group in front of arguments that are groups, or groups and a fault
    have step : ∀ (group : Group) rest, rest.length < arguments.length → arguments = group.arguments ++ rest →
        (∃ groups, arguments = argumentsOf groups) ∨
          ∃ groups tail fault, arguments = argumentsOf groups ++ tail ∧ Refused tail fault := by
      intro group rest hlt harguments
      rcases ih rest.length hlt rest rfl with ⟨groups, hrest⟩ | ⟨groups, tail, fault, hrest, hrefused⟩
      · exact .inl ⟨group :: groups, by rw [harguments, hrest, argumentsOf_cons]⟩
      · refine .inr ⟨group :: groups, tail, fault, ?_, hrefused⟩
        rw [harguments, hrest, argumentsOf_cons, List.append_assoc]
    cases arguments with
    | nil => exact .inl ⟨[], rfl⟩
    | cons argument rest =>
      cases hflag : Flag.ofArgument? argument with
      | none => exact .inr ⟨[], _, _, rfl, .unexpected rest ((ofArgument?_eq_none_iff argument).mp hflag)⟩
      | some flag =>
        cases flag with
        | help => exact .inr ⟨[], _, _, rfl, .help rest ((ofArgument?_eq_help_iff argument).mp hflag)⟩
        | noConfig =>
          obtain rfl := (ofArgument?_eq_noConfig_iff argument).mp hflag
          exact step .noConfig rest (Nat.lt_succ_self _) rfl
        | withValue flag =>
          have hname := (ofArgument?_eq_value_iff argument flag).mp hflag
          cases rest with
          | nil => exact .inr ⟨[], _, _, rfl, .missingValue hname⟩
          | cons value rest =>
            rcases group_or_refused hname value with ⟨group, hgroup⟩ | ⟨fault, hrefused⟩
            · refine step group rest ?_ (by rw [hgroup]; rfl)
              simp only [List.length_cons]
              omega
            · exact .inr ⟨[], _, fault, rfl, hrefused rest⟩

/-! ## runs -/

theorem OptionFault.code_eq (fault : OptionFault) : fault.code = if fault = .help then 0 else 1 := by
  cases fault <;> rfl

/-- **Nothing is run once there is a fault**: what is printed depends on the fault alone. -/
theorem run_refused (groups : List Group) {tail : List String} {fault : OptionFault} (h : Refused tail fault)
    (world : Surroundings) (hworld : world.arguments = argumentsOf groups ++ tail) :
    run world = (fault.lines.map .err, if fault = .help then 0 else 1) := by
  have hparse : parseOptions world.arguments = .error fault := by
    rw [hworld, parseOptions, extend_groups, h.extend_eq]
  rw [run, hparse, ← OptionFault.code_eq]

/-- **The last group for each field counts, the order of fields does not, and the first fault ends all.** Arguments that
are groups one after the other are worth the value of the last group for each field, whatever the values look like. So
they are worth the same in any order in which the groups for one field follow each other as before. Groups behind which
stands a call for help or a fault, and then anything at all, print on the standard error only: neither the input nor any
file is looked at, and the exit code is 0 or 1. There are no other arguments. -/
theorem options_of_groups :
    (∀ groups, parseOptions (argumentsOf groups) = .ok (lastOptions groups)) ∧
    (∀ groups others, (∀ flag, groups.filter (·.flag = flag) = others.filter (·.flag = flag)) →
      parseOptions (argumentsOf groups) = parseOptions (argumentsOf others)) ∧
    (∀ groups tail fault, Refused tail fault → ∀ world : Surroundings, world.arguments = argumentsOf groups ++ tail →
      run world = (fault.lines.map .err, if fault = .help then 0 else 1)) ∧
    ∀ arguments, (∃ groups, arguments = argumentsOf groups) ∨
      ∃ groups tail fault, arguments = argumentsOf groups ++ tail ∧ Refused tail fault := by
  have hparse : ∀ groups, parseOptions (argumentsOf groups) = .ok (lastOptions groups) := by
    intro groups
    rw [parseOptions, ← List.append_nil (argumentsOf groups), extend_groups, foldl_set_eq_lastOptions]
    rfl
  refine ⟨hparse, fun groups others h => ?_, fun groups tail fault h => run_refused groups h, groups_or_refused⟩
  rw [hparse, hparse, lastOptions_congr h]

/-- a value that looks like an option, two counts for one field, and a count that is none before a call for help -/
theorem options_of_rows_twice :
    parseOptions ["--rows", "3", "-c", "--rows", "--rows", "+7"] = .ok ⟨some "--rows", some 7, none, none, false⟩ ∧
      parseOptions ["--rows", "3", "-c", "--rows", "--rows", "+7"] =
        parseOptions ["-c", "--rows", "--rows", "3", "--rows", "+7"] ∧
      ∀ world : Surroundings, world.arguments = ["--rows", "3", "--cols", "x", "--help"] →
        run world = ([.err "Error: --cols expects a number, got \"x\""], 1) := by
  obtain ⟨hparse, horder, hrefused, _⟩ := options_of_groups
  let three : Group := .rows ⟨"3", 3, by decide⟩
  let seven : Group := .rows ⟨"+7", 7, by decide⟩
  let formula : Group := .command true "--rows"
  refine ⟨hparse [three, formula, seven], horder [three, formula, seven] [formula, three, seven] ?_, ?_⟩
  · rintro (_ | _ | (_ | _ | _ | _)) <;> rfl
  · intro world hworld
    have hno : readNat maxIndex "x".toList = .error .invalidDigit := rfl
    have hletter : ∀ n, readNat maxIndex "x".toList ≠ .ok n := fun n => hno ▸ nofun
    exact hrefused [three] _ _ (.notANumber ["--help"] (.inr rfl) (by decide) hletter) world hworld

end FormulaGrid
