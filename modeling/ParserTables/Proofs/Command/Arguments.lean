import Mathlib.Tactic.Common
import ParserTables.Command.Arguments

/-!
# Two command lines for the same texts

The same document and the same settings can be named on the command lines of both commands.
Whatever texts stand in the two places, paths or not, the two command lines are understood alike:
both ask for their work, both ask for help, or both are misused (`request_alike`).
-/

namespace ParserTables.Command

/-! ### Spelling -/

theorem Spelled.ofArgument_eq_escape {arg : String} (h : Spelled.ofArgument arg = .escape) :
    arg = "--" := by
  unfold Spelled.ofArgument at h
  split at h
  · next hlist => exact String.toList_injective hlist
  · split at h <;> cases h
  all_goals cases h

theorem Spelled.ofArgument_eq_plain {arg value : String}
    (h : Spelled.ofArgument arg = .plain value) : value = arg := by
  unfold Spelled.ofArgument at h
  split at h
  · cases h
  · split at h <;> cases h
  · cases h; rfl
  · cases h
  · cases h; rfl

theorem beq_escape_eq_false {arg : String} (h : Spelled.ofArgument arg ≠ .escape) :
    (arg == "--") = false := by
  refine beq_eq_false_iff_ne.2 fun harg => h ?_
  subst harg
  rfl

/-- A text that is taken as a path where one is expected. -/
def IsPath (value : String) : Prop := value ≠ "" ∧ Spelled.ofArgument value = .plain value

/-! ### Command lines -/

/-- The arguments that name the settings. -/
def settingsArguments : Option String → List String
  | none => []
  | some path => ["--config", path]

/-- A command line that asks for a document to be checked. -/
def checkArguments (input : String) (config : Option String) : List String :=
  "check" :: input :: settingsArguments config

/-- A command line that asks for source on the output stream. -/
def generateArguments (input : String) (target : Target) (config : Option String) : List String :=
  "generate" :: input :: "--target" :: target.name :: settingsArguments config

theorem request_check_cons (args : List String) :
    request ("check" :: args) = combine {} .nothing (readCommand .check {} .nothing false args) :=
  rfl

theorem request_generate_cons (args : List String) :
    request ("generate" :: args) =
      combine {} .nothing (readCommand .generate {} .nothing false args) :=
  rfl

/-! ### Options with a value -/

section Options

variable {place : Place} {g g' : Given} {pending : Pending}

theorem longOption?_ne_input (place : Place) (name : String) :
    longOption? place name ≠ some (.valued .input) := by
  unfold longOption?
  repeat' split
  all_goals simp

theorem longOption?_config (hplace : place ≠ .front) :
    longOption? place "config" = some (.valued .config) := by
  cases place with
  | front => exact absurd rfl hplace
  | generate => rfl
  | check => rfl

/-- Nothing can follow an option that still lacks its value, or a value that does not fit. -/
theorem stepLong_of_settle_eq_none (hpending : pending.settle g = none) (name : String)
    (value : Option String) : stepLong place g pending name value = .done .misuse := by
  unfold stepLong
  rw [hpending]
  split <;> simp_all

theorem stepLong_valued {name : String} {slot : Slot}
    (hoption : longOption? place name = some (.valued slot))
    (hpending : pending.settle g = some g') :
    stepLong place g pending name none = .next g' (.awaiting slot) := by
  simp [stepLong, hoption, hpending, Given.turnOn]

/-- An option with a value waits for the next argument. -/
theorem readCommand_option {arg name : String} {slot : Slot}
    (harg : Spelled.ofArgument arg = .long name none)
    (hoption : longOption? place name = some (.valued slot))
    (hpending : pending.settle g = some g') (args : List String) :
    readCommand place g pending false (arg :: args) =
      readCommand place g' (.awaiting slot) false args := by
  have hescape : (arg == "--") = false := beq_escape_eq_false (by rw [harg]; exact nofun)
  rw [readCommand]
  simp only [Bool.false_eq_true, if_false, harg]
  rw [stepLong_valued hoption hpending, hescape]
  rfl

/-- An option that waits for its value takes the next argument, if it is no option itself. -/
theorem readCommand_awaiting_plain {slot : Slot} {value : String}
    (hvalue : Spelled.ofArgument value = .plain value) (args : List String) :
    readCommand place g (.awaiting slot) false (value :: args) =
      readCommand place g (.holding slot value) false args := by
  have hescape : (value == "--") = false := beq_escape_eq_false (by rw [hvalue]; exact nofun)
  rw [readCommand, hescape]
  simp [hvalue]

/-- The end of a command line whose last option lacks its value. -/
theorem readCommand_awaiting_last {slot : Slot} {value : String}
    (hvalue : Spelled.ofArgument value ≠ .plain value) :
    readCommand place g (.awaiting slot) false [value] = .answered .misuse := by
  have hsettle : (Pending.awaiting slot).settle g = none := rfl
  rw [readCommand]
  cases hspelled : Spelled.ofArgument value with
  | escape => simp [readCommand, hsettle]
  | long name value => simp [stepLong_of_settle_eq_none hsettle]
  | short letters =>
      cases letters with
      | nil => simp [stepShort, readCommand, hsettle]
      | cons letter letters => simp [stepShort, hsettle]
  | plain value' => exact absurd (Spelled.ofArgument_eq_plain hspelled ▸ hspelled) hvalue

/-- The option for the target, with the name of a target. -/
theorem readCommand_target (hpending : pending.settle g = some g') (target : Target)
    (args : List String) :
    readCommand .generate g pending false ("--target" :: target.name :: args) =
      readCommand .generate g' (.holding .target target.name) false args := by
  have hoption : Spelled.ofArgument "--target" = .long "target" none := rfl
  have hname : Spelled.ofArgument target.name = .plain target.name := by cases target <;> rfl
  rw [readCommand_option hoption rfl hpending, readCommand_awaiting_plain hname]

/-- What the end of a command line makes of what has been given. -/
def finish (place : Place) (g : Given) : Tail :=
  match job? place g with
  | some job => .complete job g
  | none => .answered .misuse

theorem readCommand_nil (onlyPaths : Bool) (hpending : pending.settle g = some g') :
    readCommand place g pending onlyPaths [] = finish place g' := by
  simp only [readCommand, hpending]
  rfl

theorem readCommand_nil_of_none (onlyPaths : Bool) (hpending : pending.settle g = none) :
    readCommand place g pending onlyPaths [] = .answered .misuse := by
  simp only [readCommand, hpending]

/-- The option for the settings. -/
theorem readCommand_settings (hplace : place ≠ .front) (hpending : pending.settle g = some g')
    (args : List String) :
    readCommand place g pending false ("--config" :: args) =
      readCommand place g' (.awaiting .config) false args := by
  have hoption : Spelled.ofArgument "--config" = .long "config" none := rfl
  exact readCommand_option hoption (longOption?_config hplace) hpending args

/-- An option after something that does not fit. -/
theorem readCommand_long_of_none {arg name : String} {value : Option String}
    (harg : Spelled.ofArgument arg = .long name value) (hpending : pending.settle g = none)
    (args : List String) :
    readCommand place g pending false (arg :: args) = .answered .misuse := by
  rw [readCommand]
  simp only [Bool.false_eq_true, if_false, harg]
  rw [stepLong_of_settle_eq_none hpending]

/-! ### The settings at the end of a command line -/

theorem settle_settings (hg : g.config = none) (path : String) :
    (Pending.holding .config path).settle g =
      if path = "" then none else some { g with config := some path } := by
  simp only [Pending.settle, Given.store, storeIn, hg, path?]
  split <;> rfl

/-- The settings are taken if they are named by a path. -/
theorem readCommand_settingsArguments (hplace : place ≠ .front)
    (hpending : pending.settle g = some g') (hg : g'.config = none) {config : Option String}
    (hconfig : ∀ path ∈ config, IsPath path) :
    readCommand place g pending false (settingsArguments config) =
      finish place { g' with config := config } := by
  cases config with
  | none =>
      rw [settingsArguments, readCommand_nil false hpending, ← hg]
  | some path =>
      obtain ⟨hne, hplain⟩ := hconfig path rfl
      rw [settingsArguments, readCommand_settings hplace hpending,
        readCommand_awaiting_plain hplain]
      exact readCommand_nil _ (by rw [settle_settings hg, if_neg hne])

theorem readCommand_settingsArguments_of_not (hplace : place ≠ .front)
    (hpending : pending.settle g = some g') (hg : g'.config = none) {path : String}
    (hpath : ¬ IsPath path) :
    readCommand place g pending false (settingsArguments (some path)) = .answered .misuse := by
  rw [settingsArguments, readCommand_settings hplace hpending]
  by_cases hplain : Spelled.ofArgument path = .plain path
  · have hempty : path = "" := by
      by_contra hne
      exact hpath ⟨hne, hplain⟩
    rw [readCommand_awaiting_plain hplain]
    exact readCommand_nil_of_none _ (by rw [settle_settings hg, if_pos hempty])
  · exact readCommand_awaiting_last hplain

end Options

/-! ### Command lines without a document -/

section Barren

variable {place : Place} {g g' : Given} {pending : Pending}

/-- What has been given does not name a document, or does not fit. -/
def Barren (g : Given) (pending : Pending) : Prop :=
  ∀ g', pending.settle g = some g' → g'.input = none

theorem readCommand_nil_of_barren (h : Barren g pending) (onlyPaths : Bool) :
    readCommand place g pending onlyPaths [] = .answered .misuse := by
  cases hsettle : pending.settle g with
  | none => exact readCommand_nil_of_none _ hsettle
  | some g' =>
      rw [readCommand_nil _ hsettle, finish]
      cases place <;> simp [job?, h g' hsettle]

theorem barren_awaiting (slot : Slot) : Barren g (.awaiting slot) := nofun

theorem barren_nothing (hg : g.input = none) : Barren g .nothing := by
  intro g' h
  cases h
  exact hg

/-- A value for anything but the document names no document. -/
theorem Given.store_input {slot : Slot} {value : String} (hslot : slot ≠ .input)
    (h : g.store value slot = some g') : g'.input = g.input := by
  cases slot with
  | input => exact absurd rfl hslot
  | _ =>
      obtain ⟨v, -, rfl⟩ := Option.map_eq_some_iff.1 h
      rfl

theorem barren_holding {slot : Slot} (hslot : slot ≠ .input) (hg : g.input = none)
    (value : String) : Barren g (.holding slot value) :=
  fun _ h => (Given.store_input hslot h).trans hg

theorem readCommand_settingsArguments_of_barren (hplace : place ≠ .front)
    (h : Barren g pending) (config : Option String) :
    readCommand place g pending false (settingsArguments config) = .answered .misuse := by
  cases config with
  | none => exact readCommand_nil_of_barren h false
  | some path =>
      have hoption : Spelled.ofArgument "--config" = .long "config" none := rfl
      rw [settingsArguments]
      cases hsettle : pending.settle g with
      | none => exact readCommand_long_of_none hoption hsettle _
      | some g' =>
          rw [readCommand_settings hplace hsettle]
          by_cases hplain : Spelled.ofArgument path = .plain path
          · rw [readCommand_awaiting_plain hplain]
            exact readCommand_nil_of_barren (barren_holding (by decide) (h g' hsettle) path) _
          · exact readCommand_awaiting_last hplain

theorem readCommand_target_of_barren (h : Barren g pending) (target : Target)
    (config : Option String) :
    readCommand .generate g pending false
      ("--target" :: target.name :: settingsArguments config) = .answered .misuse := by
  have hoption : Spelled.ofArgument "--target" = .long "target" none := rfl
  cases hsettle : pending.settle g with
  | none => exact readCommand_long_of_none hoption hsettle _
  | some g' =>
      rw [readCommand_target hsettle]
      exact readCommand_settingsArguments_of_barren (by decide)
        (barren_holding (by decide) (h g' hsettle) _) config

/-! ### The first argument after a command -/

theorem longOption?_eq_help {name : String} {full : Bool}
    (h : longOption? place name = some (.help full)) : name = "help" ∧ full = true := by
  unfold longOption? at h
  repeat' split at h
  all_goals simp_all

theorem longOption?_eq_version {name : String} (h : longOption? place name = some .version) :
    place = .front := by
  unfold longOption? at h
  repeat' split at h
  all_goals simp_all

/-- An option that comes first asks for help, is misused, or does not name a document. -/
theorem stepLong_first (hplace : place ≠ .front) {name : String} {value : Option String}
    (hhelp : ¬ (name = "help" ∧ value = none)) :
    stepLong place {} .nothing name value = .done .misuse ∨
      ∃ g pending, stepLong place {} .nothing name value = .next g pending ∧ Barren g pending := by
  cases hoption : longOption? place name with
  | none => exact .inl (by simp [stepLong, hoption])
  | some switch =>
      cases value with
      | none =>
          have hstep : stepLong place {} .nothing name none = Given.turnOn place {} switch := by
            cases switch <;> simp [stepLong, hoption, Pending.settle]
          rw [hstep]
          cases switch with
          | valued slot => exact .inr ⟨_, _, rfl, barren_awaiting slot⟩
          | quiet => exact .inr ⟨_, _, rfl, barren_nothing rfl⟩
          | verbose => exact .inr ⟨_, _, rfl, barren_nothing rfl⟩
          | help full => exact absurd ⟨(longOption?_eq_help hoption).1, rfl⟩ hhelp
          | version => exact absurd (longOption?_eq_version hoption) hplace
      | some value =>
          cases switch with
          | valued slot =>
              have hslot : slot ≠ .input := by
                rintro rfl
                exact longOption?_ne_input place name hoption
              cases hstore : Given.store {} value slot with
              | none => exact .inl (by simp [stepLong, hoption, Pending.settle, hstore])
              | some g =>
                  refine .inr ⟨g, .nothing, by simp [stepLong, hoption, Pending.settle, hstore], ?_⟩
                  exact barren_nothing (Given.store_input hslot hstore)
          | _ => exact .inl (by simp [stepLong, hoption])

/-- Letters that come first ask for help after every command alike, or name no document. -/
theorem stepShort_first (letters : List Char) :
    (∃ full, ∀ place ≠ .front,
      stepShort place {} .nothing letters = .done (.help place.topic full)) ∨
    ∀ place ≠ .front, stepShort place {} .nothing letters = .done .misuse ∨
      stepShort place {} .nothing letters = .next {} .nothing := by
  induction letters with
  | nil => exact .inr fun _ _ => .inr rfl
  | cons letter letters ih =>
      by_cases hv : letter = 'v'
      · subst hv
        exact ih
      by_cases hh : letter = 'h'
      · subst hh
        exact .inl ⟨false, fun _ _ => rfl⟩
      refine .inr fun place hplace => .inl ?_
      have hoption : shortOption? place letter = none := by
        simp [shortOption?, hv, hh, hplace]
      simp [stepShort, hoption]

/-- The first argument after a command names no document, whatever follows it. -/
def OpensBarren (arg : String) : Prop :=
  ∀ place ≠ .front, ∀ args, readCommand place {} .nothing false (arg :: args) = .answered .misuse ∨
    ∃ g pending, Barren g pending ∧
      readCommand place {} .nothing false (arg :: args) = readCommand place g pending false args

theorem OpensBarren.readCommand_settingsArguments {input : String} (h : OpensBarren input)
    (hplace : place ≠ .front) (config : Option String) :
    readCommand place {} .nothing false (input :: settingsArguments config) =
      .answered .misuse := by
  obtain heq | ⟨g, pending, hbarren, heq⟩ := h place hplace (settingsArguments config)
  · exact heq
  · rw [heq, readCommand_settingsArguments_of_barren hplace hbarren]

theorem OpensBarren.readCommand_target {input : String} (h : OpensBarren input) (target : Target)
    (config : Option String) :
    readCommand .generate {} .nothing false
      (input :: "--target" :: target.name :: settingsArguments config) = .answered .misuse := by
  obtain heq | ⟨g, pending, hbarren, heq⟩ :=
    h .generate (by decide) ("--target" :: target.name :: settingsArguments config)
  · exact heq
  · rw [heq, readCommand_target_of_barren hbarren]

/-- After two hyphens there are only paths, and there must be one of them. -/
theorem readCommand_escape (place : Place) {args : List String} (hargs : args.length ≠ 1) :
    readCommand place {} .nothing false ("--" :: args) = .answered .misuse := by
  have hescape : readCommand place {} .nothing false ("--" :: args) =
    readCommand place {} .nothing true args := rfl
  rw [hescape]
  match args with
  | [] => exact readCommand_nil_of_barren (barren_nothing rfl) true
  | [_] => exact absurd rfl hargs
  | _ :: _ :: _ => rfl

theorem readCommand_short {arg : String} {letters : List Char}
    (harg : Spelled.ofArgument arg = .short letters) (place : Place) (args : List String) :
    readCommand place {} .nothing false (arg :: args) =
      match stepShort place {} .nothing letters with
      | .next g pending => readCommand place g pending false args
      | .done request => .answered request := by
  have hescape : (arg == "--") = false := beq_escape_eq_false (by rw [harg]; exact nofun)
  rw [readCommand, harg, hescape]
  rfl

theorem readCommand_long {arg name : String} {value : Option String}
    (harg : Spelled.ofArgument arg = .long name value) (place : Place) (args : List String) :
    readCommand place {} .nothing false (arg :: args) =
      match stepLong place {} .nothing name value with
      | .next g pending => readCommand place g pending false args
      | .done request => .answered request := by
  have hescape : (arg == "--") = false := beq_escape_eq_false (by rw [harg]; exact nofun)
  rw [readCommand, harg, hescape]
  rfl

theorem readCommand_plain {arg : String} (harg : Spelled.ofArgument arg = .plain arg)
    (place : Place) (args : List String) :
    readCommand place {} .nothing false (arg :: args) =
      readCommand place {} (.holding .input arg) false args := by
  have hescape : (arg == "--") = false := beq_escape_eq_false (by rw [harg]; exact nofun)
  rw [readCommand, harg, hescape]
  rfl

/-- The first argument after a command is a path, or asks for help, or names no document; it is
two hyphens otherwise. -/
theorem first_argument (arg : String) :
    IsPath arg ∨ arg = "--" ∨ OpensBarren arg ∨
      ∃ full, ∀ place ≠ .front, ∀ args,
        readCommand place {} .nothing false (arg :: args) =
          .answered (.help place.topic full) := by
  cases hspelled : Spelled.ofArgument arg with
  | escape => exact .inr (.inl (Spelled.ofArgument_eq_escape hspelled))
  | long name value =>
      by_cases hhelp : name = "help" ∧ value = none
      · obtain ⟨rfl, rfl⟩ := hhelp
        refine .inr (.inr (.inr ⟨true, fun place hplace args => ?_⟩))
        rw [readCommand_long hspelled]
        cases place <;> rfl
      · refine .inr (.inr (.inl fun place hplace args => ?_))
        rw [readCommand_long hspelled]
        obtain hstep | ⟨g, pending, hstep, hbarren⟩ := stepLong_first hplace hhelp
        · exact .inl (by rw [hstep])
        · exact .inr ⟨g, pending, hbarren, by rw [hstep]⟩
  | short letters =>
      obtain ⟨full, hstep⟩ | hstep := stepShort_first letters
      · refine .inr (.inr (.inr ⟨full, fun place hplace args => ?_⟩))
        rw [readCommand_short hspelled, hstep place hplace]
      · refine .inr (.inr (.inl fun place hplace args => ?_))
        rw [readCommand_short hspelled]
        obtain hstep | hstep := hstep place hplace
        · exact .inl (by rw [hstep])
        · exact .inr ⟨{}, .nothing, barren_nothing rfl, by rw [hstep]⟩
  | plain value =>
      obtain rfl := Spelled.ofArgument_eq_plain hspelled
      by_cases hempty : value = ""
      · subst hempty
        refine .inr (.inr (.inl fun place _ args => .inr ⟨{}, .holding .input "", ?_, ?_⟩))
        · intro g' h
          cases h
        · exact readCommand_plain hspelled place args
      · exact .inl ⟨hempty, hspelled⟩

end Barren

/-! ### The two commands on the same document -/

section Alike

variable {input : String} {config : Option String}

theorem settle_input (hinput : IsPath input) :
    (Pending.holding .input input).settle {} = some { input := some input } := by
  simp [Pending.settle, Given.store, storeIn, path?, hinput.1]

theorem settle_target (input : String) (target : Target) :
    (Pending.holding .target target.name).settle { input := some input } =
      some { input := some input, target := some target } := by
  cases target <;> rfl

theorem request_checkArguments (hinput : IsPath input) (hconfig : ∀ path ∈ config, IsPath path) :
    request (checkArguments input config) = .run ⟨.check input config, .text, false⟩ := by
  rw [checkArguments, request_check_cons, readCommand_plain hinput.2,
    readCommand_settingsArguments (by decide) (settle_input hinput) rfl hconfig]
  rfl

theorem request_generateArguments (hinput : IsPath input)
    (hconfig : ∀ path ∈ config, IsPath path) (target : Target) :
    request (generateArguments input target config) =
      .run ⟨.generate input target none config, .text, false⟩ := by
  rw [generateArguments, request_generate_cons, readCommand_plain hinput.2,
    readCommand_target (settle_input hinput),
    readCommand_settingsArguments (by decide) (settle_target input target) rfl hconfig]
  rfl

/-- How the two commands understand the same texts in the places of the document and of the
settings: both have their work to do, or both give help, or both are misused. -/
inductive Alike (input : String) (config : Option String) : Prop
  | run : request (checkArguments input config) = .run ⟨.check input config, .text, false⟩ →
      (∀ target, request (generateArguments input target config) =
        .run ⟨.generate input target none config, .text, false⟩) → Alike input config
  | help (full : Bool) : request (checkArguments input config) = .help .check full →
      (∀ target, request (generateArguments input target config) = .help .generate full) →
      Alike input config
  | misuse : request (checkArguments input config) = .misuse →
      (∀ target, request (generateArguments input target config) = .misuse) → Alike input config

theorem alike_of_isPath (hinput : IsPath input) : Alike input config := by
  by_cases hconfig : ∀ path ∈ config, IsPath path
  · exact .run (request_checkArguments hinput hconfig) (request_generateArguments hinput hconfig)
  · push Not at hconfig
    obtain ⟨path, rfl, hpath⟩ := hconfig
    refine .misuse ?_ fun target => ?_
    · rw [checkArguments, request_check_cons, readCommand_plain hinput.2,
        readCommand_settingsArguments_of_not (by decide) (settle_input hinput) rfl hpath]
      rfl
    · rw [generateArguments, request_generate_cons, readCommand_plain hinput.2,
        readCommand_target (settle_input hinput),
        readCommand_settingsArguments_of_not (by decide) (settle_target input target) rfl hpath]
      rfl

/-- Two texts, whatever they are, stand for the same on both command lines. -/
theorem request_alike (input : String) (config : Option String) : Alike input config := by
  obtain hinput | rfl | hbarren | ⟨full, hhelp⟩ := first_argument input
  · exact alike_of_isPath hinput
  · refine .misuse ?_ fun target => ?_
    · rw [checkArguments, request_check_cons, readCommand_escape]
      · rfl
      · cases config <;> simp [settingsArguments]
    · rw [generateArguments, request_generate_cons, readCommand_escape]
      · rfl
      · simp
  · refine .misuse ?_ fun target => ?_
    · rw [checkArguments, request_check_cons,
        hbarren.readCommand_settingsArguments (by decide)]
      rfl
    · rw [generateArguments, request_generate_cons, hbarren.readCommand_target]
      rfl
  · refine .help full ?_ fun target => ?_
    · rw [checkArguments, request_check_cons, hhelp .check (by decide)]
      rfl
    · rw [generateArguments, request_generate_cons, hhelp .generate (by decide)]
      rfl

end Alike

end ParserTables.Command
