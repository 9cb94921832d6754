import ParserTables.Proofs.Command.Requests

/-!
# Accepted command lines

A command line that asks for work has been read to its end. So what stands before a position on
it matters only through what has been given there and what is pending (`reaches_of_readFront`),
and what is pending may just as well be stored at once (`readFront_of_settle`,
`readCommand_of_settle`). What does not fit is never accepted later on
(`readFront_of_settle_eq_none`, `readCommand_of_settle_eq_none`).
-/

namespace ParserTables.Command

/-! ### What is pending may be stored at once -/

section Settling

variable {place : Place} {g g' : Given} {pending : Pending}

theorem stepLong_of_settle (h : pending.settle g = some g') (name : String)
    (value : Option String) :
    stepLong place g pending name value = stepLong place g' .nothing name value := by
  have hnothing : Pending.nothing.settle g' = some g' := rfl
  unfold stepLong
  rw [h, hnothing]

theorem stepShort_of_settle (h : pending.settle g = some g') (letter : Char)
    (letters : List Char) :
    stepShort place g pending (letter :: letters) =
      stepShort place g' .nothing (letter :: letters) := by
  rw [stepShort, stepShort, h]
  rfl

theorem stepInput_of_settle (h : pending.settle g = some g') (value : String) :
    stepInput g pending value = stepInput g' .nothing value := by
  cases pending with
  | nothing => cases h; rfl
  | awaiting slot => cases h
  | holding slot held =>
      cases slot with
      | input =>
          -- The second path is refused at once here, and there because the first is stored.
          obtain ⟨path, hpath, rfl⟩ := Option.map_eq_some_iff.1 h
          have hsome : path.isSome := by
            unfold storeIn at hpath
            split at hpath
            · obtain ⟨_, -, rfl⟩ := Option.map_eq_some_iff.1 hpath
              rfl
            · cases hpath
          simp [stepInput, Pending.settle, hsome]
      | _ =>
          simp only [stepInput, h]
          rfl

theorem combine_of_settle (h : pending.settle g = some g') (tail : Tail) :
    combine g pending tail = combine g' .nothing tail := by
  have hnothing : Pending.nothing.settle g' = some g' := rfl
  unfold combine
  rw [h, hnothing]

theorem readFront_of_settle (h : pending.settle g = some g') (args : List String) :
    readFront g pending args = readFront g' .nothing args := by
  induction args with
  | nil => rfl
  | cons arg args ih =>
      rw [readFront, readFront]
      cases Spelled.ofArgument arg with
      | escape => rfl
      | long name value => simp only [stepLong_of_settle h]
      | short letters =>
          cases letters with
          | nil => exact ih
          | cons letter letters => simp only [stepShort_of_settle h]
      | plain value =>
          cases pending with
          | nothing => cases h; rfl
          | awaiting slot => cases h
          | holding slot held => simp only [combine_of_settle h]

theorem readCommand_of_settle (h : pending.settle g = some g') (onlyPaths : Bool)
    (args : List String) :
    readCommand place g pending onlyPaths args = readCommand place g' .nothing onlyPaths args := by
  induction args generalizing onlyPaths with
  | nil =>
      have hnothing : Pending.nothing.settle g' = some g' := rfl
      rw [readCommand, readCommand, h, hnothing]
  | cons arg args ih =>
      rw [readCommand, readCommand]
      cases onlyPaths with
      | true => simp only [if_true, stepInput_of_settle h]
      | false =>
          simp only [Bool.false_eq_true, if_false]
          cases Spelled.ofArgument arg with
          | escape => exact ih _
          | long name value => simp only [stepLong_of_settle h]
          | short letters =>
              cases letters with
              | nil => exact ih _
              | cons letter letters => simp only [stepShort_of_settle h]
          | plain value =>
              cases pending with
              | nothing => cases h; rfl
              | awaiting slot => cases h
              | holding slot held => simp only [stepInput_of_settle h]

end Settling

section Advancing

variable {place : Place} {g g' : Given} {pending pending' : Pending} {arg : String}

/-! ### What a step can do -/

/-- What a long option does: it stores the value that comes with it, or it is turned on. -/
theorem stepLong_next {name : String} {value : Option String}
    (h : stepLong place g pending name value = .next g' pending') :
    ∃ g₁ switch, longOption? place name = some switch ∧ pending.settle g = some g₁ ∧
      ((∃ slot text, switch = .valued slot ∧ value = some text ∧ g₁.store text slot = some g' ∧
        pending' = .nothing) ∨
      (value = none ∧ g₁.turnOn place switch = .next g' pending')) := by
  unfold stepLong at h
  split at h
  · cases h
  · next slot text hoption =>
      split at h
      · next g₂ hstore =>
          obtain ⟨g₁, hsettle, hstore⟩ := Option.bind_eq_some_iff.1 hstore
          cases h
          exact ⟨g₁, _, hoption, hsettle, .inl ⟨slot, text, rfl, rfl, hstore, rfl⟩⟩
      · cases h
  · cases h
  · next switch hoption =>
      split at h
      · next g₁ hsettle => exact ⟨g₁, switch, hoption, hsettle, .inr ⟨rfl, h⟩⟩
      · cases h

/-- What letters do: the first is turned on, and then the others. -/
theorem stepShort_cons_next {letter : Char} {letters : List Char}
    (h : stepShort place g pending (letter :: letters) = .next g' pending') :
    ∃ g₁ g₂ pending₂ switch, shortOption? place letter = some switch ∧
      pending.settle g = some g₁ ∧ g₁.turnOn place switch = .next g₂ pending₂ ∧
      stepShort place g₂ pending₂ letters = .next g' pending' := by
  rw [stepShort] at h
  split at h
  · next switch g₁ hoption hsettle =>
      split at h
      · next g₂ pending₂ hturn => exact ⟨g₁, g₂, pending₂, switch, hoption, hsettle, hturn, h⟩
      · next hturn => exact absurd h (hturn _ _)
  · cases h

theorem stepInput_next {value : String} (h : stepInput g pending value = .next g' pending') :
    (∀ held, pending ≠ .holding .input held) ∧ pending.settle g = some g' ∧ g'.input = none ∧
      pending' = .holding .input value := by
  unfold stepInput at h
  split at h
  · cases h
  · next hpending =>
      split at h
      · next g₁ hsettle =>
          split at h
          · cases h
          · next hinput =>
              cases h
              exact ⟨hpending, hsettle, by simpa using hinput, rfl⟩
      · cases h

/-! ### Reading argument by argument -/

/-- An argument is read as an option, or as the value that an option waits for. -/
inductive Advances (place : Place) (g : Given) (pending : Pending) (arg : String) :
    Given → Pending → Prop
  | long {name : String} {value : Option String} {g' : Given} {pending' : Pending}
      (harg : Spelled.ofArgument arg = .long name value)
      (hstep : stepLong place g pending name value = .next g' pending') :
      Advances place g pending arg g' pending'
  | short {letters : List Char} {g' : Given} {pending' : Pending}
      (harg : Spelled.ofArgument arg = .short letters)
      (hstep : stepShort place g pending letters = .next g' pending') :
      Advances place g pending arg g' pending'
  | value {slot : Slot} (harg : Spelled.ofArgument arg = .plain arg)
      (hpending : pending = .awaiting slot) :
      Advances place g pending arg g (.holding slot arg)

theorem Advances.readFront_cons (h : Advances .front g pending arg g' pending')
    (args : List String) : readFront g pending (arg :: args) = readFront g' pending' args := by
  rw [readFront]
  cases h with
  | long harg hstep => simp only [harg, hstep]
  | short harg hstep => simp only [harg, hstep]
  | value harg hpending => simp only [harg, hpending]

theorem Spelled.ofArgument_command {place : Place} (h : command? arg = some place) :
    Spelled.ofArgument arg = .plain arg ∧ arg ≠ "help" ∧ (arg = "generate" ∨ arg = "check") := by
  unfold command? at h
  split at h
  · next harg => subst harg; exact ⟨rfl, by decide, .inl rfl⟩
  · split at h
    · next harg => subst harg; exact ⟨rfl, by decide, .inr rfl⟩
    · cases h

theorem readFront_command (harg : command? arg = some place)
    (hpending : ∀ slot, pending ≠ .awaiting slot) (args : List String) :
    readFront g pending (arg :: args) =
      combine g pending (readCommand place {} .nothing false args) := by
  obtain ⟨hplain, hhelp, -⟩ := Spelled.ofArgument_command harg
  rw [readFront]
  cases pending with
  | awaiting slot => exact absurd rfl (hpending slot)
  | _ => simp only [hplain, hhelp, if_false, harg]

/-- An argument that is read before the command belongs to an option, or it is the command, if
the command line is accepted. -/
theorem readFront_cons_cases {args : List String} {i : Invocation}
    (h : readFront g pending (arg :: args) = .run i) :
    (∃ g' pending', Advances .front g pending arg g' pending' ∧
      readFront g' pending' args = .run i) ∨
    ∃ place, command? arg = some place ∧ (∀ slot, pending ≠ .awaiting slot) ∧
      combine g pending (readCommand place {} .nothing false args) = .run i := by
  rw [readFront] at h
  cases hspelled : Spelled.ofArgument arg with
  | escape => simp only [hspelled, reduceCtorEq] at h
  | long name value =>
      simp only [hspelled] at h
      cases hstep : stepLong .front g pending name value with
      | next g' pending' =>
          simp only [hstep] at h
          exact .inl ⟨g', pending', .long hspelled hstep, h⟩
      | done request =>
          simp only [hstep] at h
          exact absurd h ((stepLong_done hstep).ne_run i)
  | short letters =>
      simp only [hspelled] at h
      cases hstep : stepShort .front g pending letters with
      | next g' pending' =>
          simp only [hstep] at h
          exact .inl ⟨g', pending', .short hspelled hstep, h⟩
      | done request =>
          simp only [hstep] at h
          exact absurd h ((stepShort_done hstep).ne_run i)
  | plain value =>
      obtain rfl := Spelled.ofArgument_eq_plain hspelled
      simp only [hspelled] at h
      split at h
      · exact .inl ⟨_, _, .value hspelled rfl, h⟩
      · next hpending =>
          split at h
          · exact absurd h ((helpOn_isAnswer args).ne_run i)
          · split at h
            · next place hplace => exact .inr ⟨place, hplace, hpending, h⟩
            · cases h

/-- An argument after a command is read. -/
inductive Accepts (place : Place) (g : Given) (pending : Pending) (arg : String) :
    Bool → Given → Pending → Bool → Prop
  | option {g' : Given} {pending' : Pending} (h : Advances place g pending arg g' pending') :
      Accepts place g pending arg false g' pending' false
  | escape (harg : arg = "--") : Accepts place g pending arg false g pending true
  | path {onlyPaths : Bool} {g' : Given} {pending' : Pending}
      (harg : onlyPaths = false →
        Spelled.ofArgument arg = .plain arg ∧ ∀ slot, pending ≠ .awaiting slot)
      (hstep : stepInput g pending arg = .next g' pending') :
      Accepts place g pending arg onlyPaths g' pending' onlyPaths

theorem Accepts.readCommand_cons {onlyPaths onlyPaths' : Bool}
    (h : Accepts place g pending arg onlyPaths g' pending' onlyPaths') (args : List String) :
    readCommand place g pending onlyPaths (arg :: args) =
      readCommand place g' pending' onlyPaths' args := by
  have hclosed {s : Spelled} (harg : Spelled.ofArgument arg = s) (hs : s ≠ .escape) :
      (arg == "--") = false := beq_escape_eq_false (harg ▸ hs)
  rw [readCommand]
  cases h with
  | option h =>
      cases h with
      | long harg hstep => simp [harg, hstep, hclosed harg (by simp)]
      | short harg hstep => simp [harg, hstep, hclosed harg (by simp)]
      | value harg hpending => simp [harg, hpending, hclosed harg (by simp)]
  | escape harg =>
      subst harg
      rfl
  | path harg hstep =>
      cases onlyPaths with
      | true => simp [hstep]
      | false =>
          obtain ⟨hplain, hpending⟩ := harg rfl
          cases pending with
          | awaiting slot => exact absurd rfl (hpending slot)
          | _ => simp [hplain, hstep, hclosed hplain (by simp)]

theorem readCommand_cons_cases {onlyPaths : Bool} {args : List String} {job : Job}
    {given : Given}
    (h : readCommand place g pending onlyPaths (arg :: args) = .complete job given) :
    ∃ g' pending' onlyPaths', Accepts place g pending arg onlyPaths g' pending' onlyPaths' ∧
      readCommand place g' pending' onlyPaths' args = .complete job given := by
  suffices haccepts : ∃ g' pending' onlyPaths',
      Accepts place g pending arg onlyPaths g' pending' onlyPaths' by
    obtain ⟨g', pending', onlyPaths', haccepts⟩ := haccepts
    exact ⟨g', pending', onlyPaths', haccepts, haccepts.readCommand_cons args ▸ h⟩
  rw [readCommand] at h
  split at h
  · next g' pending' hstep =>
      cases onlyPaths with
      | true => exact ⟨_, _, _, .path (fun hopen => absurd hopen (by decide)) hstep⟩
      | false =>
          rw [if_neg Bool.false_ne_true] at hstep
          cases hspelled : Spelled.ofArgument arg with
          | escape => exact ⟨_, _, _, .escape (Spelled.ofArgument_eq_escape hspelled)⟩
          | long name value =>
              rw [hspelled] at hstep
              exact ⟨_, _, _, .option (.long hspelled hstep)⟩
          | short letters =>
              rw [hspelled] at hstep
              exact ⟨_, _, _, .option (.short hspelled hstep)⟩
          | plain value =>
              obtain rfl := Spelled.ofArgument_eq_plain hspelled
              rw [hspelled] at hstep
              dsimp only at hstep
              split at hstep
              · exact ⟨_, _, _, .option (.value hspelled rfl)⟩
              · next hpending => exact ⟨_, _, _, .path (fun _ => ⟨hspelled, hpending⟩) hstep⟩
  · cases h

/-! ### A position on a command line -/

theorem readCommand_append {onlyPaths : Bool} {before after : List String} {job : Job}
    {given : Given}
    (h : readCommand place g pending onlyPaths (before ++ after) = .complete job given) :
    ∃ g' pending' onlyPaths', (onlyPaths = false → "--" ∉ before → onlyPaths' = false) ∧
      ∀ rest, readCommand place g pending onlyPaths (before ++ rest) =
        readCommand place g' pending' onlyPaths' rest := by
  induction before generalizing g pending onlyPaths with
  | nil => exact ⟨g, pending, onlyPaths, fun hopen _ => hopen, fun _ => rfl⟩
  | cons arg before ih =>
      obtain ⟨g₁, pending₁, onlyPaths₁, haccepts, htail⟩ := readCommand_cons_cases h
      obtain ⟨g', pending', onlyPaths', hopen, hrest⟩ := ih htail
      refine ⟨g', pending', onlyPaths', fun honly hescape => ?_, fun rest => ?_⟩
      · rw [List.mem_cons, not_or] at hescape
        refine hopen ?_ hescape.2
        cases haccepts with
        | option => rfl
        | escape harg => exact absurd harg.symm hescape.1
        | path => exact honly
      · rw [List.cons_append, haccepts.readCommand_cons, hrest]

theorem Spelled.ofArgument_ne_short_nil (arg : String) : Spelled.ofArgument arg ≠ .short [] := by
  unfold Spelled.ofArgument
  split
  · exact nofun
  · split <;> exact nofun
  · exact nofun
  · next hletters _ =>
      rintro ⟨⟩
      exact hletters rfl
  · exact nofun

/-- What does not fit after a command is found out at the end at the latest. -/
theorem readCommand_of_settle_eq_none {onlyPaths : Bool} (hpending : pending.settle g = none)
    (hheld : ∀ slot, pending ≠ .awaiting slot) (args : List String) (job : Job) (given : Given) :
    readCommand place g pending onlyPaths args ≠ .complete job given := by
  induction args generalizing onlyPaths with
  | nil => rw [readCommand_nil_of_none onlyPaths hpending]; exact nofun
  | cons arg args ih =>
      intro h
      obtain ⟨g₁, pending₁, onlyPaths₁, haccepts, hrest⟩ := readCommand_cons_cases h
      cases haccepts with
      | escape harg => exact ih hrest
      | path harg hstep =>
          rw [(stepInput_next hstep).2.1] at hpending
          cases hpending
      | option hadvances =>
          cases hadvances with
          | value harg hawaiting => exact hheld _ hawaiting
          | long harg hstep =>
              obtain ⟨g₂, -, -, hsettle, -⟩ := stepLong_next hstep
              rw [hsettle] at hpending
              cases hpending
          | @short letters _ _ harg hstep =>
              cases letters with
              | nil => exact Spelled.ofArgument_ne_short_nil arg harg
              | cons letter letters =>
                  obtain ⟨g₂, -, -, -, -, hsettle, -⟩ := stepShort_cons_next hstep
                  rw [hsettle] at hpending
                  cases hpending

theorem Spelled.eq_of_ofArgument_long {name : String}
    (h : Spelled.ofArgument arg = .long name none) : arg.toList = '-' :: '-' :: name.toList := by
  unfold Spelled.ofArgument at h
  split at h
  · cases h
  · next hlist =>
      split at h
      · cases h
      · cases h
        rw [hlist, String.toList_ofList]
  all_goals cases h

theorem stepShort_next {letters : List Char} (hletters : letters ≠ [])
    (h : stepShort place g pending letters = .next g' pending') : pending' = .nothing := by
  induction letters generalizing g pending with
  | nil => exact absurd rfl hletters
  | cons letter letters ih =>
      obtain ⟨g₁, g₂, pending₂, switch, hoption, -, hturn, hrest⟩ := stepShort_cons_next h
      obtain rfl | rfl | rfl := shortOption?_cases hoption
      · cases hturn
        cases letters with
        | nil => cases hrest; rfl
        | cons letter letters => exact ih (List.cons_ne_nil _ _) hrest
      · cases hturn
      · cases hturn

theorem longOption?_eq_valued_format {name : String}
    (h : longOption? place name = some (.valued .format)) : name = "output" := by
  unfold longOption? at h
  repeat' split at h
  all_goals simp_all

theorem stepLong_next_awaiting {name : String} {value : Option String} {slot : Slot}
    (h : stepLong place g pending name value = .next g' (.awaiting slot)) :
    longOption? place name = some (.valued slot) ∧ value = none := by
  obtain ⟨g₁, switch, hoption, -, ⟨_, _, -, -, -, hnothing⟩ | ⟨hvalue, hturn⟩⟩ := stepLong_next h
  · cases hnothing
  · cases switch with
    | valued slot => cases hturn; exact ⟨hoption, hvalue⟩
    | quiet =>
        rw [Given.turnOn] at hturn
        split at hturn <;> cases hturn
    | _ => cases hturn

/-- Before the command, only the option for the format waits for a value. -/
theorem Advances.eq_output {slot : Slot}
    (h : Advances .front g pending arg g' (.awaiting slot)) : arg = "--output" := by
  cases h with
  | long harg hstep =>
      obtain ⟨hoption, rfl⟩ := stepLong_next_awaiting hstep
      obtain rfl := longOption?_front hoption
      obtain rfl := longOption?_eq_valued_format hoption
      exact String.toList_injective (Spelled.eq_of_ofArgument_long harg)
  | short harg hstep =>
      cases stepShort_next (fun hnil => Spelled.ofArgument_ne_short_nil arg (hnil ▸ harg)) hstep

/-- The beginning of a command line that is accepted, with or without the command on it, comes
down to a state in which the rest is read. -/
inductive Reaches (g : Given) (pending : Pending) (before : List String) : Prop
  | front (g' : Given) (pending' : Pending)
      (hawaiting : ∀ slot, pending' = .awaiting slot →
        (before = [] ∧ pending = .awaiting slot) ∨ before.getLast? = some "--output")
      (hrest : ∀ rest, readFront g pending (before ++ rest) = readFront g' pending' rest)
  | command (g₀ : Given) (pending₀ : Pending) (place : Place) (g' : Given) (pending' : Pending)
      (onlyPaths : Bool) (hcommand : "generate" ∈ before ∨ "check" ∈ before)
      (hopen : "--" ∉ before → onlyPaths = false)
      (hrest : ∀ rest, readFront g pending (before ++ rest) =
        combine g₀ pending₀ (readCommand place g' pending' onlyPaths rest))

/-- A command line that is accepted is complete, and what stands before the command fits. -/
theorem combine_readCommand_eq_run {onlyPaths : Bool} {g₀ : Given} {pending₀ : Pending}
    {args : List String} {i : Invocation}
    (h : combine g₀ pending₀ (readCommand place g pending onlyPaths args) = .run i) :
    ∃ job after before, readCommand place g pending onlyPaths args = .complete job after ∧
      pending₀.settle g₀ = some before ∧
      i = ⟨job, (after.format.orElse fun _ => before.format).getD .text,
        after.quiet || before.quiet⟩ := by
  have hof := readCommand_of place g pending onlyPaths args
  cases htail : readCommand place g pending onlyPaths args with
  | answered request =>
      rw [htail] at h hof
      exact absurd h (hof.ne_run i)
  | complete job after =>
      rw [htail, combine] at h
      split at h
      · next before hsettle => cases h; exact ⟨job, after, before, rfl, hsettle, rfl⟩
      · cases h

theorem reaches_of_readFront {before after : List String} {i : Invocation}
    (h : readFront g pending (before ++ after) = .run i) : Reaches g pending before := by
  induction before generalizing g pending with
  | nil => exact .front g pending (fun _ hpending => .inl ⟨rfl, hpending⟩) fun _ => rfl
  | cons arg before ih =>
      obtain ⟨g₁, pending₁, hadvances, hrun⟩ | ⟨place, hplace, hpending, hrun⟩ :=
        readFront_cons_cases h
      · cases ih hrun with
        | front g' pending' hawaiting hrest =>
            refine .front g' pending' (fun slot hslot => .inr ?_) fun rest => ?_
            · obtain ⟨rfl, rfl⟩ | hlast := hawaiting slot hslot
              · rw [hadvances.eq_output]
                rfl
              · rw [List.getLast?_cons, hlast]
                rfl
            · rw [List.cons_append, hadvances.readFront_cons, hrest]
        | command g₀ pending₀ place g' pending' onlyPaths hcommand hopen hrest =>
            refine .command g₀ pending₀ place g' pending' onlyPaths
              (hcommand.imp (List.mem_cons_of_mem _) (List.mem_cons_of_mem _))
              (fun hescape => hopen fun hmem => hescape (List.mem_cons_of_mem _ hmem))
              fun rest => ?_
            rw [List.cons_append, hadvances.readFront_cons, hrest]
      · obtain ⟨-, -, harg⟩ := Spelled.ofArgument_command hplace
        obtain ⟨job, after, given, hcomplete, -, -⟩ := combine_readCommand_eq_run hrun
        obtain ⟨g', pending', onlyPaths, hopen, hrest⟩ := readCommand_append hcomplete
        have hcommand : "generate" ∈ arg :: before ∨ "check" ∈ arg :: before := by
          rw [List.mem_cons, List.mem_cons]
          exact harg.imp (fun h => .inl h.symm) fun h => .inl h.symm
        refine .command g pending place g' pending' onlyPaths hcommand
          (fun hescape => hopen rfl fun hmem => hescape (List.mem_cons_of_mem _ hmem))
          fun rest => ?_
        rw [List.cons_append, readFront_command hplace hpending, hrest]

end Advancing

end ParserTables.Command
