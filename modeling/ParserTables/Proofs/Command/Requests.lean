import ParserTables.Proofs.Command.Arguments

/-!
# Command lines that ask for source

The only work of the command to check is to check. So a command line does not ask for source if
the command to check stands on it and no command to generate stands before, whatever the other
arguments are (`request_check_not_generates`).
-/

namespace ParserTables.Command

/-- The request is to generate source, into a file or to the output stream. -/
def Request.Generates : Request → Prop
  | .run i => ∃ input target out config, i.job = .generate input target out config
  | _ => False

/-- The request asks for no work: there is help, a version or a complaint to be given. -/
def Request.IsAnswer : Request → Prop
  | .run _ => False
  | _ => True

theorem Request.IsAnswer.not_generates {request : Request} (h : request.IsAnswer) :
    ¬ request.Generates := by
  cases request with
  | run i => exact h.elim
  | _ => exact id

theorem Request.IsAnswer.ne_run {request : Request} (h : request.IsAnswer) (i : Invocation) :
    request ≠ .run i := by
  rintro rfl
  exact h

section Answers

variable {place : Place} {g : Given} {pending : Pending} {request : Request}

/-! An answer that is known before the end of the command line is no work to do. -/

theorem turnOn_done {switch : Switch} (h : g.turnOn place switch = .done request) :
    request.IsAnswer := by
  cases switch with
  | quiet =>
      rw [Given.turnOn] at h
      split at h
      · cases h; trivial
      · cases h
  | _ => cases h <;> trivial

theorem stepLong_done {name : String} {value : Option String}
    (h : stepLong place g pending name value = .done request) : request.IsAnswer := by
  unfold stepLong at h
  split at h
  · cases h; trivial
  · split at h
    · cases h
    · cases h; trivial
  · cases h; trivial
  · split at h
    · exact turnOn_done h
    · cases h; trivial

theorem stepShort_done {letters : List Char}
    (h : stepShort place g pending letters = .done request) : request.IsAnswer := by
  induction letters generalizing g pending with
  | nil => cases h
  | cons letter letters ih =>
      rw [stepShort] at h
      split at h
      · split at h
        · exact ih h
        · exact turnOn_done h
      · cases h; trivial

theorem stepInput_done {value : String} (h : stepInput g pending value = .done request) :
    request.IsAnswer := by
  unfold stepInput at h
  split at h
  · cases h; trivial
  · split at h
    · split at h
      · cases h; trivial
      · cases h
    · cases h; trivial

/-- What is read after a command is the work of this command, or an answer. -/
def Tail.Of (place : Place) : Tail → Prop
  | .complete job given => job? place given = some job
  | .answered request => request.IsAnswer

theorem readCommand_of (place : Place) (g : Given) (pending : Pending) (onlyPaths : Bool)
    (args : List String) : (readCommand place g pending onlyPaths args).Of place := by
  induction args generalizing g pending onlyPaths with
  | nil =>
      rw [readCommand]
      split
      · split
        · assumption
        · trivial
      · trivial
  | cons arg args ih =>
      rw [readCommand]
      split
      · exact ih _ _ _
      · next request hstep =>
          split at hstep
          · exact stepInput_done hstep
          · split at hstep
            · cases hstep
            · exact stepLong_done hstep
            · exact stepShort_done hstep
            · split at hstep
              · cases hstep
              · exact stepInput_done hstep

theorem combine_check (g : Given) (pending : Pending) (args : List String) :
    ¬ (combine g pending (readCommand .check {} .nothing false args)).Generates := by
  have hof := readCommand_of .check {} .nothing false args
  cases htail : readCommand .check {} .nothing false args with
  | answered request =>
      rw [htail] at hof
      exact hof.not_generates
  | complete job given =>
      rw [htail] at hof
      obtain ⟨input, -, hjob⟩ := Option.bind_eq_some_iff.1 hof
      obtain rfl : Job.check input given.config = job := Option.some.inj hjob
      rw [combine]
      split
      · rintro ⟨_, _, _, _, h⟩
        cases h
      · exact id

theorem helpOn_isAnswer (args : List String) : (helpOn args).IsAnswer := by
  unfold helpOn
  repeat' split
  all_goals trivial

theorem combine_of_settle_eq_none (hpending : pending.settle g = none) (args : List String) :
    (combine g pending (readCommand place {} .nothing false args)).IsAnswer := by
  have hof := readCommand_of place {} .nothing false args
  cases htail : readCommand place {} .nothing false args with
  | answered request => rwa [htail] at hof
  | complete job given =>
      rw [combine, hpending]
      trivial

/-- What stands before a command and does not fit is found out after the command at the latest. -/
theorem readFront_of_settle_eq_none (hpending : pending.settle g = none)
    (hheld : ∀ slot, pending ≠ .awaiting slot) (args : List String) :
    (readFront g pending args).IsAnswer := by
  induction args with
  | nil => trivial
  | cons arg args ih =>
      rw [readFront]
      split
      · trivial
      · rw [stepLong_of_settle_eq_none hpending]
        trivial
      · next letters _ =>
          cases letters with
          | nil => exact ih
          | cons letter letters =>
              have hstep : stepShort .front g pending (letter :: letters) = .done .misuse := by
                rw [stepShort, hpending]
                split <;> simp_all
              rw [hstep]
              trivial
      · split
        · exact absurd rfl (hheld _)
        · split
          · exact helpOn_isAnswer args
          · split
            · exact combine_of_settle_eq_none hpending args
            · trivial

/-! ### What stands before the command -/

/-- Before the command, only the option for the format has a value. -/
theorem longOption?_front {name : String} {slot : Slot}
    (h : longOption? .front name = some (.valued slot)) : slot = .format := by
  unfold longOption? at h
  repeat' split at h
  all_goals simp_all

/-- What waits for its value before the command is the option for the format. -/
def AwaitsFormat (pending : Pending) : Prop := ∀ slot, pending = .awaiting slot → slot = .format

theorem awaitsFormat_nothing : AwaitsFormat .nothing := nofun

theorem holding_ne_awaiting (slot : Slot) (value : String) (slot' : Slot) :
    Pending.holding slot value ≠ .awaiting slot' := nofun

theorem awaitsFormat_holding (slot : Slot) (value : String) :
    AwaitsFormat (.holding slot value) :=
  fun slot' h => absurd h (holding_ne_awaiting slot value slot')

theorem stepLong_front {name : String} {value : Option String} {g' : Given} {pending' : Pending}
    (h : stepLong .front g pending name value = .next g' pending') : AwaitsFormat pending' := by
  unfold stepLong at h
  split at h
  · cases h
  · split at h
    · cases h; exact awaitsFormat_nothing
    · cases h
  · cases h
  · next switch hoption =>
      split at h
      · cases switch with
        | valued slot =>
            cases h
            rintro _ ⟨⟩
            exact longOption?_front hoption
        | quiet =>
            rw [Given.turnOn] at h
            split at h <;> cases h
            exact awaitsFormat_nothing
        | verbose => cases h; exact awaitsFormat_nothing
        | help full => cases h
        | version => cases h
      · cases h

/-- A letter alone has no value, and does not keep the run quiet. -/
theorem shortOption?_cases {letter : Char} {switch : Switch}
    (h : shortOption? place letter = some switch) :
    switch = .verbose ∨ switch = .help false ∨ switch = .version := by
  unfold shortOption? at h
  repeat' split at h
  all_goals simp_all

theorem stepShort_front {letters : List Char} {g' : Given} {pending' : Pending}
    (hpending : AwaitsFormat pending)
    (h : stepShort .front g pending letters = .next g' pending') : AwaitsFormat pending' := by
  induction letters generalizing g pending with
  | nil => cases h; exact hpending
  | cons letter letters ih =>
      rw [stepShort] at h
      split at h
      · next hoption _ =>
          obtain rfl | rfl | rfl := shortOption?_cases hoption
          · exact ih awaitsFormat_nothing h
          · cases h
          · cases h
      · cases h

theorem readFront_check {before : List String} (hbefore : "generate" ∉ before)
    (hpending : AwaitsFormat pending) (args : List String) :
    ¬ (readFront g pending (before ++ "check" :: args)).Generates := by
  induction before generalizing g pending with
  | nil =>
      cases pending with
      | nothing => exact combine_check g .nothing args
      | awaiting slot =>
          obtain rfl := hpending slot rfl
          have hsettle : (Pending.holding .format "check").settle g = none := by
            cases hformat : g.format <;> simp [Pending.settle, Given.store, storeIn, hformat]
            rfl
          exact (readFront_of_settle_eq_none hsettle (holding_ne_awaiting _ _) args).not_generates
      | holding slot value => exact combine_check g (.holding slot value) args
  | cons arg before ih =>
      rw [List.mem_cons, not_or] at hbefore
      rw [List.cons_append, readFront]
      split
      · exact id
      · next name value _ =>
          cases hstep : stepLong .front g pending name value with
          | next g' pending' => exact ih hbefore.2 (stepLong_front hstep)
          | done request => exact (stepLong_done hstep).not_generates
      · next letters _ =>
          cases hstep : stepShort .front g pending letters with
          | next g' pending' => exact ih hbefore.2 (stepShort_front hpending hstep)
          | done request => exact (stepShort_done hstep).not_generates
      · next value hspelled =>
          obtain rfl := Spelled.ofArgument_eq_plain hspelled
          split
          · exact ih hbefore.2 (awaitsFormat_holding _ _)
          · split
            · exact (helpOn_isAnswer _).not_generates
            · split
              · next place hplace =>
                  have hcheck : place = .check := by
                    unfold command? at hplace
                    split at hplace
                    · next hname => exact absurd hname.symm hbefore.1
                    · split at hplace <;> cases hplace
                      rfl
                  rw [hcheck]
                  exact combine_check g pending _
              · exact id

end Answers

/-- A command line does not ask for source if the command to check stands on it and no command to
generate stands before. -/
theorem request_check_not_generates {before : List String} (hbefore : "generate" ∉ before)
    (args : List String) : ¬ (request (before ++ "check" :: args)).Generates :=
  readFront_check hbefore awaitsFormat_nothing args

end ParserTables.Command
