import ParserTables.Proofs.Command.Accepted

/-!
# Changing the options about reporting

The options for the format and for a quiet run have no influence on how the other arguments are
read. So such an option can be added, left out or given in another way where it meets no other
of its kind, and the rest of the command line is read as before, argument by argument
(`Advances.apply`, `Accepts.apply`) and as a whole (`readCommand_apply`, `readFront_apply`).
-/

namespace ParserTables.Command

/-! ### Changes of the options about reporting -/

/-- A change of what has been given about reporting: another format, or none, or a run that is
kept quiet. -/
inductive Change where
  | format (other : Option Format)
  | quiet

/-- What has been given, after a change. -/
def Change.apply : Change → Given → Given
  | .format other, g => { g with format := other }
  | .quiet, g => { g with quiet := true }

/-- What is given between two states does not collide with the change. A format must have been
given before, so that no other can follow. -/
def Change.Fits : Change → Given → Given → Prop
  | .format _, g, _ => g.format.isSome
  | .quiet, _, g' => g'.quiet = false

/-- Nothing that has been given about reporting is taken back. -/
structure Given.Grows (g g' : Given) : Prop where
  format : g.format.isSome → g'.format.isSome
  quiet : g.quiet → g'.quiet

theorem Given.Grows.refl (g : Given) : g.Grows g := ⟨id, id⟩

section Changing

variable {place : Place} {g g' g'' : Given} {pending pending' : Pending} {arg : String}
  {onlyPaths onlyPaths' : Bool} {c : Change}

theorem Given.Grows.trans (h : g.Grows g') (h' : g'.Grows g'') : g.Grows g'' :=
  ⟨h'.format ∘ h.format, h'.quiet ∘ h.quiet⟩

theorem Change.Fits.left (h : c.Fits g g'') (hgrows : g'.Grows g'') : c.Fits g g' := by
  cases c with
  | format other => exact h
  | quiet => exact Bool.eq_false_iff.2 fun hquiet => Bool.eq_false_iff.1 h (hgrows.quiet hquiet)

theorem Change.Fits.right (h : c.Fits g g'') (hgrows : g.Grows g') : c.Fits g' g'' := by
  cases c with
  | format other => exact hgrows.format h
  | quiet => exact h

theorem Given.store_grows {value : String} {slot : Slot} (h : g.store value slot = some g') :
    g.Grows g' := by
  cases slot with
  | format =>
      obtain ⟨v, hv, rfl⟩ := Option.map_eq_some_iff.1 h
      refine ⟨fun hsome => ?_, id⟩
      obtain ⟨format, hformat⟩ := Option.isSome_iff_exists.1 hsome
      rw [hformat] at hv
      cases hv
  | _ =>
      obtain ⟨v, -, rfl⟩ := Option.map_eq_some_iff.1 h
      exact ⟨id, id⟩

theorem Given.store_apply {value : String} {slot : Slot} (h : g.store value slot = some g')
    (hfits : c.Fits g g') : (c.apply g).store value slot = some (c.apply g') := by
  cases slot with
  | format =>
      obtain ⟨v, hv, rfl⟩ := Option.map_eq_some_iff.1 h
      cases c with
      | format other =>
          obtain ⟨format, hformat⟩ := Option.isSome_iff_exists.1 hfits
          rw [hformat] at hv
          cases hv
      | quiet => simp [Given.store, Change.apply, hv]
  | _ =>
      obtain ⟨v, hv, rfl⟩ := Option.map_eq_some_iff.1 h
      cases c <;> simp [Given.store, Change.apply, hv]

theorem settle_grows (h : pending.settle g = some g') : g.Grows g' := by
  cases pending with
  | nothing => cases h; exact .refl g
  | awaiting slot => cases h
  | holding slot value => exact Given.store_grows h

theorem settle_apply (h : pending.settle g = some g') (hfits : c.Fits g g') :
    pending.settle (c.apply g) = some (c.apply g') := by
  cases pending with
  | nothing => cases h; rfl
  | awaiting slot => cases h
  | holding slot value => exact Given.store_apply h hfits

theorem turnOn_grows {switch : Switch} (h : g.turnOn place switch = .next g' pending') :
    g.Grows g' := by
  cases switch with
  | quiet =>
      rw [Given.turnOn] at h
      split at h <;> cases h
      exact ⟨id, fun _ => rfl⟩
  | valued slot => cases h; exact .refl g
  | verbose => cases h; exact .refl g
  | help full => cases h
  | version => cases h

theorem turnOn_apply {switch : Switch} (h : g.turnOn place switch = .next g' pending')
    (hfits : c.Fits g g') : (c.apply g).turnOn place switch = .next (c.apply g') pending' := by
  cases switch with
  | quiet =>
      rw [Given.turnOn] at h
      split at h <;> cases h
      next hquiet =>
        cases c with
        | format other => simp [Given.turnOn, Change.apply, hquiet]
        | quiet => cases hfits
  | valued slot => cases h; rfl
  | verbose => cases h; rfl
  | help full => cases h
  | version => cases h

theorem stepLong_grows {name : String} {value : Option String}
    (h : stepLong place g pending name value = .next g' pending') : g.Grows g' := by
  obtain ⟨g₁, switch, -, hsettle, ⟨slot, text, -, -, hstore, -⟩ | ⟨-, hturn⟩⟩ := stepLong_next h
  · exact (settle_grows hsettle).trans (Given.store_grows hstore)
  · exact (settle_grows hsettle).trans (turnOn_grows hturn)

theorem stepLong_apply {name : String} {value : Option String}
    (h : stepLong place g pending name value = .next g' pending') (hfits : c.Fits g g') :
    stepLong place (c.apply g) pending name value = .next (c.apply g') pending' := by
  obtain ⟨g₁, switch, hoption, hsettle, ⟨slot, text, rfl, rfl, hstore, rfl⟩ | ⟨rfl, hturn⟩⟩ :=
    stepLong_next h
  · have hsettle' := settle_apply hsettle (hfits.left (Given.store_grows hstore))
    have hstore' := Given.store_apply hstore (hfits.right (settle_grows hsettle))
    simp [stepLong, hoption, hsettle', hstore']
  · have hsettle' := settle_apply hsettle (hfits.left (turnOn_grows hturn))
    have hturn' := turnOn_apply hturn (hfits.right (settle_grows hsettle))
    cases switch <;> simp [stepLong, hoption, hsettle', hturn']

theorem stepShort_grows {letters : List Char}
    (h : stepShort place g pending letters = .next g' pending') : g.Grows g' := by
  induction letters generalizing g pending with
  | nil => cases h; exact .refl _
  | cons letter letters ih =>
      obtain ⟨g₁, g₂, pending₂, switch, -, hsettle, hturn, hrest⟩ := stepShort_cons_next h
      exact (settle_grows hsettle).trans ((turnOn_grows hturn).trans (ih hrest))

theorem stepShort_apply {letters : List Char}
    (h : stepShort place g pending letters = .next g' pending') (hfits : c.Fits g g') :
    stepShort place (c.apply g) pending letters = .next (c.apply g') pending' := by
  induction letters generalizing g pending with
  | nil => cases h; rfl
  | cons letter letters ih =>
      obtain ⟨g₁, g₂, pending₂, switch, hoption, hsettle, hturn, hrest⟩ := stepShort_cons_next h
      have hgrows := stepShort_grows hrest
      have hfits₁ := hfits.right (settle_grows hsettle)
      have hsettle' := settle_apply hsettle (hfits.left ((turnOn_grows hturn).trans hgrows))
      have hturn' := turnOn_apply hturn (hfits₁.left hgrows)
      rw [stepShort, hoption, hsettle']
      simp only [hturn', ih hrest (hfits₁.right (turnOn_grows hturn))]

theorem Change.apply_input (c : Change) (g : Given) : (c.apply g).input = g.input := by
  cases c <;> rfl

theorem stepInput_apply {value : String} (h : stepInput g pending value = .next g' pending')
    (hfits : c.Fits g g') :
    stepInput (c.apply g) pending value = .next (c.apply g') pending' := by
  obtain ⟨hpending, hsettle, hinput, rfl⟩ := stepInput_next h
  have hsettle' := settle_apply hsettle hfits
  unfold stepInput
  split
  · exact absurd rfl (hpending _)
  · rw [hsettle']
    simp [Change.apply_input, hinput]

theorem Advances.grows (h : Advances place g pending arg g' pending') : g.Grows g' := by
  cases h with
  | long harg hstep => exact stepLong_grows hstep
  | short harg hstep => exact stepShort_grows hstep
  | value harg hpending => exact .refl g

theorem Advances.apply (h : Advances place g pending arg g' pending') (hfits : c.Fits g g') :
    Advances place (c.apply g) pending arg (c.apply g') pending' := by
  cases h with
  | long harg hstep => exact .long harg (stepLong_apply hstep hfits)
  | short harg hstep => exact .short harg (stepShort_apply hstep hfits)
  | value harg hpending => exact .value harg hpending

theorem Accepts.grows (h : Accepts place g pending arg onlyPaths g' pending' onlyPaths') :
    g.Grows g' := by
  cases h with
  | option h => exact h.grows
  | escape harg => exact .refl g
  | path harg hstep => exact settle_grows (stepInput_next hstep).2.1

theorem Accepts.apply (h : Accepts place g pending arg onlyPaths g' pending' onlyPaths')
    (hfits : c.Fits g g') :
    Accepts place (c.apply g) pending arg onlyPaths (c.apply g') pending' onlyPaths' := by
  cases h with
  | option h => exact .option (h.apply hfits)
  | escape harg => exact .escape harg
  | path harg hstep => exact .path harg (stepInput_apply hstep hfits)

theorem Change.job?_apply (c : Change) (place : Place) (g : Given) :
    job? place (c.apply g) = job? place g := by
  cases c <;> rfl

theorem readCommand_grows {args : List String} {job : Job} {given : Given}
    (h : readCommand place g pending onlyPaths args = .complete job given) : g.Grows given := by
  induction args generalizing g pending onlyPaths with
  | nil =>
      rw [readCommand] at h
      split at h
      · next g₁ hsettle =>
          split at h <;> cases h
          exact settle_grows hsettle
      · cases h
  | cons arg args ih =>
      obtain ⟨g₁, pending₁, onlyPaths₁, haccepts, hrest⟩ := readCommand_cons_cases h
      exact haccepts.grows.trans (ih hrest)

/-- The rest of a command line is read in the same way after a change. -/
theorem readCommand_apply {args : List String} {job : Job} {given : Given}
    (h : readCommand place g pending onlyPaths args = .complete job given)
    (hfits : c.Fits g given) :
    readCommand place (c.apply g) pending onlyPaths args = .complete job (c.apply given) := by
  induction args generalizing g pending onlyPaths with
  | nil =>
      rw [readCommand] at h
      split at h
      · next g₁ hsettle =>
          split at h <;> cases h
          next hjob =>
            rw [readCommand, settle_apply hsettle hfits]
            simp only [Change.job?_apply, hjob]
      · cases h
  | cons arg args ih =>
      obtain ⟨g₁, pending₁, onlyPaths₁, haccepts, hrest⟩ := readCommand_cons_cases h
      have hfirst := haccepts.apply (hfits.left (readCommand_grows hrest))
      rw [hfirst.readCommand_cons, ih hrest (hfits.right haccepts.grows)]

/-- What is given before the rest of a command line that is accepted does not collide with the
change, nor does what is asked for in the end. -/
def Change.FitsRun : Change → Given → Invocation → Prop
  | .format _, g, _ => g.format.isSome
  | .quiet, _, i => i.quiet = false

/-- How a change turns out in what is asked for. -/
def Change.Reworks : Change → Invocation → Invocation → Prop
  | .format _, i, i' => i' = { i with format := i'.format }
  | .quiet, i, i' => i' = { i with quiet := true }

/-- A run is kept quiet once this has been asked for. -/
theorem readFront_quiet {args : List String} {i : Invocation}
    (h : readFront g pending args = .run i) (hquiet : g.quiet) : i.quiet := by
  induction args generalizing g pending with
  | nil => cases h
  | cons arg args ih =>
      obtain ⟨g₁, pending₁, hadvances, hrest⟩ | ⟨place, -, -, hcombine⟩ := readFront_cons_cases h
      · exact ih hrest (hadvances.grows.quiet hquiet)
      · obtain ⟨job, after, before, -, hsettle, rfl⟩ := combine_readCommand_eq_run hcombine
        simp [(settle_grows hsettle).quiet hquiet]

theorem combine_apply {tail : Tail} {i : Invocation} {job : Job} {after before : Given}
    (htail : tail = .complete job after) (hsettle : pending.settle g = some before)
    (hi : i = ⟨job, (after.format.orElse fun _ => before.format).getD .text,
      after.quiet || before.quiet⟩) (hfits : c.FitsRun g i) :
    ∃ i', combine (c.apply g) pending tail = .run i' ∧ c.Reworks i i' := by
  subst htail hi
  cases c with
  | format other =>
      have hsettle' := settle_apply (c := .format other) hsettle hfits
      rw [combine, hsettle']
      exact ⟨_, rfl, rfl⟩
  | quiet =>
      have hsettle' := settle_apply (c := .quiet) hsettle (Bool.or_eq_false_iff.1 hfits).2
      rw [combine, hsettle']
      exact ⟨_, rfl, by simp [Change.Reworks, Change.apply]⟩

/-- A command line from before the command on is read in the same way after a change. -/
theorem readFront_apply {args : List String} {i : Invocation}
    (h : readFront g pending args = .run i) (hfits : c.FitsRun g i) :
    ∃ i', readFront (c.apply g) pending args = .run i' ∧ c.Reworks i i' := by
  induction args generalizing g pending with
  | nil => cases h
  | cons arg args ih =>
      obtain ⟨g₁, pending₁, hadvances, hrest⟩ | ⟨place, hplace, hpending, hcombine⟩ :=
        readFront_cons_cases h
      · have hstep : c.Fits g g₁ ∧ c.FitsRun g₁ i := by
          cases c with
          | format other => exact ⟨hfits, hadvances.grows.format hfits⟩
          | quiet =>
              refine ⟨Bool.eq_false_iff.2 fun hquiet => ?_, hfits⟩
              exact Bool.eq_false_iff.1 hfits (readFront_quiet hrest hquiet)
        rw [(hadvances.apply hstep.1).readFront_cons]
        exact ih hrest hstep.2
      · obtain ⟨job, after, before, htail, hsettle, hi⟩ := combine_readCommand_eq_run hcombine
        rw [readFront_command hplace hpending]
        exact combine_apply htail hsettle hi hfits

end Changing

/-! ### A quiet run -/

/-- The option to keep the run quiet can be added anywhere before the command, except in the
place of a value, if it is not given yet. -/
theorem request_quiet {before after : List String} {i : Invocation}
    (h : request (before ++ after) = .run i) (hi : i.quiet = false)
    (hgenerate : "generate" ∉ before) (hcheck : "check" ∉ before)
    (hlast : before.getLast? ≠ some "--output") :
    request (before ++ "--quiet" :: after) = .run { i with quiet := true } := by
  cases reaches_of_readFront h with
  | command g₀ pending₀ place g pending onlyPaths hcommand hopen hrest =>
      exact absurd hcommand (not_or.2 ⟨hgenerate, hcheck⟩)
  | front g pending hawaiting hrest =>
      have hpending (slot : Slot) : pending ≠ .awaiting slot := by
        rintro rfl
        obtain ⟨-, hnothing⟩ | hlast' := hawaiting slot rfl
        · cases hnothing
        · exact hlast hlast'
      rw [request, hrest] at h
      cases hsettle : pending.settle g with
      | none => exact absurd h ((readFront_of_settle_eq_none hsettle hpending after).ne_run i)
      | some g' =>
          rw [readFront_of_settle hsettle] at h
          have hquiet : g'.quiet = false :=
            Bool.eq_false_iff.2 fun hquiet => Bool.eq_false_iff.1 hi (readFront_quiet h hquiet)
          have hspelled : Spelled.ofArgument "--quiet" = .long "quiet" none := rfl
          have hturn : g'.turnOn .front .quiet = .next { g' with quiet := true } .nothing := by
            rw [Given.turnOn, hquiet]
            rfl
          have hadvances :
              Advances .front g' .nothing "--quiet" { g' with quiet := true } .nothing :=
            .long hspelled hturn
          obtain ⟨i', hrun, rfl⟩ := readFront_apply (c := .quiet) h hi
          rw [request, hrest, readFront_of_settle hsettle, hadvances.readFront_cons]
          exact hrun

/-! ### Another format -/

/-- The name of a format. -/
def Format.name : Format → String
  | .text => "text"
  | .json => "json"

/-- The option for the format as it stands on a command line: its value is in the same argument,
or in the next one. -/
structure FormatOption where
  format : Format
  joined : Bool

/-- The arguments for an option for the format. Without it there are none. -/
def formatArguments : Option FormatOption → List String
  | none => []
  | some ⟨format, true⟩ => ["--output=" ++ format.name]
  | some ⟨format, false⟩ => ["--output", format.name]

section Formats

variable {place : Place} {g g' : Given} {pending : Pending} {i : Invocation}

theorem longOption?_output (place : Place) : longOption? place "output" = some (.valued .format) :=
  rfl

theorem store_format (hg : g.format = none) (format : Format) :
    g.store format.name .format = some { g with format := some format } := by
  cases format <;> simp [Given.store, storeIn, hg] <;> rfl

theorem store_format_of_some (hg : g.format ≠ none) (value : String) :
    g.store value .format = none := by
  obtain ⟨format, hformat⟩ := Option.ne_none_iff_exists'.1 hg
  simp [Given.store, storeIn, hformat]

theorem ofArgument_joined (format : Format) :
    Spelled.ofArgument ("--output=" ++ format.name) = .long "output" (some format.name) := by
  cases format <;> rfl

theorem ofArgument_name (format : Format) :
    Spelled.ofArgument format.name = .plain format.name := by
  cases format <;> rfl

theorem formatArguments_eq_cons (o : FormatOption) :
    ∃ arg args value, formatArguments (some o) = arg :: args ∧
      Spelled.ofArgument arg = .long "output" value := by
  obtain ⟨format, joined⟩ := o
  cases joined with
  | true => exact ⟨_, _, _, rfl, ofArgument_joined format⟩
  | false => exact ⟨_, _, _, rfl, rfl⟩

theorem stepLong_joined (hsettle : pending.settle g = some g') (value : String) :
    stepLong place g pending "output" (some value) =
      match g'.store value .format with
      | some g => .next g .nothing
      | none => .done .misuse := by
  simp only [stepLong, longOption?_output, hsettle]
  rfl

theorem advances_output (place : Place) (hsettle : pending.settle g = some g') :
    Advances place g pending "--output" g' (.awaiting .format) :=
  .long rfl (stepLong_valued (longOption?_output place) hsettle)

theorem advances_name (place : Place) (g : Given) (format : Format) :
    Advances place g (.awaiting .format) format.name g (.holding .format format.name) :=
  .value (ofArgument_name format) rfl

theorem advances_joined (hsettle : pending.settle g = some g') (hg : g'.format = none)
    (format : Format) :
    Advances place g pending ("--output=" ++ format.name) { g' with format := some format }
      .nothing := by
  refine .long (ofArgument_joined format) ?_
  rw [stepLong_joined hsettle, store_format hg]

/-- Reading in a place follows the rules for options, and misused options are not accepted. -/
structure ReadsOptions {α : Type} (place : Place) (read : Given → Pending → List String → α)
    (accepted : α → Prop) : Prop where
  advances {g g' : Given} {pending pending' : Pending} {arg : String} (args : List String)
    (h : Advances place g pending arg g' pending') :
    read g pending (arg :: args) = read g' pending' args
  settles {g g' : Given} {pending : Pending} (args : List String)
    (h : pending.settle g = some g') : read g pending args = read g' .nothing args
  misused {g : Given} {pending : Pending} {arg name : String} {value : Option String}
    (args : List String) (harg : Spelled.ofArgument arg = .long name value)
    (hstep : stepLong place g pending name value = .done .misuse) :
    ¬ accepted (read g pending (arg :: args))
  unsettled {g : Given} {pending : Pending} (args : List String)
    (h : pending.settle g = none) (hheld : ∀ slot, pending ≠ .awaiting slot) :
    ¬ accepted (read g pending args)

theorem readsOptions_readFront : ReadsOptions .front readFront fun r => ∃ i, r = .run i where
  advances args h := h.readFront_cons args
  settles args h := readFront_of_settle h args
  misused args harg hstep := by
    rintro ⟨i, h⟩
    rw [readFront] at h
    simp only [harg, hstep, reduceCtorEq] at h
  unsettled args h hheld := by
    rintro ⟨i, hrun⟩
    exact (readFront_of_settle_eq_none h hheld args).ne_run i hrun

theorem readsOptions_readCommand (place : Place) :
    ReadsOptions place (fun g pending => readCommand place g pending false)
      fun tail => ∃ job given, tail = .complete job given where
  advances args h := (Accepts.option h).readCommand_cons args
  settles args h := readCommand_of_settle h false args
  misused args harg hstep := by
    rintro ⟨job, given, h⟩
    rw [readCommand] at h
    simp only [harg, hstep, Bool.false_eq_true, if_false, reduceCtorEq] at h
  unsettled args h hheld := by
    rintro ⟨job, given, hcomplete⟩
    exact readCommand_of_settle_eq_none h hheld args job given hcomplete

section ReadsOptions

variable {α : Type} {read : Given → Pending → List String → α} {accepted : α → Prop}

/-- The option for the format is read, if none has been given in the same place. -/
theorem ReadsOptions.read_formatArguments (h : ReadsOptions place read accepted)
    (hsettle : pending.settle g = some g') (hg : g'.format = none) (o : Option FormatOption)
    (after : List String) :
    read g pending (formatArguments o ++ after) =
      read { g' with format := o.map (·.format) } .nothing after := by
  match o with
  | none =>
      have hsame : { g' with format := (none : Option FormatOption).map (·.format) } = g' := by
        rw [Option.map_none, ← hg]
      rw [hsame]
      exact h.settles after hsettle
  | some ⟨format, true⟩ => exact h.advances after (advances_joined hsettle hg format)
  | some ⟨format, false⟩ =>
      calc read g pending ("--output" :: format.name :: after)
        _ = read g' (.awaiting .format) (format.name :: after) :=
          h.advances _ (advances_output place hsettle)
        _ = read g' (.holding .format format.name) after :=
          h.advances _ (advances_name place g' format)
        _ = read { g' with format := some format } .nothing after :=
          h.settles _ (store_format hg format)

/-- Where the option for the format is accepted, none has been given before. -/
theorem ReadsOptions.settle_of_formatArguments (h : ReadsOptions place read accepted)
    {o : FormatOption} {after : List String}
    (haccepted : accepted (read g pending (formatArguments (some o) ++ after))) :
    ∃ g', pending.settle g = some g' ∧ g'.format = none := by
  cases hsettle : pending.settle g with
  | none =>
      obtain ⟨arg, args, value, hargs, harg⟩ := formatArguments_eq_cons o
      rw [hargs, List.cons_append] at haccepted
      exact absurd haccepted
        (h.misused _ harg (stepLong_of_settle_eq_none hsettle "output" value))
  | some g' =>
      refine ⟨g', rfl, by_contra fun hg => ?_⟩
      obtain ⟨format, joined⟩ := o
      have hstore := store_format_of_some hg format.name
      cases joined with
      | true =>
          refine h.misused after (ofArgument_joined format) ?_ haccepted
          rw [stepLong_joined hsettle, hstore]
      | false =>
          have hholding : (Pending.holding .format format.name).settle g' = none := hstore
          refine h.unsettled after hholding (holding_ne_awaiting _ _) ?_
          rw [← h.advances after (advances_name place g' format),
            ← h.advances _ (advances_output place hsettle)]
          exact haccepted

end ReadsOptions

end Formats

/-- An option for the format can be left out or given another value or be written in another
way, wherever it stands on a command line. Only the format of what is asked for may change. -/
theorem request_format {before after : List String} {o : FormatOption} {i : Invocation}
    (h : request (before ++ (formatArguments (some o) ++ after)) = .run i)
    (hescape : "--" ∉ before) (o' : Option FormatOption) :
    ∃ format, request (before ++ (formatArguments o' ++ after)) = .run { i with format } := by
  cases reaches_of_readFront h with
  | front g pending hawaiting hrest =>
      rw [request, hrest] at h
      obtain ⟨g', hsettle, hg⟩ := readsOptions_readFront.settle_of_formatArguments ⟨i, h⟩
      have hread := readsOptions_readFront.read_formatArguments hsettle hg
      rw [hread] at h
      obtain ⟨i', hrun, hi⟩ := readFront_apply (c := .format (o'.map (·.format))) h rfl
      refine ⟨i'.format, ?_⟩
      rw [request, hrest, hread, ← hi]
      exact hrun
  | command g₀ pending₀ place g pending onlyPaths hcommand hopen hrest =>
      obtain rfl := hopen hescape
      rw [request, hrest] at h
      obtain ⟨job, given, front, hcomplete, hfront, rfl⟩ := combine_readCommand_eq_run h
      have hreads := readsOptions_readCommand place
      obtain ⟨g', hsettle, hg⟩ := hreads.settle_of_formatArguments ⟨job, given, hcomplete⟩
      have hread := hreads.read_formatArguments hsettle hg
      rw [hread] at hcomplete
      have happly := readCommand_apply (c := .format (o'.map FormatOption.format)) hcomplete rfl
      refine ⟨((o'.map (·.format)).orElse fun _ => front.format).getD .text, ?_⟩
      rw [request, hrest, hread]
      refine (congrArg (combine g₀ pending₀) happly).trans ?_
      rw [combine, hfront]
      rfl

end ParserTables.Command
