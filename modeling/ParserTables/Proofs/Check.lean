import ParserTables.Check
import ParserTables.Proofs.Naming.Collision

/-!
# Documents that pass the checks

A document passes exactly if its goals can be started and nothing that it tells apart would get
the same name. Otherwise it is refused for the first of the five demands that it does not meet,
and for the earliest goal or the earliest collision that breaks this demand.
-/

namespace ParserTables.Automaton

open ParserTables.Grammar
open ParserTables.Naming (Apart Collision nonterminalCamel terminalName camel snake)

/-- A goal takes no arguments, and its entry state is one of `count` states. -/
def Startable (count : Nat) (goal : Nonterminal × Nat) : Prop :=
  goal.1.args = [] ∧ goal.2 < count

/-- The snake form of a goal, which names its entry point. -/
def goalName (goal : Nonterminal) : String := snake goal.name

variable (a : Automaton)

/-- What every target demands of a document. -/
structure Usable : Prop where
  goals : ∀ goal ∈ a.goals.entries, Startable a.states.length goal
  nonterminals : Apart nonterminalCamel a.liveNonterminals
  terminals : Apart terminalName a.terminals
  errorCodes : Apart camel a.errorCodes
  goalNames : Apart goalName a.goals.keys

/-- The fault that a document is refused with. A constructor for one demand asks that the demands
before it are met. -/
inductive RefusedWith : Fault → Prop
  | goalArguments {before after goal} : a.goals.entries = before ++ goal :: after →
      (∀ g ∈ before, Startable a.states.length g) → goal.1.args ≠ [] →
      RefusedWith (.goalWithArguments goal.1.pretty)
  | goalState {before after goal} : a.goals.entries = before ++ goal :: after →
      (∀ g ∈ before, Startable a.states.length g) → goal.1.args = [] →
      a.states.length ≤ goal.2 →
      RefusedWith (.goalStateOutOfRange goal.1.pretty goal.2 a.states.length)
  | nonterminals {c : Collision Nonterminal} :
      (∀ g ∈ a.goals.entries, Startable a.states.length g) →
      c.Earliest nonterminalCamel a.liveNonterminals →
      RefusedWith (.nonterminalClash (c.clash Nonterminal.pretty))
  | terminals {c : Collision Terminal} :
      (∀ g ∈ a.goals.entries, Startable a.states.length g) →
      Apart nonterminalCamel a.liveNonterminals →
      c.Earliest terminalName a.terminals →
      RefusedWith (.terminalClash (c.clash Terminal.display))
  | errorCodes {c : Collision String} :
      (∀ g ∈ a.goals.entries, Startable a.states.length g) →
      Apart nonterminalCamel a.liveNonterminals → Apart terminalName a.terminals →
      c.Earliest camel a.errorCodes →
      RefusedWith (.errorCodeClash (c.clash id))
  | goalNames {c : Collision Nonterminal} :
      (∀ g ∈ a.goals.entries, Startable a.states.length g) →
      Apart nonterminalCamel a.liveNonterminals → Apart terminalName a.terminals →
      Apart camel a.errorCodes → c.Earliest goalName a.goals.keys →
      RefusedWith (.goalClash (c.clash Nonterminal.pretty))

/-! ### The single demands -/

theorem checkGoal_eq_ok_iff {count : Nat} {goal : Nonterminal × Nat} :
    checkGoal count goal = .ok () ↔ Startable count goal := by
  unfold checkGoal Startable
  split_ifs with hargs hstate
  · simp [hargs]
  · simp [Nat.not_lt.2 hstate]
  · simp [not_not.1 hargs, Nat.lt_of_not_le hstate]

theorem checkGoal_eq_error_iff {count : Nat} {goal : Nonterminal × Nat} {f : Fault} :
    checkGoal count goal = .error f ↔
      (goal.1.args ≠ [] ∧ f = .goalWithArguments goal.1.pretty) ∨
        (goal.1.args = [] ∧ count ≤ goal.2 ∧
          f = .goalStateOutOfRange goal.1.pretty goal.2 count) := by
  unfold checkGoal
  split_ifs with hargs hstate
  · simp [hargs, eq_comm]
  · simp [not_not.1 hargs, hstate, eq_comm]
  · simp [not_not.1 hargs, hstate]

theorem nodup_goals : a.goals.keys.Nodup := a.goals.distinct

theorem checkNonterminals_eq_ok_iff :
    Naming.checkNonterminals a.liveNonterminals = .ok () ↔
      Apart nonterminalCamel a.liveNonterminals :=
  Naming.distinct_eq_ok_iff a.nodup_liveNonterminals _ _

theorem checkTerminals_eq_ok_iff :
    Naming.checkTerminals a.terminals = .ok () ↔ Apart terminalName a.terminals :=
  Naming.distinct_eq_ok_iff a.nodup_terminals _ _

theorem checkErrorCodes_eq_ok_iff :
    Naming.checkErrorCodes a.errorCodes = .ok () ↔ Apart camel a.errorCodes :=
  (Naming.distinct_eq_ok_iff (nodup_firstAppearances _ _) _ _).trans
    Naming.apart_firstAppearances_iff

theorem checkGoals_eq_ok_iff :
    Naming.checkGoals a.goals.keys = .ok () ↔ Apart goalName a.goals.keys :=
  Naming.distinct_eq_ok_iff a.nodup_goals _ _

/-! ### The checks together -/

theorem check_eq_ok_iff : a.check = .ok () ↔ a.Usable := by
  simp only [check, seq_eq_ok, forM_eq_ok_iff, checkGoal_eq_ok_iff, checkNonterminals_eq_ok_iff,
    checkTerminals_eq_ok_iff, checkErrorCodes_eq_ok_iff, checkGoals_eq_ok_iff]
  constructor
  · rintro ⟨hgoals, hnts, hts, hcodes, hnames⟩
    exact ⟨hgoals, hnts, hts, hcodes, hnames⟩
  · rintro ⟨hgoals, hnts, hts, hcodes, hnames⟩
    exact ⟨hgoals, hnts, hts, hcodes, hnames⟩

theorem forM_checkGoal_eq_error_iff {f : Fault} :
    a.goals.entries.forM (checkGoal a.states.length) = .error f ↔
      ∃ before goal after, a.goals.entries = before ++ goal :: after ∧
        (∀ g ∈ before, Startable a.states.length g) ∧
        ((goal.1.args ≠ [] ∧ f = .goalWithArguments goal.1.pretty) ∨
          (goal.1.args = [] ∧ a.states.length ≤ goal.2 ∧
            f = .goalStateOutOfRange goal.1.pretty goal.2 a.states.length)) := by
  simp only [forM_eq_error_iff, checkGoal_eq_ok_iff, checkGoal_eq_error_iff]

theorem checkNonterminals_eq_error_iff {f : Fault} :
    Naming.checkNonterminals a.liveNonterminals = .error f ↔
      ∃ c : Collision Nonterminal, c.Earliest nonterminalCamel a.liveNonterminals ∧
        f = .nonterminalClash (c.clash Nonterminal.pretty) :=
  Naming.distinct_eq_error_iff a.nodup_liveNonterminals _ _

theorem checkTerminals_eq_error_iff {f : Fault} :
    Naming.checkTerminals a.terminals = .error f ↔
      ∃ c : Collision Terminal, c.Earliest terminalName a.terminals ∧
        f = .terminalClash (c.clash Terminal.display) :=
  Naming.distinct_eq_error_iff a.nodup_terminals _ _

theorem checkErrorCodes_eq_error_iff {f : Fault} :
    Naming.checkErrorCodes a.errorCodes = .error f ↔
      ∃ c : Collision String, c.Earliest camel a.errorCodes ∧
        f = .errorCodeClash (c.clash id) :=
  (Naming.distinct_eq_error_iff (nodup_firstAppearances _ _) _ _).trans
    (by simp only [Collision.earliest_firstAppearances_iff])

theorem checkGoals_eq_error_iff {f : Fault} :
    Naming.checkGoals a.goals.keys = .error f ↔
      ∃ c : Collision Nonterminal, c.Earliest goalName a.goals.keys ∧
        f = .goalClash (c.clash Nonterminal.pretty) :=
  Naming.distinct_eq_error_iff a.nodup_goals _ _

theorem check_eq_error_iff {f : Fault} : a.check = .error f ↔ a.RefusedWith f := by
  simp only [check, seq_eq_error, forM_eq_ok_iff, checkGoal_eq_ok_iff,
    checkNonterminals_eq_ok_iff, checkTerminals_eq_ok_iff, checkErrorCodes_eq_ok_iff,
    forM_checkGoal_eq_error_iff, checkNonterminals_eq_error_iff, checkTerminals_eq_error_iff,
    checkErrorCodes_eq_error_iff, checkGoals_eq_error_iff]
  constructor
  · rintro (⟨before, goal, after, hsplit, hbefore, ⟨hargs, rfl⟩ | ⟨hargs, hstate, rfl⟩⟩ |
      ⟨hgoals, ⟨c, hc, rfl⟩ | ⟨hnts, ⟨c, hc, rfl⟩ | ⟨hts, ⟨c, hc, rfl⟩ |
        ⟨hcodes, c, hc, rfl⟩⟩⟩⟩)
    · exact .goalArguments hsplit hbefore hargs
    · exact .goalState hsplit hbefore hargs hstate
    · exact .nonterminals hgoals hc
    · exact .terminals hgoals hnts hc
    · exact .errorCodes hgoals hnts hts hc
    · exact .goalNames hgoals hnts hts hcodes hc
  · intro h
    cases h with
    | goalArguments hsplit hbefore hargs =>
        exact .inl ⟨_, _, _, hsplit, hbefore, .inl ⟨hargs, rfl⟩⟩
    | goalState hsplit hbefore hargs hstate =>
        exact .inl ⟨_, _, _, hsplit, hbefore, .inr ⟨hargs, hstate, rfl⟩⟩
    | nonterminals hgoals hc => exact .inr ⟨hgoals, .inl ⟨_, hc, rfl⟩⟩
    | terminals hgoals hnts hc => exact .inr ⟨hgoals, .inr ⟨hnts, .inl ⟨_, hc, rfl⟩⟩⟩
    | errorCodes hgoals hnts hts hc =>
        exact .inr ⟨hgoals, .inr ⟨hnts, .inr ⟨hts, .inl ⟨_, hc, rfl⟩⟩⟩⟩
    | goalNames hgoals hnts hts hcodes hc =>
        exact .inr ⟨hgoals, .inr ⟨hnts, .inr ⟨hts, .inr ⟨hcodes, _, hc, rfl⟩⟩⟩⟩

/-- Whether a document passes, and the fault that it is refused with. -/
theorem check_settles_usability (a : Automaton) :
    (a.check = .ok () ↔ a.Usable) ∧ ∀ f, a.check = .error f ↔ a.RefusedWith f :=
  ⟨a.check_eq_ok_iff, fun _ => a.check_eq_error_iff⟩

end ParserTables.Automaton
