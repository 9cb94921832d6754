import Mathlib.Data.List.Basic
import ParserTables.Sink
import ParserTables.Proofs.Failure

/-!
# How writing to a sink ends

A sink is offered what it has not taken yet, until it has taken everything or fails. `Takes` says
which bytes it takes on the way, whatever portions it chooses, and `Ends` how writing ends: the
sink fails at an offer, takes nothing of one, or takes everything and is flushed.
`writeAndFlush_eq_iff` ties the loop to the relation, so that what a generation leaves in a sink
can be read off the ways in which writing ends.
-/

namespace ParserTables

namespace Sink

section Relations

variable {σ : Type} (sink : Sink σ)

/-- The sink never takes more than it is offered. -/
def TakesOffered : Prop :=
  ∀ s bytes n s', sink.offer s bytes = (.taken n, s') → n ≤ bytes.length

/-- In the state `s` the sink is offered `bytes` and takes the bytes `taken` of it, in portions of
which none is empty. It is then in the state `s'`, and `rest` is left. -/
inductive Takes : σ → List UInt8 → List UInt8 → σ → List UInt8 → Prop
  | nothing (s : σ) (bytes : List UInt8) : Takes s bytes [] s bytes
  | portion {s s₁ s₂ : σ} {front bytes taken rest : List UInt8} : front ≠ [] →
      sink.offer s (front ++ bytes) = (.taken front.length, s₁) →
      Takes s₁ bytes taken s₂ rest → Takes s (front ++ bytes) (front ++ taken) s₂ rest

/-- How writing `bytes` ends in the state `s`. -/
inductive Ends : σ → List UInt8 → Written σ → Prop
  | flushed {s s₁ s₂ : σ} {bytes : List UInt8} {failure : Option String} :
      sink.Takes s bytes bytes s₁ [] → sink.flush s₁ = (failure, s₂) →
      Ends s bytes ⟨bytes, s₂, failure⟩
  | failed {s s₁ s₂ : σ} {bytes taken rest : List UInt8} {reason : String} :
      sink.Takes s bytes taken s₁ rest → rest ≠ [] →
      sink.offer s₁ rest = (.failed reason, s₂) → Ends s bytes ⟨taken, s₂, some reason⟩
  | stuck {s s₁ s₂ : σ} {bytes taken rest : List UInt8} :
      sink.Takes s bytes taken s₁ rest → rest ≠ [] → sink.offer s₁ rest = (.taken 0, s₂) →
      Ends s bytes ⟨taken, s₂, some "failed to write whole buffer"⟩

end Relations

variable {σ : Type} {sink : Sink σ} {s s₁ s₂ : σ} {front bytes taken rest : List UInt8}
  {w : Written σ}

/-- What is taken and what is left make up what was to be written. -/
theorem Takes.append (h : sink.Takes s bytes taken s₁ rest) : taken ++ rest = bytes := by
  induction h with
  | nothing s bytes => rfl
  | portion _ _ _ ih => rw [List.append_assoc, ih]

/-! ### The loop -/

theorem writeAll_portion (hfront : front ≠ [])
    (hoffer : sink.offer s (front ++ bytes) = (.taken front.length, s₁)) (steps : Nat) :
    sink.writeAll (steps + 1) s (front ++ bytes) =
      { sink.writeAll steps s₁ bytes with
        taken := front ++ (sink.writeAll steps s₁ bytes).taken } := by
  obtain ⟨b, front, rfl⟩ := List.exists_cons_of_ne_nil hfront
  rw [List.cons_append] at hoffer ⊢
  rw [writeAll, hoffer]
  · simp
  · simp

theorem writeAll_failed {reason : String} (hbytes : bytes ≠ [])
    (hoffer : sink.offer s bytes = (.failed reason, s₁)) {steps : Nat}
    (hsteps : bytes.length ≤ steps) : sink.writeAll steps s bytes = ⟨[], s₁, some reason⟩ := by
  obtain ⟨b, bytes, rfl⟩ := List.exists_cons_of_ne_nil hbytes
  obtain ⟨steps, rfl⟩ := Nat.exists_eq_add_of_lt hsteps
  rw [writeAll, hoffer]
  simp

theorem writeAll_stuck (hbytes : bytes ≠ []) (hoffer : sink.offer s bytes = (.taken 0, s₁))
    {steps : Nat} (hsteps : bytes.length ≤ steps) :
    sink.writeAll steps s bytes = ⟨[], s₁, some stuck⟩ := by
  obtain ⟨b, bytes, rfl⟩ := List.exists_cons_of_ne_nil hbytes
  obtain ⟨steps, rfl⟩ := Nat.exists_eq_add_of_lt hsteps
  rw [writeAll, hoffer]
  simp

/-- Once a sink has taken some bytes, writing goes on with what is left. There are enough steps
left for that, because every portion has at least one byte. -/
theorem Takes.writeAll_eq (h : sink.Takes s bytes taken s₁ rest) {steps : Nat}
    (hsteps : bytes.length ≤ steps) :
    ∃ steps', rest.length ≤ steps' ∧ sink.writeAll steps s bytes =
      { sink.writeAll steps' s₁ rest with
        taken := taken ++ (sink.writeAll steps' s₁ rest).taken } := by
  induction h generalizing steps with
  | nothing s bytes => exact ⟨steps, hsteps, rfl⟩
  | @portion s s₁ s₂ front bytes taken rest hfront hoffer _ ih =>
      have hpos : 0 < front.length := List.length_pos_iff.2 hfront
      rw [List.length_append] at hsteps
      obtain ⟨n, rfl⟩ : ∃ n, steps = n + 1 := ⟨steps - 1, by omega⟩
      have hn : bytes.length ≤ n := by omega
      obtain ⟨steps', hsteps', heq⟩ := ih hn
      refine ⟨steps', hsteps', ?_⟩
      rw [writeAll_portion hfront hoffer, heq, List.append_assoc]

theorem writeAndFlush_of_ends (h : sink.Ends s bytes w) : sink.writeAndFlush s bytes = w := by
  cases h with
  | flushed htakes hflush =>
      obtain ⟨steps, -, heq⟩ := htakes.writeAll_eq (Nat.le_refl _)
      rw [writeAndFlush, heq]
      simp [writeAll, hflush]
  | failed htakes hrest hoffer =>
      obtain ⟨steps, hsteps, heq⟩ := htakes.writeAll_eq (Nat.le_refl _)
      rw [writeAndFlush, heq, writeAll_failed hrest hoffer hsteps]
      simp
  | stuck htakes hrest hoffer =>
      obtain ⟨steps, hsteps, heq⟩ := htakes.writeAll_eq (Nat.le_refl _)
      rw [writeAndFlush, heq, writeAll_stuck hrest hoffer hsteps]
      simp [stuck]

/-- The sink takes everything that it is offered, sooner or later. -/
def TakesAll (sink : Sink σ) : Prop :=
  ∀ s bytes, (sink.writeAndFlush s bytes).failure = none

theorem writeAll_taken_prefix (sink : Sink σ) (steps : Nat) (s : σ) (bytes : List UInt8) :
    (sink.writeAll steps s bytes).taken <+: bytes := by
  induction steps generalizing s bytes with
  | zero => cases bytes <;> exact List.nil_prefix
  | succ steps ih =>
      cases bytes with
      | nil => exact List.nil_prefix
      | cons b bytes =>
          rw [writeAll]
          · split
            · exact List.nil_prefix
            · exact List.nil_prefix
            · next n s' hoffer =>
                have hrest := (List.prefix_append_right_inj ((b :: bytes).take (n + 1))).2
                  (ih s' ((b :: bytes).drop (n + 1)))
                rwa [List.take_append_drop] at hrest
          · exact nofun

/-- What a sink takes of a text is the beginning of it. -/
theorem writeAndFlush_taken_prefix (s : σ) (bytes : List UInt8) :
    (sink.writeAndFlush s bytes).taken <+: bytes := by
  have hprefix := writeAll_taken_prefix sink bytes.length s bytes
  rw [writeAndFlush]
  split <;> exact hprefix

/-! ### The ways in which writing ends -/

theorem Ends.portion (hfront : front ≠ [])
    (hoffer : sink.offer s (front ++ bytes) = (.taken front.length, s₁))
    (h : sink.Ends s₁ bytes w) :
    sink.Ends s (front ++ bytes) { w with taken := front ++ w.taken } := by
  cases h with
  | flushed htakes hflush => exact .flushed (.portion hfront hoffer htakes) hflush
  | failed htakes hrest hfailed => exact .failed (.portion hfront hoffer htakes) hrest hfailed
  | stuck htakes hrest hstuck => exact .stuck (.portion hfront hoffer htakes) hrest hstuck

/-- Writing ends, because less is left after every portion. -/
theorem exists_ends (hsink : sink.TakesOffered) (s : σ) (bytes : List UInt8) :
    ∃ w, sink.Ends s bytes w := by
  induction hlength : bytes.length using Nat.strongRecOn generalizing s bytes with
  | _ length ih =>
      subst hlength
      by_cases hbytes : bytes = []
      · subst hbytes
        exact ⟨_, .flushed (.nothing s []) rfl⟩
      rcases hoffer : sink.offer s bytes with ⟨n | reason, s₁⟩
      · rcases Nat.eq_zero_or_pos n with rfl | hpos
        · exact ⟨_, .stuck (.nothing s bytes) hbytes hoffer⟩
        have hn : n ≤ bytes.length := hsink s bytes n s₁ hoffer
        have htake : (bytes.take n).length = n := List.length_take_of_le hn
        obtain ⟨w, hw⟩ := ih (bytes.drop n).length (by rw [List.length_drop]; omega) s₁ _ rfl
        have hfront : bytes.take n ≠ [] := List.ne_nil_of_length_pos (by rwa [htake])
        have hportion : sink.offer s (bytes.take n ++ bytes.drop n) =
            (.taken (bytes.take n).length, s₁) := by
          rw [List.take_append_drop, htake, hoffer]
        have hends := hw.portion hfront hportion
        rw [List.take_append_drop] at hends
        exact ⟨_, hends⟩
      · exact ⟨_, .failed (.nothing s bytes) hbytes hoffer⟩

/-- The loop does what the relation says. -/
theorem writeAndFlush_eq_iff (hsink : sink.TakesOffered) :
    sink.writeAndFlush s bytes = w ↔ sink.Ends s bytes w := by
  constructor
  · rintro rfl
    obtain ⟨w, hw⟩ := exists_ends hsink s bytes
    rwa [writeAndFlush_of_ends hw]
  · exact writeAndFlush_of_ends

theorem Ends.unique {w' : Written σ} (h : sink.Ends s bytes w) (h' : sink.Ends s bytes w') :
    w = w' :=
  (writeAndFlush_of_ends h).symm.trans (writeAndFlush_of_ends h')

theorem Ends.takes (h : sink.Ends s bytes w) :
    ∃ s' rest, sink.Takes s bytes w.taken s' rest := by
  cases h with
  | flushed htakes _ => exact ⟨_, _, htakes⟩
  | failed htakes _ _ => exact ⟨_, _, htakes⟩
  | stuck htakes _ _ => exact ⟨_, _, htakes⟩

end Sink

/-! ### Generating into a sink -/

section Generating

variable {σ : Type} {sink : Sink σ} {s : σ} {settings : Settings} {target : Target}
  {a : Automaton} {text : String}

/-- What writing makes of the result of a generation. -/
def Written.result (w : Written σ) : Except Fault Unit :=
  match w.failure with
  | none => .ok ()
  | some reason => .error (.sink reason)

theorem Written.result_eq_ok_iff {w : Written σ} : w.result = .ok () ↔ w.failure = none := by
  unfold result
  split <;> simp [*]

theorem Written.result_eq_error_iff {w : Written σ} {f : Fault} :
    w.result = .error f ↔ ∃ reason, w.failure = some reason ∧ f = .sink reason := by
  unfold result
  split <;> simp [*, eq_comm]

/-- A document that does not render leaves the sink as it was. -/
theorem generate_of_render_eq_error {f : Fault} (h : render settings target a = .error f) :
    generate sink s settings target a = ⟨.error f, [], s⟩ := by
  rw [generate, h]

/-- The generation of a document that renders ends like the writing of its text. -/
theorem exists_ends_of_render (hsink : sink.TakesOffered)
    (h : render settings target a = .ok text) :
    ∃ w, sink.Ends s text.toUTF8.toList w ∧
      generate sink s settings target a = ⟨w.result, w.taken, w.state⟩ := by
  refine ⟨_, (Sink.writeAndFlush_eq_iff hsink).1 rfl, ?_⟩
  rw [generate, h, Written.result]
  dsimp only
  split
  · next reason hreason => rw [hreason]
  · next hnone => rw [hnone]

end Generating

/-- A document that does not render leaves the sink as it was. Of a document that renders, the
sink has taken a prefix of the text, whatever portions it took and however it failed; generating
succeeds exactly if the sink takes the whole text and is flushed, and it fails exactly if the sink
does, for the reason of the sink. -/
theorem generate_takes_initial_part {σ : Type} (sink : Sink σ) (hsink : sink.TakesOffered) (s : σ)
    (settings : Settings) (target : Target) (a : Automaton) :
    (∀ f, render settings target a = .error f →
      generate sink s settings target a = ⟨.error f, [], s⟩) ∧
    ∀ text, render settings target a = .ok text →
      ∃ result taken s', generate sink s settings target a = ⟨result, taken, s'⟩ ∧
        taken <+: text.toUTF8.toList ∧
        (∃ s₁ rest, sink.Takes s text.toUTF8.toList taken s₁ rest) ∧
        (result = .ok () ↔ ∃ s₁, sink.Takes s text.toUTF8.toList text.toUTF8.toList s₁ [] ∧
          (sink.flush s₁).1 = none) ∧
        ∀ f, result = .error f ↔ ∃ reason, f = .sink reason ∧
          sink.Ends s text.toUTF8.toList ⟨taken, s', some reason⟩ := by
  refine ⟨fun f h => generate_of_render_eq_error h, fun text h => ?_⟩
  obtain ⟨w, hw, hgenerate⟩ := exists_ends_of_render (s := s) hsink h
  obtain ⟨s₁, rest, htakes⟩ := hw.takes
  refine ⟨w.result, w.taken, w.state, hgenerate, ⟨rest, htakes.append⟩, ⟨s₁, rest, htakes⟩,
    ?_, fun f => ?_⟩
  · rw [Written.result_eq_ok_iff]
    constructor
    · intro hnone
      cases hw with
      | flushed hall hflush => exact ⟨_, hall, hflush ▸ hnone⟩
      | failed _ _ _ => cases hnone
      | stuck _ _ _ => cases hnone
    · rintro ⟨s₂, hall, hflush⟩
      have hends := Sink.Ends.flushed hall (Prod.ext hflush rfl : sink.flush s₂ = (none, _))
      rw [hw.unique hends]
  · rw [Written.result_eq_error_iff]
    constructor
    · rintro ⟨reason, hreason, rfl⟩
      exact ⟨reason, rfl, hreason ▸ hw⟩
    · rintro ⟨reason, rfl, hends⟩
      exact ⟨reason, congrArg Written.failure (hw.unique hends), rfl⟩

/-- A sink with room for a number of bytes, which takes up to 16 bytes at once. Its state is the
room that is left. -/
def cramped : Sink Nat where
  offer room bytes :=
    let count := min 16 (min room bytes.length)
    (.taken count, room - count)
  flush room := (none, room)

theorem takesOffered_cramped : cramped.TakesOffered := by
  intro room bytes n room' h
  have hcount : min 16 (min room bytes.length) = n := Portion.taken.inj (Prod.mk.inj h).1
  omega

/-- A document with nothing to generate tables for. -/
def barren : Automaton := ⟨.empty, [], [], .empty⟩

/-- With room for 40 bytes, `cramped` takes the first 40 bytes of the text in three portions, and
the generation fails because it takes nothing more. -/
theorem generate_takes_initial_part_cramped :
    ∃ text, render {} .interpreted barren = .ok text ∧
      ∃ taken, taken.length = 40 ∧ taken <+: text.toUTF8.toList ∧
        generate cramped 40 {} .interpreted barren =
          ⟨.error (.sink "failed to write whole buffer"), taken, 0⟩ := by
  obtain ⟨text, h⟩ : ∃ text, render {} .interpreted barren = .ok text :=
    exists_eq_ok_of_isOk (by decide +kernel)
  obtain ⟨result, taken, s', hgenerate, hprefix, -⟩ :=
    (generate_takes_initial_part cramped takesOffered_cramped 40 {} .interpreted barren).2 text h
  have hlength : (generate cramped 40 {} .interpreted barren).taken.length = 40 := by
    decide +kernel
  have hstate : (generate cramped 40 {} .interpreted barren).state = 0 := by decide +kernel
  have hresult : (generate cramped 40 {} .interpreted barren).result =
      .error (.sink "failed to write whole buffer") := by decide +kernel
  rw [hgenerate] at hlength hstate hresult
  refine ⟨text, h, taken, hlength, hprefix, ?_⟩
  rw [hgenerate]
  cases hstate
  cases hresult
  rfl

end ParserTables
