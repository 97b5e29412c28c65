import BucketSteward.Program
import Mathlib.Tactic.Common

/-! The requests that a program makes while it runs, each with the state it is made in. What a
program may ask whatever it is answered (`Uses`) bounds what it does ask in any run, and an
invariant that every such request keeps holds all along the run. Notes are made between the requests,
and the book of a run is what its notes come to one after the other. A program whose requests are
answered alike in every state that it can reach is resolved by those answers alone, and it runs alike
from any two states that its requests can not tell apart. -/
namespace BucketSteward.Program

variable {I : Interface} {ε δ α β σ : Type}

/-! ## Sequencing -/

theorem bind_eq (first : Program I ε α) (next : α → Program I ε β) :
    first >>= next = first.bind next := rfl

theorem pure_eq (value : α) : (pure value : Program I ε α) = done (.ok value) := rfl

theorem map_eq (f : α → β) (program : Program I ε α) :
    f <$> program = program.bind fun value => done (.ok (f value)) := rfl

theorem bind_assoc {γ : Type} (first : Program I ε α) (second : α → Program I ε β)
    (third : β → Program I ε γ) :
    (first.bind second).bind third = first.bind fun value => (second value).bind third := by
  induction first with
  | done result => cases result <;> rfl
  | ask request rest ih =>
    simp only [bind]
    congr 1
    funext answer
    exact ih answer
  | note entry rest ih => exact congrArg (note entry) ih

theorem map_map {γ : Type} (g : β → γ) (f : α → β) (program : Program I ε α) :
    g <$> f <$> program = (fun value => g (f value)) <$> program :=
  bind_assoc program _ _

section Runs
variable (serve : Service I σ)

/-- A sequence succeeds when both its programs do, the second where the first ended. -/
theorem run_bind_eq_ok {first : Program I ε α} {next : α → Program I ε β} {state after : σ}
    {result : β} :
    (first.bind next).run serve state = (.ok result, after) ↔
      ∃ value middle, first.run serve state = (.ok value, middle) ∧
        (next value).run serve middle = (.ok result, after) := by
  rw [run_bind]
  rcases first.run serve state with ⟨value | value, middle⟩ <;> simp

theorem run_map (f : α → β) (program : Program I ε α) (state : σ) :
    (f <$> program).run serve state
      = ((program.run serve state).1.map f, (program.run serve state).2) := by
  rw [map_eq, run_bind]
  rcases program.run serve state with ⟨fault | value, after⟩ <;> rfl

/-- A fault that is answered by a result leaves the state where it arose. -/
theorem run_handle_done (f : ε → Except δ α) (program : Program I ε α) (state : σ) :
    (program.handle fun fault => done (f fault)).run serve state
      = (match (program.run serve state).1 with
          | .ok value => .ok value
          | .error fault => f fault, (program.run serve state).2) := by
  rw [run_handle]
  rcases program.run serve state with ⟨fault | value, after⟩ <;> rfl

theorem run_mapFault (f : ε → δ) (program : Program I ε α) (state : σ) :
    (program.mapFault f).run serve state
      = ((program.run serve state).1.mapError f, (program.run serve state).2) := by
  rw [mapFault, run_handle]
  rcases program.run serve state with ⟨fault | value, after⟩ <;> rfl

/-! ## Traces -/

/-- What is asked in a run, each request with the state it is asked in. -/
def trace : Program I ε α → σ → List (I.Request × σ)
  | done _, _ => []
  | ask request rest, state =>
      (request, state) :: (rest (serve request state).1).trace (serve request state).2
  | note _ rest, state => rest.trace state

/-- A sequence asks what its first program asks, and then, if that succeeds, what its second
asks. -/
theorem trace_bind (first : Program I ε α) (next : α → Program I ε β) (state : σ) :
    (first.bind next).trace serve state = first.trace serve state ++
      match first.run serve state with
      | (.ok value, after) => (next value).trace serve after
      | (.error _, _) => [] := by
  induction first generalizing state with
  | done result => cases result <;> rfl
  | ask request rest ih =>
    simp only [bind, trace, run, List.cons_append]
    rw [ih]
  | note entry rest ih => exact ih _

theorem trace_handle (first : Program I ε α) (recover : ε → Program I δ α) (state : σ) :
    (first.handle recover).trace serve state = first.trace serve state ++
      match first.run serve state with
      | (.ok _, _) => []
      | (.error fault, after) => (recover fault).trace serve after := by
  induction first generalizing state with
  | done result => cases result <;> rfl
  | ask request rest ih =>
    simp only [handle, trace, run, List.cons_append]
    rw [ih]
  | note entry rest ih => exact ih _

@[simp] theorem trace_map (f : α → β) (program : Program I ε α) (state : σ) :
    (f <$> program).trace serve state = program.trace serve state := by
  rw [map_eq, trace_bind]
  rcases program.run serve state with ⟨fault | value, after⟩ <;> simp [trace]

@[simp] theorem trace_handle_done (f : ε → Except δ α) (program : Program I ε α) (state : σ) :
    (program.handle fun fault => done (f fault)).trace serve state = program.trace serve state := by
  rw [trace_handle]
  rcases program.run serve state with ⟨fault | value, after⟩ <;> simp [trace]

@[simp] theorem trace_mapFault (f : ε → δ) (program : Program I ε α) (state : σ) :
    (program.mapFault f).trace serve state = program.trace serve state :=
  trace_handle_done serve (fun fault => .error (f fault)) program state

/-! ## Notes -/

/-- What is noted in a run. -/
def notes : Program I ε α → σ → List I.Note
  | done _, _ => []
  | ask request rest, state => (rest (serve request state).1).notes (serve request state).2
  | note entry rest, state => entry :: rest.notes state

/-- A run that enters its notes in a book is the run, and the book after all its notes. -/
theorem runNoting_eq {τ : Type} (enter : τ → I.Note → τ) (program : Program I ε α) (state : σ)
    (book : τ) :
    program.runNoting serve enter (state, book)
      = ((program.run serve state).1, (program.run serve state).2,
          (program.notes serve state).foldl enter book) := by
  induction program generalizing state book with
  | done result => rfl
  | ask request rest ih => exact ih _ _ _
  | note entry rest ih => exact ih _ _

/-- Every request of a run satisfies a property in the state it is asked in. -/
def Steps (holds : I.Request → σ → Prop) (program : Program I ε α) (state : σ) : Prop :=
  ∀ step ∈ program.trace serve state, holds step.1 step.2

variable {serve}

/-- A step of a sequence is one of its first program, or one of its second after the first
succeeded. -/
theorem cut_bind {first : Program I ε α} {next : α → Program I ε β} {state : σ}
    {before after : List (I.Request × σ)} {step : I.Request × σ}
    (asked : (first.bind next).trace serve state = before ++ step :: after) :
    (∃ within, first.trace serve state = before ++ step :: within ∧
      after = within ++ match first.run serve state with
        | (.ok value, middle) => (next value).trace serve middle
        | (.error _, _) => []) ∨
      ∃ earlier value middle, first.run serve state = (.ok value, middle) ∧
        before = first.trace serve state ++ earlier ∧
        (next value).trace serve middle = earlier ++ step :: after := by
  have second (earlier : List (I.Request × σ)) (longer : before = first.trace serve state ++ earlier)
      (rest : (match first.run serve state with
        | (.ok value, middle) => (next value).trace serve middle
        | (.error _, _) => []) = earlier ++ step :: after) :
      ∃ earlier value middle, first.run serve state = (.ok value, middle) ∧
        before = first.trace serve state ++ earlier ∧
        (next value).trace serve middle = earlier ++ step :: after := by
    split at rest
    case h_1 value middle ran => exact ⟨earlier, value, middle, ran, longer, rest⟩
    case h_2 => simp at rest
  rw [trace_bind] at asked
  rcases List.append_eq_append_iff.mp asked with ⟨more, longer, rest⟩ | ⟨more, longer, rest⟩
  · exact .inr (second _ longer rest)
  · cases more with
    | nil => exact .inr (second [] (by simpa using longer.symm) (by simpa using rest.symm))
    | cons own more =>
      obtain ⟨rfl, rfl⟩ := List.cons.inj rest
      exact .inl ⟨more, longer, rfl⟩

variable {holds : I.Request → σ → Prop}

@[simp] theorem steps_done (result : Except ε α) (state : σ) :
    (done result : Program I ε α).Steps serve holds state := by
  simp [Steps, trace]

theorem steps_ask {request : I.Request} {rest : I.Answer request → Program I ε α} {state : σ} :
    (ask request rest).Steps serve holds state ↔ holds request state ∧
      (rest (serve request state).1).Steps serve holds (serve request state).2 := by
  simp [Steps, trace]

@[simp] theorem steps_note {entry : I.Note} {rest : Program I ε α} {state : σ} :
    (note entry rest).Steps serve holds state ↔ rest.Steps serve holds state := Iff.rfl

theorem steps_bind {first : Program I ε α} {next : α → Program I ε β} {state : σ} :
    (first.bind next).Steps serve holds state ↔ first.Steps serve holds state ∧
      ∀ value after, first.run serve state = (.ok value, after) →
        (next value).Steps serve holds after := by
  simp only [Steps, trace_bind, List.mem_append, or_imp, forall_and]
  refine and_congr_right fun _ => ?_
  rcases first.run serve state with ⟨fault | value, after⟩ <;> simp

@[simp] theorem steps_mapFault {f : ε → δ} {program : Program I ε α} {state : σ} :
    (program.mapFault f).Steps serve holds state ↔ program.Steps serve holds state := by
  simp [Steps]

/-- What every step of a run keeps holds after every step. -/
theorem Steps.chain {inv : σ → Prop} {program : Program I ε α} {state : σ}
    (steps : program.Steps serve (fun request there => inv there → inv (serve request there).2) state)
    (start : inv state) : program.Steps serve (fun request there => inv (serve request there).2) state := by
  induction program generalizing state with
  | done result => exact steps_done result state
  | ask request rest ih =>
    obtain ⟨now, later⟩ := steps_ask.mp steps
    exact steps_ask.mpr ⟨now start, ih _ later (now start)⟩
  | note entry rest ih => exact ih steps start

/-- A program succeeds with a value: what it asks, and the state that it leaves. -/
structure Succeeds (serve : Service I σ) (program : Program I ε α) (state : σ)
    (asked : List I.Request) (value : α) (after : σ) : Prop where
  run : program.run serve state = (.ok value, after)
  trace : (program.trace serve state).map (·.1) = asked

namespace Succeeds

variable {program : Program I ε α} {next : α → Program I ε β} {state middle after : σ}
  {asked more : List I.Request} {value : α} {result : β}

theorem done (value : α) (state : σ) :
    (Program.done (.ok value) : Program I ε α).Succeeds serve state [] value state :=
  ⟨rfl, rfl⟩

/-- Programs that succeed one after the other ask one after the other. -/
theorem bind (first : program.Succeeds serve state asked value middle)
    (second : (next value).Succeeds serve middle more result after) :
    (program.bind next).Succeeds serve state (asked ++ more) result after := by
  constructor
  · rw [run_bind, first.run]
    exact second.run
  · rw [trace_bind, first.run, List.map_append, first.trace]
    exact congrArg _ second.trace

/-- Making something else of the value asks nothing more. -/
theorem map (first : program.Succeeds serve state asked value middle) (f : α → β) :
    (f <$> program).Succeeds serve state asked (f value) middle := by
  constructor
  · rw [run_map, first.run]
    rfl
  · rw [trace_map, first.trace]

end Succeeds

/-- A program ends in a fault: what it asks, and the state that it leaves. -/
structure Fails (serve : Service I σ) (program : Program I ε α) (state : σ)
    (asked : List I.Request) (fault : ε) (after : σ) : Prop where
  run : program.run serve state = (.error fault, after)
  trace : (program.trace serve state).map (·.1) = asked

section Fails

variable {program : Program I ε α} {next : α → Program I ε β} {state middle after : σ}
  {asked more : List I.Request} {value : α} {fault : ε}

/-- A fault ends a sequence. -/
theorem Fails.bind (first : program.Fails serve state asked fault after)
    (next : α → Program I ε β) : (program.bind next).Fails serve state asked fault after := by
  constructor
  · rw [run_bind, first.run]
  · rw [trace_bind, first.run, List.append_nil, first.trace]

/-- What comes after a success can fail. -/
theorem Succeeds.bind_fails (first : program.Succeeds serve state asked value middle)
    (second : (next value).Fails serve middle more fault after) :
    (program.bind next).Fails serve state (asked ++ more) fault after := by
  constructor
  · rw [run_bind, first.run]
    exact second.run
  · rw [trace_bind, first.run, List.map_append, first.trace]
    exact congrArg _ second.trace

theorem Fails.map (first : program.Fails serve state asked fault after) (f : α → β) :
    (f <$> program).Fails serve state asked fault after :=
  first.bind _

end Fails

end Runs

/-! ## What a program may ask -/

/-- Every request that the program can make is allowed, whatever it is answered. -/
inductive Uses (allowed : I.Request → Prop) : Program I ε α → Prop where
  | done (result : Except ε α) : Uses allowed (.done result)
  | ask {request : I.Request} {rest : I.Answer request → Program I ε α} (asked : allowed request)
      (next : ∀ answer, Uses allowed (rest answer)) : Uses allowed (.ask request rest)
  | note (entry : I.Note) {rest : Program I ε α} (next : Uses allowed rest) :
      Uses allowed (.note entry rest)

namespace Uses

variable {allowed other : I.Request → Prop} {program : Program I ε α}

theorem mono (uses : program.Uses allowed) (wider : ∀ request, allowed request → other request) :
    program.Uses other := by
  induction uses with
  | done result => exact .done result
  | ask asked _ ih => exact .ask (wider _ asked) ih
  | note entry _ ih => exact .note entry ih

theorem bind {next : α → Program I ε β} (first : program.Uses allowed)
    (second : ∀ value, (next value).Uses allowed) : (program.bind next).Uses allowed := by
  induction first with
  | done result =>
    cases result with
    | ok value => exact second value
    | error fault => exact .done _
  | ask asked _ ih => exact .ask asked ih
  | note entry _ ih => exact .note entry ih

theorem handle {recover : ε → Program I δ α} (first : program.Uses allowed)
    (second : ∀ fault, (recover fault).Uses allowed) : (program.handle recover).Uses allowed := by
  induction first with
  | done result =>
    cases result with
    | ok value => exact .done _
    | error fault => exact second fault
  | ask asked _ ih => exact .ask asked ih
  | note entry _ ih => exact .note entry ih

/-- Every request of a run is allowed. -/
theorem steps (uses : program.Uses allowed) (serve : Service I σ) (state : σ) :
    program.Steps serve (fun request _ => allowed request) state := by
  induction uses generalizing state with
  | done result => exact steps_done result state
  | ask asked _ ih => exact steps_ask.mpr ⟨asked, ih _ _⟩
  | note _ _ ih => exact ih _

/-- What every allowed request keeps holds in every state of a run and after it. -/
theorem invariant (uses : program.Uses allowed) (serve : Service I σ) (inv : σ → Prop) {state : σ}
    (keeps : ∀ request state, allowed request → inv state → inv (serve request state).2)
    (start : inv state) :
    program.Steps serve (fun request state => allowed request ∧ inv state) state ∧
      inv (program.run serve state).2 := by
  induction uses generalizing state with
  | done result => exact ⟨steps_done result state, start⟩
  | ask asked _ ih =>
    obtain ⟨steps, final⟩ := ih _ (keeps _ state asked start)
    exact ⟨steps_ask.mpr ⟨⟨asked, start⟩, steps⟩, final⟩
  | note _ _ ih => exact ih start

end Uses

/-- The states that a run goes through, last the one that it ends in. -/
def states (serve : Service I σ) (program : Program I ε α) (state : σ) : List σ :=
  (program.trace serve state).map (·.2) ++ [(program.run serve state).2]

theorem run_mem_states (serve : Service I σ) (program : Program I ε α) (state : σ) :
    (program.run serve state).2 ∈ program.states serve state :=
  List.mem_append_right _ (List.mem_singleton_self _)

/-- What every allowed request keeps holds in every state that a run goes through. -/
theorem Uses.holds_throughout {allowed : I.Request → Prop} {program : Program I ε α}
    (uses : program.Uses allowed) (serve : Service I σ) (inv : σ → Prop) {state : σ}
    (keeps : ∀ request state, allowed request → inv state → inv (serve request state).2)
    (start : inv state) : ∀ there ∈ program.states serve state, inv there := by
  obtain ⟨steps, final⟩ := uses.invariant serve inv keeps start
  intro there among
  rcases List.mem_append.mp among with among | last
  · obtain ⟨step, taken, rfl⟩ := List.mem_map.mp among
    exact (steps step taken).2
  · rw [List.mem_singleton.mp last]
    exact final

/-! ## Programs resolved by answers -/

/-- The result of a program whose requests are answered alike at any time. -/
def resolve (answers : (request : I.Request) → I.Answer request) (program : Program I ε α) :
    Except ε α :=
  (program.run (fun request (state : Unit) => (answers request, state)) ()).1

section Resolve
variable (answers : (request : I.Request) → I.Answer request)

@[simp] theorem resolve_done (result : Except ε α) :
    (done result : Program I ε α).resolve answers = result := rfl

theorem resolve_bind (first : Program I ε α) (next : α → Program I ε β) :
    (first.bind next).resolve answers
      = (first.resolve answers).bind fun value => (next value).resolve answers := by
  simp only [resolve, run_bind]
  rcases first.run _ _ with ⟨fault | value, after⟩ <;> rfl

theorem resolve_bind_eq_ok {answers : (request : I.Request) → I.Answer request}
    {first : Program I ε α} {next : α → Program I ε β} {result : β} :
    (first.bind next).resolve answers = .ok result ↔
      ∃ value, first.resolve answers = .ok value ∧ (next value).resolve answers = .ok result := by
  rw [resolve_bind]
  rcases first.resolve answers with fault | value <;> simp [Except.bind]

theorem resolve_handle (first : Program I ε α) (recover : ε → Program I δ α) :
    (first.handle recover).resolve answers
      = match first.resolve answers with
        | .ok value => .ok value
        | .error fault => (recover fault).resolve answers := by
  simp only [resolve, run_handle]
  rcases first.run _ _ with ⟨fault | value, after⟩ <;> rfl

/-- Where an invariant fixes the answers to all that a program may ask, they resolve it. -/
theorem Uses.run_eq_resolve {allowed : I.Request → Prop} {program : Program I ε α} {state : σ}
    (uses : program.Uses allowed) (serve : Service I σ) (inv : σ → Prop)
    (fixed : ∀ request state, allowed request → inv state →
      (serve request state).1 = answers request ∧ inv (serve request state).2)
    (start : inv state) : (program.run serve state).1 = program.resolve answers := by
  induction uses generalizing state with
  | done result => rfl
  | @ask request rest asked _ ih =>
    obtain ⟨answer, next⟩ := fixed request state asked start
    simp only [run]
    rw [ih _ next, answer]
    rfl
  | note _ _ ih => exact ih start

end Resolve

/-! ## Two runs -/

/-- A program run from two states asks the same in both, ends alike in both, and leaves states that are
alike. -/
structure RunsAlike (serve : Service I σ) (alike : σ → σ → Prop) (program : Program I ε α)
    (state other : σ) : Prop where
  asked : (program.trace serve state).map (·.1) = (program.trace serve other).map (·.1)
  result : (program.run serve state).1 = (program.run serve other).1
  after : alike (program.run serve state).2 (program.run serve other).2

section Alike
variable {serve : Service I σ} {alike : σ → σ → Prop} {state other : σ}

theorem RunsAlike.bind {first : Program I ε α} {next : α → Program I ε β}
    (start : first.RunsAlike serve alike state other)
    (rest : ∀ value a b, alike a b → (next value).RunsAlike serve alike a b) :
    (first.bind next).RunsAlike serve alike state other := by
  obtain ⟨asked, result, after⟩ := start
  have runs := run_bind serve first next
  have traces := trace_bind serve first next
  rcases ran : first.run serve state with ⟨fault | value, a⟩ <;>
    rcases ranToo : first.run serve other with ⟨faultToo | valueToo, b⟩ <;>
    rw [ran, ranToo] at result after <;> cases result
  case error.error =>
    exact ⟨by rw [traces, traces, ran, ranToo, List.map_append, List.map_append, asked],
      by rw [runs, runs, ran, ranToo], by rw [runs, runs, ran, ranToo]; exact after⟩
  case ok.ok =>
    obtain ⟨later, resultToo, final⟩ := rest value a b after
    refine ⟨?_, ?_, ?_⟩
    · rw [traces, traces, ran, ranToo, List.map_append, List.map_append, asked, later]
    · rw [runs, runs, ran, ranToo]
      exact resultToo
    · rw [runs, runs, ran, ranToo]
      exact final

/-- A program runs alike from two states when all that it may ask is answered alike in states that are
alike and leaves such states. -/
theorem Uses.runsAlike {allowed : I.Request → Prop} {program : Program I ε α}
    (uses : program.Uses allowed)
    (served : ∀ request a b, allowed request → alike a b →
      (serve request a).1 = (serve request b).1 ∧ alike (serve request a).2 (serve request b).2)
    (start : alike state other) : program.RunsAlike serve alike state other := by
  induction uses generalizing state other with
  | done result => exact ⟨rfl, rfl, start⟩
  | @ask request rest asked _ ih =>
    obtain ⟨answer, next⟩ := served request state other asked start
    obtain ⟨requests, result, after⟩ := ih (serve request other).1 next
    refine ⟨?_, ?_, ?_⟩
    · simp only [trace, List.map_cons, answer, requests]
    · simp only [run, answer, result]
    · simp only [run, answer, after]
  | note _ _ ih =>
    obtain ⟨requests, result, after⟩ := ih start
    exact ⟨requests, result, after⟩

end Alike

end BucketSteward.Program
