/-!
Programs that do their work by asking. An `Interface` says which requests there are and what
answers each; a program is finished, with a result or a fault, or it asks one request and goes on
with the answer. What a request does is up to whoever runs the program, so one program can be run
on a store, on a remote service or on a script. On its way a program can also make a note, which
nobody answers.

`run` answers requests one after the other from a state, and `then`ing two programs runs the second
in the state that the first leaves (`run_bind`). `runNoting` also keeps a book of the notes.
-/

namespace BucketSteward

/-- Requests and the answers that belong to them, and what can be noted on the way. -/
structure Interface where
  Request : Type
  Answer : Request → Type
  Note : Type

/-- Two interfaces side by side. -/
@[reducible] def Interface.sum (I J : Interface) : Interface where
  Request := I.Request ⊕ J.Request
  Answer
    | .inl request => I.Answer request
    | .inr request => J.Answer request
  Note := I.Note ⊕ J.Note

/-- A program over an interface that ends in a value or a fault. -/
inductive Program (I : Interface) (ε α : Type) where
  | done (result : Except ε α)
  | ask (request : I.Request) (next : I.Answer request → Program I ε α)
  | note (entry : I.Note) (next : Program I ε α)

/-- Answers requests from a state. -/
@[reducible] def Service (I : Interface) (σ : Type) : Type :=
  (request : I.Request) → σ → I.Answer request × σ

/-- Two services, each with its own state. -/
def Service.beside {I J : Interface} {σ τ : Type} (left : Service I σ) (right : Service J τ) :
    Service (I.sum J) (σ × τ) := fun request (state, other) =>
  match request with
  | .inl request =>
      let (answer, state) := left request state
      (answer, state, other)
  | .inr request =>
      let (answer, other) := right request other
      (answer, state, other)

namespace Program

variable {I J : Interface} {ε δ α β σ τ : Type}

def bind : Program I ε α → (α → Program I ε β) → Program I ε β
  | done (.ok value), next => next value
  | done (.error fault), _ => done (.error fault)
  | ask request rest, next => ask request fun answer => (rest answer).bind next
  | note entry rest, next => note entry (rest.bind next)

/-- Goes on after a fault. -/
def handle : Program I ε α → (ε → Program I δ α) → Program I δ α
  | done (.ok value), _ => done (.ok value)
  | done (.error fault), recover => recover fault
  | ask request rest, recover => ask request fun answer => (rest answer).handle recover
  | note entry rest, recover => note entry (rest.handle recover)

def fail (fault : ε) : Program I ε α :=
  done (.error fault)

instance : Monad (Program I ε) where
  pure value := done (.ok value)
  bind := bind

instance : MonadExceptOf ε (Program I ε) where
  throw := fail
  tryCatch := handle

/-- Asks one request and ends with its answer. -/
def request (request : I.Request) : Program I ε (I.Answer request) :=
  ask request fun answer => done (.ok answer)

/-- Makes one note. -/
def noting (entry : I.Note) : Program I ε Unit :=
  note entry (done (.ok ()))

/-- The program with its fault renamed. -/
def mapFault (f : ε → δ) (program : Program I ε α) : Program I δ α :=
  program.handle fun fault => fail (f fault)

/-- The program's outcome as a value; such a program does not fail. -/
def attempt : Program I ε α → Program I δ (Except ε α)
  | done result => done (.ok result)
  | ask request rest => ask request fun answer => (rest answer).attempt
  | note entry rest => note entry rest.attempt

/-- The program over the first of two interfaces. -/
def onLeft (J : Interface) : Program I ε α → Program (I.sum J) ε α
  | done result => done result
  | ask request rest => ask (I := I.sum J) (.inl request) fun answer => (rest answer).onLeft J
  | note entry rest => note (I := I.sum J) (.inl entry) (rest.onLeft J)

/-- The result of a program and the state after its last request. -/
def run (serve : Service I σ) : Program I ε α → σ → Except ε α × σ
  | done result, state => (result, state)
  | ask request rest, state =>
      let (answer, state) := serve request state
      (rest answer).run serve state
  | note _ rest, state => rest.run serve state

/-- Runs a program and enters its notes in a book. -/
def runNoting (serve : Service I σ) (enter : τ → I.Note → τ) :
    Program I ε α → σ × τ → Except ε α × σ × τ
  | done result, state => (result, state)
  | ask request rest, (state, book) =>
      let (answer, state) := serve request state
      (rest answer).runNoting serve enter (state, book)
  | note entry rest, (state, book) => rest.runNoting serve enter (state, enter book entry)

theorem run_bind (serve : Service I σ) (first : Program I ε α) (next : α → Program I ε β)
    (state : σ) :
    (first.bind next).run serve state
      = match first.run serve state with
        | (.ok value, after) => (next value).run serve after
        | (.error fault, after) => (.error fault, after) := by
  induction first generalizing state with
  | done result => cases result <;> rfl
  | ask request rest ih => exact ih _ _
  | note entry rest ih => exact ih _

theorem run_handle (serve : Service I σ) (first : Program I ε α) (recover : ε → Program I δ α)
    (state : σ) :
    (first.handle recover).run serve state
      = match first.run serve state with
        | (.ok value, after) => (.ok value, after)
        | (.error fault, after) => (recover fault).run serve after := by
  induction first generalizing state with
  | done result => cases result <;> rfl
  | ask request rest ih => exact ih _ _
  | note entry rest ih => exact ih _

end Program

end BucketSteward
