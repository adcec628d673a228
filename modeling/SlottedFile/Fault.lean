/-!
# How an operation can fail

An operation of this library ends in one of three ways: with a value, with an
error that it reports to its caller, or by **overrunning** – it was handed a
number that its own arithmetic or its own buffers cannot hold, and stops where
it stands. The last two are kept apart, because an error is an answer and an
overrun is not.

In both cases whatever was changed before the failure stays changed. Every
stateful operation therefore lives in `EStateM`, whose state survives a
failure, and every undoing that an operation wants it has to write down.
-/

namespace SlottedFile

/-- **Why an operation stopped without an answer.** -/
inductive Overrun where
  /-- An index or a range lies outside its buffer. -/
  | range
  /-- Two byte strings that have to be equally long are not. -/
  | length
  /-- A number does not fit in 64 bits, or is below zero. -/
  | number
  deriving DecidableEq, Repr

/-- **Why an operation failed**: it reported an error, or it overran. -/
inductive Fault (ε : Type) where
  | error (e : ε)
  | overrun (o : Overrun)
  deriving DecidableEq, Repr

namespace Fault

/-- The same failure with its error read in a wider error type. -/
def map {ε ε' : Type} (f : ε → ε') : Fault ε → Fault ε'
  | .error e => .error (f e)
  | .overrun o => .overrun o

/-- **Whether a failure is an answer**: an error that was reported, and not an
overrun. -/
def IsError {ε : Type} : Fault ε → Prop
  | .error _ => True
  | .overrun _ => False

end Fault

/-- Sums and products of machine words stay below this bound. -/
def wordLimit : Nat := 0x10000000000000000

/-- A number, if it fits in 64 bits. -/
def checkWord (n : Nat) : Except Overrun Nat :=
  if n < wordLimit then .ok n else .error .number

theorem checkWord_eq_ok_iff {n m : Nat} : checkWord n = .ok m ↔ n < wordLimit ∧ n = m := by
  unfold checkWord
  split
  · simp_all
  · simp only [reduceCtorEq, false_iff]
    omega

/-! ## Failing inside a stateful computation -/

/-- The answer of a pure computation that can overrun, inside a stateful one. -/
def liftOverrun {ε σ α : Type} : Except Overrun α → EStateM (Fault ε) σ α
  | .ok a => pure a
  | .error o => throw (.overrun o)

/-- Fail with an error of one's own. -/
def fail {ε σ α : Type} (e : ε) : EStateM (Fault ε) σ α := throw (.error e)

/-- **Run a computation on a part of the state.** The part is written back
whether the computation succeeds or fails, and its errors are read in the wider
error type. -/
def onPart {ε ε' σ τ α : Type} (get : σ → τ) (put : τ → σ → σ) (widen : ε → ε')
    (x : EStateM (Fault ε) τ α) : EStateM (Fault ε') σ α := fun s =>
  match x (get s) with
  | .ok a t => .ok a (put t s)
  | .error e t => .error (e.map widen) (put t s)

/-- Run a computation whose errors are read in a wider error type. -/
def widenError {ε ε' σ α : Type} (widen : ε → ε') (x : EStateM (Fault ε) σ α) :
    EStateM (Fault ε') σ α :=
  onPart id (fun t _ => t) widen x

/-- Run a computation and hand its error, if it reports one, to the caller as a
value. An overrun is not caught. -/
def attempt {ε σ α : Type} (x : EStateM (Fault ε) σ α) :
    EStateM (Fault ε) σ (Except ε α) := fun s =>
  match x s with
  | .ok a s' => .ok (.ok a) s'
  | .error (.error e) s' => .ok (.error e) s'
  | .error (.overrun o) s' => .error (.overrun o) s'

/-- Run a computation, and a clean-up after it if it fails in either way. -/
def onFailure {ε σ α : Type} (cleanUp : EStateM (Fault ε) σ Unit) (x : EStateM (Fault ε) σ α) :
    EStateM (Fault ε) σ α := fun s =>
  match x s with
  | .ok a s' => .ok a s'
  | .error e s' =>
    match cleanUp s' with
    | .ok _ s'' => .error e s''
    | .error e' s'' => .error e' s''

end SlottedFile
