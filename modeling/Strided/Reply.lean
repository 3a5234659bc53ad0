import Strided.Traced

/-!
# Replies

What an operation on something that has a state answers: the state afterwards, the records written,
and the outcome.  The state is there after a fault too.
-/

namespace Strided

/-- The state afterwards, what was logged, and the outcome. -/
structure Reply (σ α : Type) where
  state : σ
  log : List Log.Record
  outcome : Except Fault α

namespace Reply

variable {σ τ α β : Type}

def ok (s : σ) (a : α) : Reply σ α := ⟨s, [], .ok a⟩

def fault (s : σ) (e : Fault) : Reply σ α := ⟨s, [], .error e⟩

def violation (s : σ) (v : Violation) : Reply σ α := ⟨s, [v.record], .error (.violation v)⟩

/-- The reply with its state seen as part of another. -/
def mapState (f : σ → τ) (r : Reply σ α) : Reply τ α := ⟨f r.state, r.log, r.outcome⟩

def map (f : α → β) (r : Reply σ α) : Reply σ β := ⟨r.state, r.log, r.outcome.map f⟩

/-- First the one, then, with the state it leaves and unless it failed, the other. -/
def bind (r : Reply σ α) (f : σ → α → Reply σ β) : Reply σ β :=
  match r.outcome with
  | .ok a =>
    let next := f r.state a
    ⟨next.state, r.log ++ next.log, next.outcome⟩
  | .error e => ⟨r.state, r.log, .error e⟩

/-- First the one, then, with the state it leaves and whatever came of it, the other. -/
def andThen (r : Reply σ α) (f : σ → Except Fault α → Reply σ β) : Reply σ β :=
  let next := f r.state r.outcome
  ⟨next.state, r.log ++ next.log, next.outcome⟩

/-- What only logs leaves the state as it is. -/
def ofLogged (s : σ) (x : Logged α) : Reply σ α := ⟨s, x.events, x.outcome⟩

/-- What only reads leaves the state as it is. -/
def ofProbe (s : σ) (x : Probe α) : Reply σ α := ⟨s, x.records, x.outcome⟩

/-- What follows a result comes after its records. -/
theorem bind_of_ok {r : Reply σ α} {a : α} (h : r.outcome = .ok a) (f : σ → α → Reply σ β) :
    r.bind f = ⟨(f r.state a).state, r.log ++ (f r.state a).log, (f r.state a).outcome⟩ := by
  simp only [bind, h]

/-- Nothing follows a fault. -/
theorem bind_of_error {r : Reply σ α} {e : Fault} (h : r.outcome = .error e)
    (f : σ → α → Reply σ β) : r.bind f = ⟨r.state, r.log, .error e⟩ := by
  simp only [bind, h]

end Reply

end Strided
