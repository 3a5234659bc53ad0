import Strided.Fault

/-!
# Traced computations

A `Traced ε α` is what a computation did: the events in order, and its outcome.  Sequencing appends
the events; after a fault nothing more happens.  A handler of faults sees the fault but cannot undo
the events.
-/

namespace Strided

/-- Events, and a result or a fault. -/
@[ext] structure Traced (ε α : Type) where
  events : List ε
  outcome : Except Fault α

namespace Traced

variable {ε α β γ : Type}

protected def pure (a : α) : Traced ε α := ⟨[], .ok a⟩

/-- First the one, then, unless it failed, the other. -/
protected def bind (x : Traced ε α) (f : α → Traced ε β) : Traced ε β :=
  match x.outcome with
  | .ok a =>
    let y := f a
    ⟨x.events ++ y.events, y.outcome⟩
  | .error e => ⟨x.events, .error e⟩

instance : Monad (Traced ε) where
  pure := Traced.pure
  bind := Traced.bind

def fail (e : Fault) : Traced ε α := ⟨[], .error e⟩

/-- A fault in `x` is handled by `handler`, after the events of `x`. -/
def recover (x : Traced ε α) (handler : Fault → Traced ε α) : Traced ε α :=
  match x.outcome with
  | .ok _ => x
  | .error e =>
    let y := handler e
    ⟨x.events ++ y.events, y.outcome⟩

instance : MonadExceptOf Fault (Traced ε) where
  throw := fail
  tryCatch := recover

def emit (event : ε) : Traced ε Unit := ⟨[event], .ok ()⟩

/-- An outcome that took no event. -/
def ofExcept (x : Except Fault α) : Traced ε α := ⟨[], x⟩

@[simp] theorem events_pure (a : α) : (pure a : Traced ε α).events = [] := rfl
@[simp] theorem outcome_pure (a : α) : (pure a : Traced ε α).outcome = .ok a := rfl
@[simp] theorem events_fail (e : Fault) : (fail e : Traced ε α).events = [] := rfl
@[simp] theorem outcome_fail (e : Fault) : (fail e : Traced ε α).outcome = .error e := rfl

/-- What follows a result comes after its events. -/
theorem bind_of_ok {x : Traced ε α} {a : α} (h : x.outcome = .ok a) (f : α → Traced ε β) :
    x >>= f = ⟨x.events ++ (f a).events, (f a).outcome⟩ := by
  change Traced.bind x f = _
  simp [Traced.bind, h]

theorem ok_bind (events : List ε) (a : α) (f : α → Traced ε β) :
    (⟨events, .ok a⟩ : Traced ε α) >>= f = ⟨events ++ (f a).events, (f a).outcome⟩ :=
  bind_of_ok rfl f

/-- Nothing follows a fault. -/
theorem bind_of_error {x : Traced ε α} {e : Fault} (h : x.outcome = .error e) (f : α → Traced ε β) :
    x >>= f = ⟨x.events, .error e⟩ := by
  change Traced.bind x f = _
  simp [Traced.bind, h]

@[simp] theorem pure_bind (a : α) (f : α → Traced ε β) : (pure a : Traced ε α) >>= f = f a := by
  rw [bind_of_ok (outcome_pure a)]; simp

@[simp] theorem fail_bind (e : Fault) (f : α → Traced ε β) : (fail e : Traced ε α) >>= f = fail e :=
  rfl

@[simp] theorem ofExcept_ok (a : α) : (ofExcept (.ok a) : Traced ε α) = pure a := rfl

@[simp] theorem ofExcept_error (e : Fault) : (ofExcept (.error e) : Traced ε α) = fail e := rfl

theorem ofExcept_bind (x : Except Fault α) (f : α → Except Fault β) :
    (ofExcept (x >>= f) : Traced ε β) = ofExcept x >>= fun a => ofExcept (f a) := by
  cases x with
  | ok a => exact (pure_bind a fun a => ofExcept (f a)).symm
  | error e => rfl

instance : LawfulMonad (Traced ε) := LawfulMonad.mk' (Traced ε)
  (by
    intro α x
    change Traced.bind x (fun a => Traced.pure a) = x
    obtain ⟨events, outcome⟩ := x
    cases outcome <;> simp [Traced.bind, Traced.pure])
  (by intro α β a f; exact pure_bind a f)
  (by
    intro α β γ x f g
    change Traced.bind (Traced.bind x f) g = Traced.bind x fun a => Traced.bind (f a) g
    obtain ⟨events, outcome⟩ := x
    cases outcome with
    | error e => rfl
    | ok a => cases h : (f a).outcome <;> simp [Traced.bind, h])

@[simp] theorem events_map (f : α → β) (x : Traced ε α) : (f <$> x).events = x.events := by
  obtain ⟨events, outcome⟩ := x
  rw [map_eq_pure_bind]
  cases outcome with
  | ok a => rw [ok_bind, events_pure, List.append_nil]
  | error e => rfl

@[simp] theorem outcome_map (f : α → β) (x : Traced ε α) : (f <$> x).outcome = f <$> x.outcome := by
  obtain ⟨events, outcome⟩ := x
  cases outcome <;> rfl

theorem emit_bind (e : ε) (x : Traced ε α) :
    (emit e >>= fun _ => x) = ⟨e :: x.events, x.outcome⟩ := rfl

theorem emit_bind_recover (e : ε) (x : Traced ε α) (handler : Fault → Traced ε α) :
    (emit e >>= fun _ => x).recover handler = emit e >>= fun _ => x.recover handler := by
  obtain ⟨events, outcome⟩ := x
  cases outcome <;> rfl

/-- A computation is an outcome, or an event and then a computation. -/
theorem event_induction {motive : Traced ε α → Prop} (done : ∀ outcome, motive (ofExcept outcome))
    (event : ∀ e x, motive x → motive (emit e >>= fun _ => x)) (x : Traced ε α) : motive x := by
  obtain ⟨events, outcome⟩ := x
  induction events with
  | nil => exact done outcome
  | cons e rest ih => exact event e _ ih

end Traced

/-- A computation that writes log records. -/
abbrev Logged (α : Type) := Traced Log.Record α

/-- Something that happens while a view is used: an element of a store, which is known by its
identity, is read at an index, or a record is written. -/
inductive Event where
  | read (store : Nat) (index : Int)
  | log (record : Log.Record)
  deriving DecidableEq, Repr

/-- A computation that reads elements of a store. -/
abbrev Probe (α : Type) := Traced Event α

namespace Probe

/-- The indices that were read, in order. -/
def reads {α : Type} (x : Probe α) : List Int :=
  x.events.filterMap fun
    | .read _ i => some i
    | .log _ => none

/-- The records that were written, in order. -/
def records {α : Type} (x : Probe α) : List Log.Record :=
  x.events.filterMap fun
    | .read .. => none
    | .log r => some r

/-- A violation is logged and then reported.  One that cannot be put into words is neither. -/
def violate {α : Type} (v : Violation) : Probe α :=
  if v.isWritable then ⟨[.log v.record], .error (.violation v)⟩ else .fail .tooManyDigits

theorem violate_bind {α β : Type} (v : Violation) (f : α → Probe β) :
    violate v >>= f = violate v := by
  unfold violate
  split <;> rfl

@[simp] theorem violate_map {α β : Type} (f : α → β) (v : Violation) :
    f <$> violate v = violate v := by
  rw [map_eq_pure_bind, violate_bind]

theorem outcome_violate_ne_ok {α : Type} (v : Violation) (a : α) :
    (violate v : Probe α).outcome ≠ .ok a := by
  unfold violate
  split <;> nofun

end Probe

end Strided
