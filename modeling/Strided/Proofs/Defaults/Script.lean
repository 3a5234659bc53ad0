import Strided.Defaults.Script
import Strided.Proofs.Defaults.Invariant

/-!
# Scripts as programs

What a step of a script does to the stacks, and what it logs, is what a program does and logs
(`Step.performs_run`, by induction on the steps).  So what holds of every run of every program holds
of scripts.
-/

namespace Strided.Defaults

namespace Program

variable {α β : Type}

/-- First the one, then, with what came of it, the other. -/
def followedBy {α : Type} : Program α → (Except Fault α → Program β) → Program β
  | done outcome, q => q outcome
  | perform op next, q => perform op fun r => (next r).followedBy q
  | within scope body next, q => within scope body fun r => (next r).followedBy q

theorem run_followedBy (p : Program α) (q : Except Fault α → Program β) (s : Stacks) :
    (p.followedBy q).run s = (p.run s).andThen fun t r => (q r).run t := by
  induction p generalizing s with
  | done outcome => rfl
  | perform op next ih | within scope body next _ ih =>
    rw [followedBy, run, run]
    simp only [ih, Reply.andThen, List.append_assoc]

end Program

/-- From the stacks `s`, some program does to them what the outcome says, and logs the same. -/
def Outcome.Performs (s : Stacks) (o : Outcome) : Prop :=
  ∃ p : Program Unit, p.run s = ⟨o.session.defaults, o.log, .ok ()⟩

namespace Outcome

variable {α : Type} {s : Session}

theorem performs_of_eq {o : Outcome} (hstacks : o.session.defaults = s.defaults)
    (hlog : o.log = []) : o.Performs s.defaults :=
  ⟨.done (.ok ()), by rw [hstacks, hlog]; rfl⟩

theorem performs_ofExcept (x : Except Fault Value) : (ofExcept s x).Performs s.defaults := by
  cases x with
  | ok v => exact performs_of_eq rfl rfl
  | error e => exact performs_of_eq rfl rfl

theorem performs_after {x : Except Fault α} {f : α → Outcome}
    (h : ∀ a, (f a).Performs s.defaults) : (after s x f).Performs s.defaults := by
  cases x with
  | ok a => exact h a
  | error e => exact performs_of_eq rfl rfl

theorem performs_operation (op : Operation α) {o : Outcome}
    (hstacks : o.session.defaults = (op.run s.defaults).state)
    (hlog : o.log = (op.run s.defaults).log) : o.Performs s.defaults :=
  ⟨.perform op fun _ => .done (.ok ()), by
    rw [hstacks, hlog]
    simp only [Program.run, Reply.andThen, List.append_nil]⟩

theorem performs_ofReply (op : Operation α) (f : α → Value) :
    (ofReply s (op.run s.defaults) f).Performs s.defaults := by
  refine performs_operation op ?_ ?_
  · unfold ofReply
    split <;> rfl
  · unfold ofReply
    split <;> rfl

theorem performs_ofLogged (op : Operation α) {x : Logged α} {f : α → Session × Result}
    (hop : op.run s.defaults = .ofLogged s.defaults x)
    (hstacks : ∀ a, (f a).1.defaults = s.defaults) :
    (ofLogged s x f).Performs s.defaults := by
  refine performs_operation op ?_ ?_
  · rw [hop]
    unfold ofLogged
    split
    · exact hstacks _
    · rfl
  · rw [hop]
    unfold ofLogged
    split <;> rfl

end Outcome

namespace Step

open Outcome

/-- Steps in a scope are a block of a program, if they are a program by themselves. -/
theorem performs_inScope {s : Session} {scope : Scope}
    {body : Session → Session × List (Result × List Log.Record)} {refused : Fault → Result}
    {ended : List (Result × List Log.Record) → Option Fault → Result}
    (h : ∀ s : Session, ∃ p : Program Unit,
      p.run s.defaults = ⟨(body s).1.defaults, (body s).2.flatMap (·.2), .ok ()⟩) :
    (inScope s scope body refused ended).Performs s.defaults := by
  obtain ⟨p, hp⟩ := h { s with defaults := (scope.enter s.defaults).state }
  refine ⟨.within scope p fun _ => .done (.ok ()), ?_⟩
  have hrun : (scope.run p.run s.defaults).state =
        (inScope s scope body refused ended).session.defaults ∧
      (scope.run p.run s.defaults).log = (inScope s scope body refused ended).log := by
    rw [inScope, Scope.run]
    cases hentered : (scope.enter s.defaults).outcome with
    | error e =>
      rw [Reply.bind_of_error hentered]
      exact ⟨rfl, rfl⟩
    | ok _ =>
      rw [Reply.bind_of_ok hentered, hp]
      simp only [Reply.andThen]
      cases hleft : (scope.leave s.defaults (body { s with defaults :=
        (scope.enter s.defaults).state }).1.defaults).outcome with
      | ok _ => rw [Reply.bind_of_ok hleft]; simp
      | error e => rw [Reply.bind_of_error hleft]; simp
  simp only [Program.run, Reply.andThen, List.append_nil, hrun]

theorem defaults_noteChange (s : Session) (a : Attribute) :
    (s.noteChange a).defaults = s.defaults := by
  unfold Session.noteChange
  split <;> rfl

mutual

/-- **What a step does to the stacks and what it logs is what a program does and logs.** -/
theorem performs_run (objects : Objects) (s : Session) :
    (step : Step) → (run objects s step).Performs s.defaults
  | push _ _ => performs_after fun c => performs_after fun v => performs_ofReply (.push c v) _
  | pop _ => performs_after fun c => performs_ofReply (.pop c) _
  | resolve _ _ => performs_after fun c => performs_after fun v =>
    performs_ofLogged (.resolve c v) rfl fun _ => rfl
  | load _ _ => performs_after fun c => performs_after fun v =>
    performs_ofLogged (.load c v) rfl fun
      | some _ => rfl
      | none => rfl
  | call .. => performs_after fun d => performs_after fun a =>
    performs_ofLogged (.call d a.1 a.2) rfl fun _ => rfl
  | bind _ _ body _ => performs_after fun _ => performs_after fun _ =>
    performs_inScope fun s => performs_runAll objects s body
  | thread body => performs_inScope fun s => performs_runAll objects s body
  | copy body => performs_inScope fun s => performs_runAll objects s body
  -- the others look at the stacks at most
  | current _ => performs_after fun c => performs_ofExcept (c.current s.defaults)
  | describe _ | description _ => performs_after fun _ => performs_of_eq rfl rfl
  | refused _ | context .. | make _ none => performs_of_eq rfl rfl
  | make _ (some _) => performs_after fun _ => performs_of_eq rfl rfl
  | blank .. => performs_ofExcept _
  | get _ | length _ | delete .. => performs_after fun _ => performs_of_eq rfl rfl
  | getAttribute .. | isExplicit _ | display _ => performs_after fun _ => performs_ofExcept _
  | callAttribute .. => performs_after fun _ => performs_after fun a =>
    defaults_noteChange s a ▸ performs_ofExcept a.call
  | equals .. | hashesAlike .. => performs_after fun _ => performs_after fun _ =>
    performs_ofExcept _
  | assign .. => performs_after fun _ => performs_after fun _ => performs_of_eq rfl rfl
  | decorate .. | functionInfo _ | accessByClass _ => performs_after fun _ => performs_of_eq rfl rfl

theorem performs_runAll (objects : Objects) (s : Session) :
    (steps : List Step) → ∃ p : Program Unit, p.run s.defaults =
      ⟨(runAll objects s steps).1.defaults, (runAll objects s steps).2.flatMap (·.2), .ok ()⟩
  | [] => ⟨.done (.ok ()), rfl⟩
  | step :: rest => by
    obtain ⟨p, hp⟩ := performs_run objects s step
    obtain ⟨q, hq⟩ := performs_runAll objects (run objects s step).session rest
    refine ⟨p.followedBy fun _ => q, ?_⟩
    rw [Program.run_followedBy, hp, Reply.andThen]
    simp only [hq]
    rfl

end

end Step

end Strided.Defaults
