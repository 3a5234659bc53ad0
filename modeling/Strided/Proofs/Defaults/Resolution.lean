import Strided.Defaults.Context

/-!
# Resolving a value

What resolving a value against a context comes to is told by the value and the stack: a value that
is left out, be it by itself or in a handle, is replaced by the top of the stack, and has no handle
if there is none; any other is kept, and has no handle if it is of the wrong type.  `load` differs
in the last case alone, which it does not report as a fault.
-/

namespace Strided.Defaults.Context

variable {c : Context} {v : Value} {s : Stacks}

/-! ### A value that is left out -/

theorem resolve_of_stack_cons {top : Value} {rest : List Value} (hv : Handle.unwrap v = .none)
    (hs : c.stack s = top :: rest) :
    ∃ records, c.resolve v s = ⟨records, .ok ⟨.resolved, top⟩⟩ := by
  simp only [resolve, hv, current, hs]
  exact ⟨_, rfl⟩

theorem resolve_of_stack_nil (hv : Handle.unwrap v = .none) (hs : c.stack s = []) :
    c.resolve v s = .fail (.noCurrent c.description) := by
  simp only [resolve, hv, current, hs]

theorem load_of_stack_cons {top : Value} {rest : List Value} (hv : Handle.unwrap v = .none)
    (hs : c.stack s = top :: rest) :
    ∃ records, c.load v s = ⟨records, .ok (some ⟨.resolved, top⟩)⟩ := by
  obtain ⟨records, h⟩ := resolve_of_stack_cons hv hs
  exact ⟨records, by simp only [load, h]⟩

theorem load_of_stack_nil (hv : Handle.unwrap v = .none) (hs : c.stack s = []) :
    c.load v s = .fail (.noCurrent c.description) := by
  have hkind : (Fault.noCurrent c.description).kind.isA .defaultingType = false := by rfl
  simp only [load, resolve_of_stack_nil hv hs, Traced.outcome_fail, hkind]
  rfl

/-! ### A value that is given -/

theorem resolve_of_admits (hv : Handle.unwrap v ≠ .none) (h : c.type.admits (Handle.unwrap v)) :
    c.resolve v s = pure ⟨.explicit, Handle.unwrap v⟩ := by
  unfold resolve
  split
  · contradiction
  · exact if_pos h

theorem resolve_of_not_admits (hv : Handle.unwrap v ≠ .none)
    (h : ¬ c.type.admits (Handle.unwrap v)) :
    c.resolve v s = .fail (.wrongType c.description (Handle.unwrap v).typeName) := by
  unfold resolve
  split
  · contradiction
  · exact if_neg h

theorem load_of_admits (hv : Handle.unwrap v ≠ .none) (h : c.type.admits (Handle.unwrap v)) :
    c.load v s = pure (some ⟨.explicit, Handle.unwrap v⟩) := by
  simp only [load, resolve_of_admits hv h, Traced.outcome_pure]
  rfl

theorem load_of_not_admits (hv : Handle.unwrap v ≠ .none)
    (h : ¬ c.type.admits (Handle.unwrap v)) : c.load v s = pure none := by
  have hkind (t : String) : (Fault.wrongType c.description t).kind.isA .defaultingType := by rfl
  simp only [load, resolve_of_not_admits hv h, Traced.outcome_fail, hkind]
  rfl

/-! ### Handles -/

theorem outcome_load_eq_some_iff {h : Handle} :
    (c.load v s).outcome = .ok (some h) ↔ (c.resolve v s).outcome = .ok h := by
  cases hr : (c.resolve v s).outcome with
  | ok h' => simp [load, hr]
  | error e => by_cases he : e.kind.isA .defaultingType <;> simp [load, hr, he]

theorem eq_resolved_of_resolve {h : Handle} (hv : Handle.unwrap v = .none)
    (hh : (c.resolve v s).outcome = .ok h) :
    ∃ top rest, c.stack s = top :: rest ∧ h = ⟨.resolved, top⟩ := by
  cases hs : c.stack s with
  | nil =>
    rw [resolve_of_stack_nil hv hs] at hh
    cases hh
  | cons top rest =>
    obtain ⟨records, hr⟩ := resolve_of_stack_cons hv hs
    rw [hr] at hh
    cases hh
    exact ⟨top, rest, rfl, rfl⟩

theorem eq_explicit_of_resolve {h : Handle} (hv : Handle.unwrap v ≠ .none)
    (hh : (c.resolve v s).outcome = .ok h) :
    c.type.admits (Handle.unwrap v) ∧ h = ⟨.explicit, Handle.unwrap v⟩ := by
  by_cases ht : c.type.admits (Handle.unwrap v)
  · rw [resolve_of_admits hv ht] at hh
    cases hh
    exact ⟨ht, rfl⟩
  · rw [resolve_of_not_admits hv ht] at hh
    cases hh

end Strided.Defaults.Context
