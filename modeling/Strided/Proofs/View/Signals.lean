import Strided.Proofs.View.Subscript
import Strided.Proofs.View.Traversal

/-!
# Signalling and raising

A subscript can be applied in two ways: `View.subSlice` signals what is wrong with it, and
`View.get` fails with the same fault.  Only an index out of range and an unusable subscript are
signalled, and each has its kind of fault (`signalled_cases`).

A fault of the store is no signal, of whatever kind it is: both ways fail with it.  A store may well
fail as an index out of range does, for it may be a view itself (`fault_of_store_not_signalled`).
-/

namespace Strided

/-- The store itself fails with `e`, asked for its size or for an element. -/
def Backing.Raises {α : Type} (b : Backing α) (e : Fault) : Prop :=
  b.count = .error e ∨ ∃ i, b.read i = .error e

namespace View

variable {α : Type}

/-! ### Signals and faults -/

theorem events_get (checks : Bool) (v : View α) (subscript : Value) :
    (v.get checks subscript).events = (v.subSlice checks subscript).events := by
  rw [get_eq_bind]
  cases h : (v.subSlice checks subscript).outcome with
  | ok x => rw [Traced.bind_of_ok h]; exact List.append_nil _
  | error e => rw [Traced.bind_of_error h]

theorem outcome_get (checks : Bool) (v : View α) (subscript : Value) :
    (v.get checks subscript).outcome = (v.subSlice checks subscript).outcome >>= id := by
  rw [get_eq_bind, Traced.outcome_bind]
  rfl

/-- Out of range an index is signalled or raised, with nothing read; in range there is no
difference. -/
theorem itemAt_cases (checks : Bool) (v : View α) (i : Int) :
    (i < -v.size ∨ (v.size : Int) ≤ i) ∧ v.itemAt checks i = pure (.error .indexOutOfRange) ∧
      v.elementAt checks i = .fail .indexOutOfRange ∨
    (-v.size ≤ i ∧ i < v.size) ∧ v.itemAt checks i = Except.ok <$> v.elementAt checks i := by
  cases h : v.window.wrap? i with
  | none =>
    exact .inl ⟨Window.wrap?_eq_none_iff.1 h, itemAt_of_wrap_none checks h,
      elementAt_of_wrap_none checks h⟩
  | some p =>
    obtain ⟨hp, hi⟩ := Window.wrap?_eq_some_iff.1 h
    have hsize : v.size = v.window.length := rfl
    refine .inr ⟨by omega, ?_⟩
    rw [itemAt_of_wrap checks h, elementAt_of_wrap checks h]

/-- A position is read without a fault of that kind, unless the store has one. -/
theorem raises_of_readAt {v : View α} {checks : Bool} {p : Nat} {e : Fault}
    (h : (v.readAt checks p).outcome = .error e) (hkind : e.kind = .sliceIndex) :
    v.backing.Raises e := by
  rcases linearize_cases checks v p with ⟨hlinear, -⟩ | hlinear | ⟨f, hf, hlinear⟩
  · rw [readAt, hlinear, Traced.pure_bind] at h
    exact .inr ⟨_, h⟩
  · rw [readAt, hlinear, Probe.violate_bind, Probe.violate] at h
    split at h <;> cases h <;> cases hkind
  · rw [readAt, hlinear, Traced.fail_bind] at h
    cases h
    exact .inl hf

/-- What is raised as an index out of range has been signalled, or comes from the store. -/
theorem elementAt_eq_error_iff (checks : Bool) (v : View α) (i : Int) (e : Fault) :
    (v.elementAt checks i).outcome = .error e ∧ e.kind = .sliceIndex ↔
      (v.itemAt checks i).outcome = .ok (.error e) ∨
      (v.itemAt checks i).outcome = .error e ∧ e.kind = .sliceIndex ∧ v.backing.Raises e := by
  cases h : v.window.wrap? i with
  | none =>
    rw [itemAt_of_wrap_none checks h, elementAt_of_wrap_none checks h, Traced.outcome_pure,
      Traced.outcome_fail]
    constructor
    · rintro ⟨he, -⟩
      cases he
      exact .inl rfl
    · rintro (he | ⟨he, -⟩)
      · cases he
        exact ⟨rfl, rfl⟩
      · cases he
  | some p =>
    rw [itemAt_of_wrap checks h, elementAt_of_wrap checks h, Traced.outcome_map]
    constructor
    · rintro ⟨he, hkind⟩
      exact .inr ⟨by rw [he]; rfl, hkind, raises_of_readAt he hkind⟩
    · rintro (he | ⟨he, hkind, -⟩)
      · obtain ⟨a, -, ha⟩ := map_eq_ok_iff.1 he
        cases ha
      · cases hx : (v.readAt checks p).outcome with
        | ok a =>
          rw [hx] at he
          cases he
        | error f =>
          rw [hx] at he
          cases he
          exact ⟨rfl, hkind⟩

theorem get_eq_ok_iff {checks : Bool} {v : View α} {subscript : Value} {x : Selected α} :
    (v.get checks subscript).outcome = .ok x ↔
      (v.subSlice checks subscript).outcome = .ok (.ok x) := by
  rw [outcome_get]
  rcases (v.subSlice checks subscript).outcome with e | e | y <;> simp [bind, Except.bind]

theorem get_eq_error_iff {checks : Bool} {v : View α} {subscript : Value} {e : Fault} :
    (v.get checks subscript).outcome = .error e ↔
      (v.subSlice checks subscript).outcome = .ok (.error e) ∨
        (v.subSlice checks subscript).outcome = .error e := by
  rw [outcome_get]
  rcases (v.subSlice checks subscript).outcome with f | f | y <;> simp [bind, Except.bind]

/-- Nothing is read for what is signalled: an index out of range, or an unusable subscript. -/
theorem signalled_cases {checks : Bool} {v : View α} {subscript : Value} {e : Fault}
    (h : (v.subSlice checks subscript).outcome = .ok (.error e)) :
    v.subSlice checks subscript = pure (.error e) ∧
      (e.kind = .sliceIndex ∧
          (∃ i, subscript.toIndex = .ok i ∧ (i < -v.size ∨ (v.size : Int) ≤ i)) ∨
        e.kind = .subscriptType ∧ Unusable subscript ∧ ∀ e, ¬ FailsWith subscript e) := by
  rcases subscript_cases subscript with ⟨i, hi⟩ | ⟨start, stop, step, s, rfl, hs, h0⟩ | ⟨f, hf⟩ |
    ⟨hbad, hown⟩
  · have hsub := subSlice_of_toIndex checks v hi
    rcases itemAt_cases checks v i with ⟨hout, hitem, -⟩ | ⟨-, hitem⟩
    · rw [hitem, map_pure] at hsub
      rw [hsub] at h ⊢
      cases h
      exact ⟨rfl, .inl ⟨rfl, i, hi, hout⟩⟩
    · rw [hsub, hitem, Traced.outcome_map, Traced.outcome_map] at h
      cases hx : (v.elementAt checks i).outcome <;> rw [hx] at h <;> cases h
  · obtain ⟨b, hb⟩ := Slice.exists_normalize h0 v.size
    rw [subSlice_of_ofValues checks hs hb] at h
    cases h
  · rw [subSlice_of_failsWith checks v hf] at h
    cases h
  · obtain ⟨f, hkind, hf⟩ := exists_subSlice_of_unusable (α := α) hbad hown
    rw [hf] at h ⊢
    cases h
    exact ⟨rfl, .inr ⟨hkind, hbad, hown⟩⟩

/-- **Signalling and raising agree on every subscript.**

* They do the same, and come to the same result.  What is raised is what is signalled, or what fails
  in both.
* A fault that the subscript has of its own fails in both, unchanged.
* With what is signalled nothing is read.  It is of one of two kinds: an index out of range, just if
  the subscript is an integer outside the range, and an unusable subscript, just if it is one and
  has no fault of its own.
* An integer comes to what the element at it comes to, with either way to ask for the element.
* These two ways differ at an index out of range, which is signalled or raised, and nowhere else.
  What is raised as an index out of range is what is signalled, or a fault of the store's own, and
  then the signalling way fails with it too. -/
theorem subSlice_agrees_with_get (checks : Bool) (v : View α) (subscript : Value) :
    let signalled := v.subSlice checks subscript
    let raised := v.get checks subscript
    raised.events = signalled.events ∧
    (∀ x, raised.outcome = .ok x ↔ signalled.outcome = .ok (.ok x)) ∧
    (∀ e, raised.outcome = .error e ↔
      signalled.outcome = .ok (.error e) ∨ signalled.outcome = .error e) ∧
    (∀ e, FailsWith subscript e → signalled = .fail e ∧ raised = .fail e) ∧
    (∀ e, signalled.outcome = .ok (.error e) →
      signalled = pure (.error e) ∧ (e.kind = .sliceIndex ∨ e.kind = .subscriptType)) ∧
    ((∃ e, signalled.outcome = .ok (.error e) ∧ e.kind = .sliceIndex) ↔
      ∃ i, subscript.toIndex = .ok i ∧ (i < -v.size ∨ (v.size : Int) ≤ i)) ∧
    ((∃ e, signalled.outcome = .ok (.error e) ∧ e.kind = .subscriptType) ↔
      Unusable subscript ∧ ∀ e, ¬ FailsWith subscript e) ∧
    (∀ i, subscript.toIndex = .ok i → signalled = Except.map .element <$> v.itemAt checks i ∧
      raised = .element <$> v.elementAt checks i) ∧
    (∀ i : Int, (i < -v.size ∨ (v.size : Int) ≤ i) ∧
        v.itemAt checks i = pure (.error .indexOutOfRange) ∧
        v.elementAt checks i = .fail .indexOutOfRange ∨
      (-v.size ≤ i ∧ i < v.size) ∧ v.itemAt checks i = Except.ok <$> v.elementAt checks i) ∧
    ∀ i e, (v.elementAt checks i).outcome = .error e ∧ e.kind = .sliceIndex ↔
      (v.itemAt checks i).outcome = .ok (.error e) ∨
      (v.itemAt checks i).outcome = .error e ∧ e.kind = .sliceIndex ∧ v.backing.Raises e := by
  intro signalled raised
  refine ⟨events_get checks v subscript, fun x => get_eq_ok_iff, fun e => get_eq_error_iff,
    fun e he => ?_, fun e he => ?_, ⟨?_, ?_⟩, ⟨?_, ?_⟩, fun i hi => ?_, itemAt_cases checks v,
    elementAt_eq_error_iff checks v⟩
  · have hsub : signalled = .fail e := subSlice_of_failsWith checks v he
    exact ⟨hsub, by rw [show raised = signalled >>= _ from rfl, hsub, Traced.fail_bind]⟩
  · obtain ⟨hsub, hcases⟩ := signalled_cases he
    exact ⟨hsub, hcases.imp And.left And.left⟩
  · rintro ⟨e, he, hkind⟩
    obtain ⟨-, ⟨-, hi⟩ | ⟨hother, -⟩⟩ := signalled_cases he
    · exact hi
    · cases hkind.symm.trans hother
  · rintro ⟨i, hi, hout⟩
    refine ⟨.indexOutOfRange, ?_, rfl⟩
    rcases itemAt_cases checks v i with ⟨-, hitem, -⟩ | ⟨hin, -⟩
    · rw [show signalled = _ from subSlice_of_toIndex checks v hi, hitem]
      rfl
    · omega
  · rintro ⟨e, he, hkind⟩
    obtain ⟨-, ⟨hother, -⟩ | ⟨-, hbad⟩⟩ := signalled_cases he
    · cases hkind.symm.trans hother
    · exact hbad
  · rintro ⟨hbad, hown⟩
    obtain ⟨e, hkind, he⟩ := exists_subSlice_of_unusable (α := α) hbad hown
    exact ⟨e, congrArg Traced.outcome (he checks v), hkind⟩
  · exact ⟨subSlice_of_toIndex checks v hi, get_of_toIndex checks v hi⟩

/-- An object that fails on its own with the kind of an index out of range is not signalled.  As the
stop of a slice it is not asked when the start is no integer, and such a slice is signalled; so is
the first index beyond three elements. -/
theorem subSlice_agrees_with_get_of_three :
    let b := Backing.ofSequence 0 "SequenceBacking" .plain (.list [.int 7, .int 8, .int 9] none)
    let v : View Value := ⟨.plain, b, Window.whole 3⟩
    let own : Value := .badIndex .sliceIndex "boom" none
    let typed : Value := .badIndex .defaultingType "boom" none
    (FailsWith own (.raised .sliceIndex "boom") ∧
      v.subSlice true own = .fail (.raised .sliceIndex "boom") ∧
      v.get true own = .fail (.raised .sliceIndex "boom")) ∧
    (Unusable (.slice typed own .none) ∧ (∀ e, ¬ FailsWith (.slice typed own .none) e) ∧
      ∃ e, v.subSlice true (.slice typed own .none) = pure (.error e) ∧ e.kind = .subscriptType ∧
        (v.get true (.slice typed own .none)).outcome = .error e) ∧
    (Value.toIndex (.int 3) = .ok 3 ∧ (v.itemAt true 3).outcome = .ok (.error .indexOutOfRange) ∧
      (v.elementAt true 3).outcome = .error .indexOutOfRange ∧
      v.get true (.int 3) = Selected.element <$> v.elementAt true 3) := by
  intro b v own typed
  have hown : FailsWith own (.raised .sliceIndex "boom") := .integer rfl (by decide)
  obtain ⟨-, -, -, hfail, -⟩ := subSlice_agrees_with_get true v own
  obtain ⟨-, -, hraised, -, hsignal, -, hbad, -⟩ :=
    subSlice_agrees_with_get true v (.slice typed own .none)
  obtain ⟨-, -, -, -, -, -, -, hint, -, hiff⟩ := subSlice_agrees_with_get true v (.int 3)
  have hitem : (v.itemAt true 3).outcome = .ok (.error .indexOutOfRange) := rfl
  refine ⟨⟨hown, hfail _ hown⟩, ?_, rfl, hitem, ?_, (hint 3 rfl).2⟩
  · have hs : (v.subSlice true (.slice typed own .none)).outcome = .ok (.error .fieldNotInteger) :=
      rfl
    obtain ⟨hunusable, hnone⟩ := hbad.1 ⟨_, hs, rfl⟩
    exact ⟨hunusable, hnone, _, (hsignal _ hs).1, rfl, (hraised _).2 (.inl hs)⟩
  · exact ((hiff 3 .indexOutOfRange).2 (.inl hitem)).1

/-- Without checks, views that begin behind the end of three numbers.  Over the numbers themselves,
the store fails with a fault of its own; over a view of them, it fails as an index out of range
does.  Either way both interfaces fail with it, and nothing is signalled. -/
theorem fault_of_store_not_signalled :
    let numbers := Backing.ofSequence 0 "SequenceBacking" .plain
      (.list [.int 1, .int 2, .int 3] none)
    ∃ inner v w : View Value, View.ofBacking numbers = pure inner ∧
      View.make .plain numbers 5 1 1 = pure v ∧
      View.make .plain (.ofView 1 "SequenceBacking" .plain false inner) 5 1 1 = pure w ∧
      (v.get false (.int 0)).outcome = .error (.beyondSequence .list) ∧
      (v.subSlice false (.int 0)).outcome = .error (.beyondSequence .list) ∧
      ¬ (∀ e, (v.subSlice false (.int 0)).outcome = .ok (.error e) ↔
        (v.get false (.int 0)).outcome = .error e) ∧
      (w.elementAt false 0).outcome = .error .indexOutOfRange ∧
      Fault.indexOutOfRange.kind = .sliceIndex ∧
      (w.itemAt false 0).outcome = .error .indexOutOfRange ∧
      ¬ ((∃ e, (w.itemAt false 0).outcome = .ok (.error e)) ↔
        ∃ e, (w.elementAt false 0).outcome = .error e ∧ e.kind = .sliceIndex) := by
  intro numbers
  refine ⟨⟨.plain, numbers, Window.whole 3⟩, _, _, full_of_count .plain rfl,
    make_of_valid .plain _ 5 1 (by decide), make_of_valid .plain _ 5 1 (by decide), rfl, rfl, ?_,
    rfl, rfl, rfl, ?_⟩
  · intro hiff
    cases (hiff (.beyondSequence .list)).2 rfl
  · intro hiff
    obtain ⟨e, he⟩ := hiff.2 ⟨.indexOutOfRange, rfl, rfl⟩
    cases he

end View

end Strided
