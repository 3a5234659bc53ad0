import Strided.Proofs.View.Operation

/-!
# What checks change

With checks a view compares every linear index with the number of elements before it reads.
`Probe.guarded` says what that does to a computation as a whole: it goes on as it did without
checks up to the first read that leaves its store, and there it ends with the violation.

`run_guarded` proves it of every operation of every view, well formed or not, by choosing the
relation of `Operation.run_related`.  So nothing is ever read outside a store (`reads_within`), and
an operation that stays inside is not changed.  Views that slices lead to do stay inside
(`derivation_sound`).
-/

namespace Strided

/-- A read stays below the number of elements of its store. -/
def Event.Within (limit : Nat → Nat) : Event → Prop
  | .read store i => 0 ≤ i ∧ i < limit store
  | .log _ => True

instance (limit : Nat → Nat) : DecidablePred (Event.Within limit)
  | .read store i => inferInstanceAs (Decidable (0 ≤ i ∧ i < limit store))
  | .log _ => inferInstanceAs (Decidable True)

namespace Probe

variable {β γ : Type} {limit : Nat → Nat}

/-! ### Ending at the first read that leaves its store -/

theorem violate_recover (v : Violation) :
    (violate v : Probe β).recover View.missing = violate v := by
  unfold violate
  split <;> rfl

/-- An event, or a violation in place of a read that leaves its store. -/
def guard (limit : Nat → Nat) : Event → Probe Unit
  | .read store i =>
    if 0 ≤ i ∧ i < limit store then .emit (.read store i) else violate (.outOfBounds i)
  | .log record => .emit (.log record)

theorem guard_of_within {e : Event} (h : e.Within limit) : guard limit e = .emit e := by
  cases e with
  | read store i => exact if_pos h
  | log record => rfl

theorem guard_recover (e : Event) (x : Probe β) :
    (guard limit e >>= fun _ => x).recover View.missing =
      guard limit e >>= fun _ => x.recover View.missing := by
  by_cases h : e.Within limit
  · rw [guard_of_within h, Traced.emit_bind_recover]
  · cases e with
    | log record => exact absurd trivial h
    | read store i =>
      rw [show guard limit (.read store i) = violate (.outOfBounds i) from if_neg h, violate_bind,
        violate_bind, violate_recover]

/-- The computation, ended by a violation at the first read that leaves its store. -/
def guarded (limit : Nat → Nat) (x : Probe β) : Probe β :=
  x.events.foldr (fun e rest => guard limit e >>= fun _ => rest) (.ofExcept x.outcome)

theorem guarded_emit_bind (e : Event) (x : Probe β) :
    guarded limit (Traced.emit e >>= fun _ => x) = guard limit e >>= fun _ => guarded limit x := rfl

theorem guarded_bind (x : Probe β) (f : β → Probe γ) :
    guarded limit (x >>= f) = guarded limit x >>= fun a => guarded limit (f a) := by
  induction x using Traced.event_induction with
  | done outcome =>
    cases outcome with
    | ok a =>
      rw [Traced.ofExcept_ok, Traced.pure_bind]
      exact (Traced.pure_bind a fun a => guarded limit (f a)).symm
    | error e => rfl
  | event e x ih => rw [bind_assoc, guarded_emit_bind, ih, guarded_emit_bind, bind_assoc]

theorem guarded_recover (x : Probe β) :
    guarded limit (x.recover View.missing) = (guarded limit x).recover View.missing := by
  induction x using Traced.event_induction with
  | done outcome => cases outcome <;> rfl
  | event e x ih =>
    rw [Traced.emit_bind_recover, guarded_emit_bind, guarded_emit_bind, ih, guard_recover]

theorem guarded_of_within {x : Probe β} (h : ∀ e ∈ x.events, e.Within limit) :
    guarded limit x = x := by
  induction x using Traced.event_induction with
  | done outcome => rfl
  | event e x ih =>
    rw [guarded_emit_bind, guard_of_within (h e (List.mem_cons_self ..)),
      ih fun f hf => h f (List.mem_cons_of_mem e hf)]

/-- A read outside its store is the end, whatever came after it. -/
theorem guarded_of_not_within {x : Probe β} {before after : List Event} {store : Nat} {i : Int}
    (hx : x.events = before ++ .read store i :: after) (h : ∀ e ∈ before, e.Within limit)
    (hi : ¬ (Event.read store i).Within limit) :
    guarded limit x = ⟨before ++ (violate (α := β) (.outOfBounds i)).events,
      (violate (α := β) (.outOfBounds i)).outcome⟩ := by
  obtain ⟨events, outcome⟩ := x
  obtain rfl : events = before ++ .read store i :: after := hx
  induction before with
  | nil =>
    change guard limit (.read store i) >>= _ = _
    rw [show guard limit (.read store i) = violate (.outOfBounds i) from if_neg hi, violate_bind,
      List.nil_append]
  | cons e rest ih =>
    have ih := ih fun f hf => h f (List.mem_cons_of_mem e hf)
    change guarded limit (Traced.emit e >>= fun _ => ⟨rest ++ .read store i :: after, outcome⟩) = _
    rw [guarded_emit_bind, guard_of_within (h e (List.mem_cons_self ..)), ih, Traced.emit_bind,
      List.cons_append]

theorem guarded_congruence (limit : Nat → Nat) :
    Congruence fun {_} x y => x = guarded limit y where
  of_pure _ := rfl
  of_fail _ := rfl
  of_bind := by
    rintro β γ x y f g rfl hf
    rw [guarded_bind]
    exact congrArg _ (funext hf)
  of_missing := by
    rintro β x y rfl
    exact (guarded_recover y).symm

theorem events_congruence (allowed : Event → Prop) :
    Congruence fun {_} x _ => ∀ e ∈ x.events, allowed e where
  of_pure _ := nofun
  of_fail _ := nofun
  of_bind := by
    intro β γ x y f g hx hf e he
    obtain ⟨events, outcome⟩ := x
    cases outcome with
    | error fault => exact hx e he
    | ok a =>
      rw [Traced.ok_bind] at he
      rcases List.mem_append.1 he with he | he
      · exact hx e he
      · exact hf a e he
  of_missing := by
    intro β x y hx e he
    obtain ⟨events, outcome⟩ := x
    cases outcome with
    | ok a => exact hx e he
    | error fault => exact hx e (by simpa [Traced.recover, View.missing] using he)

theorem eq_congruence : Congruence fun {_} x y => x = y where
  of_pure _ := rfl
  of_fail _ := rfl
  of_bind := by
    rintro β γ x y f g rfl hf
    exact congrArg _ (funext hf)
  of_missing := by
    rintro β x y rfl
    rfl

end Probe

namespace View

variable {α : Type}

/-- A read with checks is a read that is ended where it leaves the store. -/
theorem readAt_guarded {v : View α} {limit : Nat → Nat}
    (h : v.backing.count = .ok (limit v.backing.id)) (p : Nat) :
    v.readAt true p = Probe.guarded limit (v.readAt false p) := by
  by_cases hp : 0 ≤ v.window.linearIndex p ∧ v.window.linearIndex p < limit v.backing.id
  · rw [readAt_of_mem true h hp, readAt_of_mem false h hp, Probe.guarded_of_within]
    intro e he
    rw [List.mem_singleton.1 he]
    exact hp
  · have hread : (v.readAt false p).events =
        [] ++ .read v.backing.id (v.window.linearIndex p) :: [] := rfl
    rw [Probe.guarded_of_not_within hread nofun hp, List.nil_append,
      readAt_of_not_mem h hp]

theorem mem_of_read_mem {v : View α} {p store : Nat} {i : Int}
    (h : Event.read store i ∈ (v.readAt true p).events) :
    v.backing.id = store ∧ ∃ n : Nat, v.backing.count = .ok n ∧ 0 ≤ i ∧ i < n := by
  rcases linearize_cases true v p with ⟨hlinear, hmem⟩ | hlinear | ⟨e, -, hlinear⟩
  · obtain ⟨n, hn, hp⟩ := hmem rfl
    rw [readAt_of_mem true hn hp] at h
    cases List.mem_singleton.1 h
    exact ⟨rfl, n, hn, hp⟩
  · rw [readAt, hlinear, Probe.violate_bind, Probe.violate] at h
    split at h
    · cases List.mem_singleton.1 h
    · cases h
  · rw [readAt, hlinear, Traced.fail_bind] at h
    cases h

end View

namespace Operation

/-- **With checks an operation is ended where it leaves a store**, and is what it is without them
otherwise. -/
theorem run_guarded (op : Operation) {v : View Value} {limit : Nat → Nat}
    (h : ∀ u ∈ v :: op.others, u.backing.count = .ok (limit u.backing.id)) :
    op.run true v = Probe.guarded limit (op.run false v) :=
  op.run_related (Probe.guarded_congruence limit) fun u hu p _ => View.readAt_guarded (h u hu) p

/-- The end that checks put to an operation, where it comes to the first read outside a store. -/
theorem run_of_not_within (op : Operation) {v : View Value} {limit : Nat → Nat}
    (h : ∀ u ∈ v :: op.others, u.backing.count = .ok (limit u.backing.id))
    {before after : List Event} {store : Nat} {i : Int}
    (hrun : (op.run false v).events = before ++ .read store i :: after)
    (hbefore : ∀ e ∈ before, e.Within limit) (hi : ¬ (Event.read store i).Within limit) :
    op.run true v =
      if Text.isWritable i then
        ⟨before ++ [.log (Violation.outOfBounds i).record], .error (.violation (.outOfBounds i))⟩
      else ⟨before, .error .tooManyDigits⟩ := by
  rw [op.run_guarded h, Probe.guarded_of_not_within hrun hbefore hi, Probe.violate,
    Violation.isWritable]
  split
  · rfl
  · rw [Traced.events_fail, List.append_nil, Traced.outcome_fail]

/-- **With checks nothing is read outside a store.** -/
theorem reads_within (op : Operation) (v : View Value) (store : Nat) (i : Int)
    (h : Event.read store i ∈ (op.run true v).events) :
    ∃ u ∈ v :: op.others, u.backing.id = store ∧
      ∃ n : Nat, u.backing.count = .ok n ∧ 0 ≤ i ∧ i < n := by
  have hrun := op.run_related (v := v) (Probe.events_congruence fun e =>
    ∀ store i, e = .read store i → ∃ u ∈ v :: op.others, u.backing.id = store ∧
      ∃ n : Nat, u.backing.count = .ok n ∧ 0 ≤ i ∧ i < n) ?_
  · exact hrun _ h store i rfl
  · rintro u hu p - e he store i rfl
    exact ⟨u, hu, View.mem_of_read_mem he⟩

/-- On views that slices lead to, checks change nothing. -/
theorem run_of_reached (op : Operation) {v : View Value}
    (h : ∀ u ∈ v :: op.others, ∃ b, View.Reached b u) : op.run true v = op.run false v := by
  refine op.run_related Probe.eq_congruence fun u hu p hp => ?_
  obtain ⟨b, hb⟩ := h u hu
  obtain ⟨n, hn, hfits⟩ := hb.fits
  rw [← hb.backing_eq] at hn
  rw [View.readAt_of_mem true hn (hfits p hp), View.readAt_of_mem false hn (hfits p hp)]

/-- **With checks no read leaves its store.**  Without checks an operation may come to a read that
does; with checks it has done the same up to there, and then it ends, logging the violation and
failing with it, as long as the index can be written down.  One that cannot be written down is not
reported as a violation. -/
theorem checks_stop_reads (op : Operation) (v : View Value) :
    (∀ store i, Event.read store i ∈ (op.run true v).events →
      ∃ u ∈ v :: op.others, u.backing.id = store ∧
        ∃ n : Nat, u.backing.count = .ok n ∧ 0 ≤ i ∧ i < n) ∧
    ∀ limit : Nat → Nat, (∀ u ∈ v :: op.others, u.backing.count = .ok (limit u.backing.id)) →
      ((∀ e ∈ (op.run false v).events, e.Within limit) → op.run true v = op.run false v) ∧
      ∀ before store i after, (op.run false v).events = before ++ .read store i :: after →
        (∀ e ∈ before, e.Within limit) → ¬ (Event.read store i).Within limit →
        (op.run true v =
          if Text.isWritable i then
            ⟨before ++ [.log (Violation.outOfBounds i).record], .error (.violation (.outOfBounds i))⟩
          else ⟨before, .error .tooManyDigits⟩) ∧
        ((∃ e, (op.run true v).outcome = .error e ∧ e.kind = .contractViolation) ↔
          Text.isWritable i) := by
  refine ⟨op.reads_within v, fun limit h => ⟨fun hin => ?_, ?_⟩⟩
  · rw [op.run_guarded h, Probe.guarded_of_within hin]
  · intro before store i after hrun hbefore hi
    have htrue := op.run_of_not_within h hrun hbefore hi
    refine ⟨htrue, ?_⟩
    rw [htrue]
    by_cases hw : Text.isWritable i
    · rw [if_pos hw]
      exact ⟨fun _ => hw, fun _ => ⟨_, rfl, rfl⟩⟩
    · rw [if_neg hw]
      constructor
      · rintro ⟨e, he, hkind⟩
        cases he
        cases hkind
      · exact fun h => absurd h hw

/-- A search of a view of four elements of a list that has two: without checks it finds nothing,
with checks it is the violation. -/
theorem checks_stop_search :
    let b := Backing.ofSequence 0 "SequenceBacking" .plain (.list [.int 1, .int 2] none)
    let v : View Value := ⟨.plain, b, ⟨0, 4, 1, by decide⟩⟩
    let op := index (.int 9) (some 0) none
    op.run false v = ⟨[.read 0 0, .read 0 1, .read 0 2], .error .notFound⟩ ∧
      op.run true v = ⟨[.read 0 0, .read 0 1, .log (Violation.outOfBounds 2).record],
        .error (.violation (.outOfBounds 2))⟩ ∧
      (∃ e, (op.run true v).outcome = .error e ∧ e.kind = .contractViolation) := by
  have hrun : (index (.int 9) (some 0) none).run false
      ⟨.plain, Backing.ofSequence 0 "SequenceBacking" .plain (.list [.int 1, .int 2] none),
        ⟨0, 4, 1, by decide⟩⟩ =
      ⟨[.read 0 0, .read 0 1, .read 0 2], .error .notFound⟩ := by rfl
  intro b v op
  have hcount : ∀ u ∈ v :: op.others, u.backing.count = .ok ((fun _ => 2) u.backing.id) := by
    intro u hu
    rw [List.mem_singleton.1 hu]
    rfl
  have hwritable : Text.isWritable 2 = true := by decide +kernel
  obtain ⟨htrue, hkind⟩ := ((checks_stop_reads op v).2 (fun _ => 2) hcount).2
    [.read 0 0, .read 0 1] 0 2 [] (congrArg Traced.events hrun) (by decide) (by decide)
  rw [if_pos hwritable] at htrue
  exact ⟨hrun, htrue, hkind.2 hwritable⟩

/-- An element of a window whose step is its length, further on than there are elements. -/
theorem elementAt_of_beyond {b : Backing Value} {n j m linear : Nat} (hn : b.count = .ok n)
    (hm : (m : Int) ≠ 0) (hj : j < m) (hlinear : j * m = linear) (hout : n ≤ linear) :
    let v : View Value := ⟨.plain, b, ⟨0, m, m, hm⟩⟩
    (elementAt j).run false v = Answer.element <$> b.probe linear ∧
      (elementAt j).run true v = Answer.element <$> Probe.violate (.outOfBounds linear) := by
  intro v
  have hwrap : v.window.wrap? j = some j := Window.wrap?_natCast hj
  have hindex : v.window.linearIndex j = linear := by
    rw [← hlinear, Int.natCast_mul]
    exact Int.zero_add _
  constructor
  · rw [run, View.elementAt_of_wrap false hwrap, View.readAt, View.linearize, hindex]
    rfl
  · rw [run, View.elementAt_of_wrap true hwrap, View.readAt_of_not_mem hn (by omega), hindex]

/-- A violation that cannot be written down is not reported: the element at index `10 ^ 2400` of a
view of `10 ^ 2500` elements that are as far apart. -/
theorem checks_leave_wide_violation :
    let b := Backing.ofSequence 0 "SequenceBacking" .plain (.list [.int 1, .int 2] none)
    let m := Nat.pow 10 2500
    let v : View Value := ⟨.plain, b, ⟨0, m, m, by decide +kernel⟩⟩
    let op := elementAt (Nat.pow 10 2400 : Nat)
    b.count = .ok 2 ∧ (op.run false v).events = [.read 0 (Nat.pow 10 4900 : Nat)] ∧
      op.run true v = ⟨[], .error .tooManyDigits⟩ ∧
      Fault.tooManyDigits.kind ≠ .contractViolation := by
  intro b m v op
  have hlinear : Nat.pow 10 2400 * Nat.pow 10 2500 = Nat.pow 10 4900 := by decide +kernel
  have hwide : (Violation.outOfBounds (Nat.pow 10 4900 : Nat)).isWritable = false := by
    decide +kernel
  have hstep : ((Nat.pow 10 2500 : Nat) : Int) ≠ 0 := by decide +kernel
  obtain ⟨hoff, hon⟩ := elementAt_of_beyond (b := b) (n := 2) (j := Nat.pow 10 2400) rfl hstep
    (by decide +kernel) hlinear (by decide +kernel)
  refine ⟨rfl, ?_, ?_, by decide⟩
  · rw [hoff, Traced.events_map]
    rfl
  · rw [hon, Probe.violate, hwide]
    rfl

end Operation

/-- **Views that slices lead to are sound.**  Such a view shows elements of its backing only.  The
view of everything is there, of whatever kind, and every slice of the view with a step other than
zero is a view of the same backing again, of the kind that the backing prefers: to make them breaks
no contract and does nothing else.  Whatever the view is asked for, checks change neither the answer
nor what is read. -/
theorem View.derivation_sound {b : Backing Value} {v : View Value} (h : Reached b v) :
    (∃ n : Nat, b.count = .ok n ∧ ∀ i : Nat, i < v.size →
      0 ≤ v.window.linearIndex i ∧ v.window.linearIndex i < n) ∧
    v.window.step ≠ 0 ∧ v.backing = b ∧
    (∀ kind, ∃ u, full kind b = pure u ∧ u.backing = b ∧ u.kind = kind ∧ Reached b u) ∧
    (∀ s : Slice, s.step ≠ some 0 → ∃ w, (∀ checks, v.get checks s.toValue = pure (.view w)) ∧
      w.backing = b ∧ w.kind = b.viewKind ∧ Reached b w) ∧
    ∀ op : Operation, (∀ u ∈ op.others, ∃ c, Reached c u) → op.run true v = op.run false v := by
  refine ⟨h.fits, v.window.step_ne_zero, h.backing_eq, ?_, ?_, ?_⟩
  · intro kind
    obtain ⟨n, hn, -⟩ := h.fits
    have hfull := full_of_count kind hn
    exact ⟨_, hfull, rfl, rfl, .full (congrArg Traced.outcome hfull)⟩
  · intro s hs
    obtain ⟨c, hc⟩ := Slice.exists_normalize hs v.size
    refine ⟨_, fun checks => get_toValue checks hc, h.backing_eq, ?_, ?_⟩
    · exact congrArg Backing.viewKind h.backing_eq
    · exact .slice h (congrArg Traced.outcome (get_toValue true hc))
  · intro op hothers
    refine op.run_of_reached fun u hu => ?_
    rcases List.mem_cons.1 hu with rfl | hu
    · exact ⟨b, h⟩
    · exact hothers u hu

/-- Every other one of five elements, from the end. -/
theorem View.derivation_sound_of_every_other :
    let b := Backing.ofSequence 0 "SequenceBacking" .plain
      (.list ((List.range 5).map fun n : Nat => Value.int n) none)
    let v : View Value := ⟨.plain, b, ⟨4, 3, -2, by decide⟩⟩
    Reached b v ∧ (∃ n : Nat, b.count = .ok n ∧ ∀ i : Nat, i < v.size →
      0 ≤ v.window.linearIndex i ∧ v.window.linearIndex i < n) ∧
      (Operation.concat v).run true v = (Operation.concat v).run false v := by
  intro b v
  have hfull : Reached b ⟨.plain, b, Window.whole 5⟩ :=
    .full (show (full .plain b).outcome = _ from rfl)
  have hslice : Slice.normalize ⟨none, none, some (-2)⟩ (5 : Nat) = .ok ⟨4, -1, -2, 3⟩ := by rfl
  have hget := get_toValue true (v := ⟨.plain, b, Window.whole 5⟩) hslice
  have hv : Reached b v := .slice hfull (congrArg Traced.outcome hget)
  obtain ⟨hfits, -, -, -, -, hrun⟩ := derivation_sound hv
  refine ⟨hv, hfits, hrun (.concat v) ?_⟩
  intro u hu
  rw [List.mem_singleton.1 hu]
  exact ⟨b, hv⟩

end Strided
