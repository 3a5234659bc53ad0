import Strided.Proofs.View.Contents
import Strided.Proofs.View.Subscript

/-!
# What is read, and when

Nothing is read before it is asked for.  A slice of a view reads nothing at all, whatever its fields
are and whether there is such a slice or not (`chain_of_slices`).  An index in range takes the one
read of its element, and one out of range takes none.  To go through the first elements of a view takes
one read for each of them, in order, and none for the next: `take_cases` says so of every view whose
window fits, also where the store itself fails at one of the reads.
-/

namespace Strided

namespace View

variable {α : Type}

/-! ### Slices -/

/-- A slice is taken, or it is refused; nothing is read and nothing is logged. -/
theorem get_slice_cases (checks : Bool) (v : View α) (start stop step : Value) :
    (∃ s b, ∃ hb : Slice.normalize s v.size = .ok b, Slice.ofValues start stop step = .ok s ∧
      v.get checks (.slice start stop step) =
        pure (.view (v.narrow b (Slice.step_of_normalize hb).2))) ∨
    ∃ e, v.get checks (.slice start stop step) = .fail e := by
  rcases subscript_cases (.slice start stop step) with
    ⟨i, hi⟩ | ⟨_, _, _, s, heq, hs, h0⟩ | ⟨e, he⟩ | ⟨hbad, hown⟩
  · cases hi
  · cases heq
    obtain ⟨b, hb⟩ := Slice.exists_normalize h0 v.size
    exact .inl ⟨s, b, hb, hs, get_slice checks hs hb⟩
  · refine .inr ⟨e, ?_⟩
    rw [get_eq_bind, subSlice_of_failsWith checks v he, Traced.fail_bind]
  · obtain ⟨e, -, he⟩ := exists_subSlice_of_unusable (α := α) hbad hown
    refine .inr ⟨e, ?_⟩
    rw [get_eq_bind, he checks v, pure_bind, Traced.ofExcept_error]

/-- **Slices of slices read nothing.**  What comes of them is a view of the same store, and its
window fits where the first one did. -/
theorem chain_of_slices (checks : Bool) {subscripts : List Value}
    (hslices : ∀ s ∈ subscripts, ∃ start stop step, s = .slice start stop step) {v : View Value}
    {n : Nat} (hv : v.window.Fits n) :
    (v.chain checks subscripts).events = [] ∧
    ∀ x, (v.chain checks subscripts).outcome = .ok x →
      ∃ w, x = .view w ∧ w.backing = v.backing ∧ w.window.Fits n := by
  induction subscripts generalizing v with
  | nil =>
    refine ⟨rfl, ?_⟩
    intro x hx
    cases hx
    exact ⟨v, rfl, rfl, hv⟩
  | cons s rest ih =>
    obtain ⟨start, stop, step, rfl⟩ := hslices s (List.mem_cons_self ..)
    rw [chain]
    rcases get_slice_cases checks v start stop step with ⟨s, b, hb, -, hget⟩ | ⟨e, hget⟩
    · rw [hget, pure_bind]
      exact ih (fun t ht => hslices t (List.mem_cons_of_mem _ ht)) (hv.narrow hb)
    · rw [hget, Traced.fail_bind]
      refine ⟨rfl, ?_⟩
      intro x hx
      cases hx

/-! ### Elements -/

section Fits

variable {v : View α} {n : Nat} (hn : v.backing.count = .ok n) (hv : v.window.Fits n)

include hn hv

theorem readAt_of_fits (checks : Bool) {p : Nat} (hp : p < v.size) :
    v.readAt checks p = ⟨[v.readEvent p], v.backing.read (v.window.linearIndex p)⟩ :=
  readAt_of_mem checks hn (hv p hp)

theorem get_of_fits (checks : Bool) {subscript : Value} {i : Int} (hi : subscript.toIndex = .ok i)
    {p : Nat} (hp : v.window.wrap? i = some p) :
    v.get checks subscript =
      ⟨[v.readEvent p], Selected.element <$> v.backing.read (v.window.linearIndex p)⟩ := by
  have hlt : p < v.size := (Window.wrap?_eq_some_iff.1 hp).1
  rw [get_of_toIndex checks v hi, elementAt_of_wrap checks hp, readAt_of_fits hn hv checks hlt]
  cases v.backing.read (v.window.linearIndex p) <;> rfl

/-- **The first elements take a read each, in order**, as far as there are any; or the store fails at
one of these reads, and it is the last. -/
theorem take_cases (checks : Bool) (k : Nat) :
    (∃ xs, xs.length = min k v.size ∧
      v.take checks k = ⟨(List.range (min k v.size)).map v.readEvent, .ok xs⟩) ∨
    ∃ p < min k v.size, ∃ e, v.backing.read (v.window.linearIndex p) = .error e ∧
      v.take checks k = ⟨(List.range (p + 1)).map v.readEvent, .error e⟩ := by
  have hread : ∀ p < min k v.size, v.readAt checks p =
      ⟨[v.readEvent p], v.backing.read (v.window.linearIndex p)⟩ := by
    intro p hp
    exact readAt_of_fits hn hv checks (by omega)
  rw [take_eq_mapM]
  rcases Traced.mapM_range_cases fun p hp => congrArg Traced.events (hread p hp) with
    hall | ⟨p, hp, e, he, hfail⟩
  · exact .inl hall
  · rw [hread p hp] at he
    exact .inr ⟨p, hp, e, he, hfail⟩

end Fits

theorem nodup_readEvent (v : View α) (m : Nat) : ((List.range m).map v.readEvent).Nodup := by
  refine List.Nodup.map ?_ List.nodup_range
  intro i j hij
  have hindex : v.window.start + i * v.window.step = v.window.start + j * v.window.step :=
    (Event.read.inj hij).2
  have hmul : (i : Int) * v.window.step = j * v.window.step := by omega
  exact Int.ofNat.inj (Int.eq_of_mul_eq_mul_right v.window.step_ne_zero hmul)

/-- **Views are lazy.**  Take slices of the view of a store, one after the other, with any fields.
None of them reads an element, whatever comes of it.  What is left in the end is a view of the
store, and of it, with checks or without:

* an index in range takes one read, the one of its position, counted from the end if it is negative;
* an index out of range takes none and is refused;
* to take the first `k` elements is to read the first positions, as many as there are, each once and
  in order; should the store itself fail at one of these reads, then that read is the last. -/
theorem reads_what_is_asked (b : Backing Value) (checks : Bool) {subscripts : List Value}
    (hslices : ∀ s ∈ subscripts, ∃ start stop step, s = .slice start stop step) :
    (ofBacking b >>= (·.chain checks subscripts)).events = [] ∧
    ∀ x, (ofBacking b >>= (·.chain checks subscripts)).outcome = .ok x →
      ∃ v : View Value, x = .view v ∧ v.backing = b ∧ ∀ checks',
        (∀ subscript (i : Int), subscript.toIndex = .ok i →
          (∀ p : Nat, p < v.size → i = p ∨ i = p - v.size →
            (v.get checks' subscript).events =
              [.read b.id (v.window.start + p * v.window.step)]) ∧
          (i < -v.size ∨ (v.size : Int) ≤ i → v.get checks' subscript = .fail .indexOutOfRange)) ∧
        ∀ k, ((List.range (min k v.size)).map v.readEvent).Nodup ∧
          ((∃ xs, xs.length = min k v.size ∧
            v.take checks' k = ⟨(List.range (min k v.size)).map v.readEvent, .ok xs⟩) ∨
          ∃ p < min k v.size, ∃ e, b.read (v.window.start + p * v.window.step) = .error e ∧
            v.take checks' k = ⟨(List.range (p + 1)).map v.readEvent, .error e⟩) := by
  cases hn : b.count with
  | error e =>
    -- Without a number of elements there is no view at all.
    have hnone : ofBacking b = .fail e := by
      rw [ofBacking, full, Backing.rawCount, hn]
      rfl
    rw [hnone, Traced.fail_bind]
    refine ⟨rfl, ?_⟩
    intro x hx
    cases hx
  | ok n =>
    rw [ofBacking, full_of_count b.viewKind hn, pure_bind]
    obtain ⟨hevents, hviews⟩ := chain_of_slices checks hslices
      (v := ⟨b.viewKind, b, Window.whole n⟩) (Window.fits_whole n)
    refine ⟨hevents, ?_⟩
    intro x hx
    obtain ⟨v, rfl, rfl, hv⟩ := hviews x hx
    refine ⟨v, rfl, rfl, ?_⟩
    intro checks'
    refine ⟨?_, ?_⟩
    · intro subscript i hi
      refine ⟨?_, ?_⟩
      · intro p hp hip
        rw [get_of_fits hn hv checks' hi (Window.wrap?_eq_some_iff.2 ⟨hp, hip⟩)]
        rfl
      · intro hout
        rw [get_of_toIndex checks' v hi,
          elementAt_of_wrap_none checks' (Window.wrap?_eq_none_iff.2 hout)]
        rfl
    · intro k
      exact ⟨v.nodup_readEvent _, take_cases hn hv checks' k⟩

/-- Of five elements every other one from the end, and of these all but the first.  The last of them
is read by itself, and the first by itself when one element is taken, though there is another. -/
theorem reads_what_is_asked_of_five :
    let items := (List.range 5).map fun n : Nat => Value.int n
    let b := Backing.ofSequence 0 "SequenceBacking" .plain (.list items none)
    let subscripts : List Value :=
      [.slice .none .none (.int (-2)), .slice (.index (.int 1) none) .none .none]
    (∀ s ∈ subscripts, ∃ start stop step, s = .slice start stop step) ∧
    ∃ v, ofBacking b >>= (·.chain true subscripts) = pure (.view v) ∧
      (v.get true (.bool true)).events = [.read 0 0] ∧
      (v.get true (.int (-2))).events = [.read 0 2] ∧
      v.get true (.int 2) = .fail .indexOutOfRange ∧
      v.take true 1 = ⟨[.read 0 2], .ok [.int 2]⟩ ∧
      (v.take true 7).events = [.read 0 2, .read 0 0] := by
  intro items b subscripts
  have hslices : ∀ s ∈ subscripts, ∃ start stop step, s = .slice start stop step := by
    simp only [subscripts, List.mem_cons, List.not_mem_nil, or_false, forall_eq_or_imp, forall_eq]
    exact ⟨⟨_, _, _, rfl⟩, ⟨_, _, _, rfl⟩⟩
  have hsliced : ofBacking b >>= (·.chain true subscripts) =
      pure (.view ⟨.plain, b, ⟨2, 2, -2, by decide⟩⟩) := by
    have hfirst : Slice.normalize ⟨none, none, some (-2)⟩ (5 : Nat) = .ok ⟨4, -1, -2, 3⟩ := by rfl
    have hsecond : Slice.normalize ⟨some 1, none, none⟩ (3 : Nat) = .ok ⟨1, 3, 1, 2⟩ := by rfl
    have hwhole : ofBacking b = pure ⟨.plain, b, Window.whole 5⟩ := full_of_count .plain rfl
    rw [hwhole, pure_bind, chain, get_slice true rfl hfirst, pure_bind]
    simp only [chain]
    rw [get_slice true rfl hsecond, pure_bind]
    rfl
  obtain ⟨-, hviews⟩ := reads_what_is_asked b true hslices
  rw [hsliced] at hviews
  obtain ⟨v, hv, -, hlazy⟩ := hviews _ rfl
  cases hv
  obtain ⟨hget, htake⟩ := hlazy true
  refine ⟨hslices, _, hsliced, ?_, ?_, ?_, ?_, ?_⟩
  · exact (hget (.bool true) 1 rfl).1 1 (by decide) (.inl rfl)
  · exact (hget (.int (-2)) (-2) rfl).1 0 (by decide) (.inr rfl)
  · exact (hget (.int 2) 2 rfl).2 (.inr (by decide))
  · rfl
  · rcases (htake 7).2 with ⟨xs, -, hxs⟩ | ⟨p, hp, e, he, -⟩
    · rw [hxs]
      rfl
    · have hlt : p < 2 := hp
      have hp : p = 0 ∨ p = 1 := by omega
      rcases hp with rfl | rfl <;> cases he

end View

end Strided
