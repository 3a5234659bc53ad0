import Strided.Proofs.View.Subscript
import Strided.View.Sequence

/-!
# Operations of a view

An `Operation` is what a view can be asked for, with everything that it is asked with: a subscript,
an element to look for, another view to compare with.  `Operation.run` answers it, with checks or
without.

Whatever an operation reads it reads by `View.readAt`, at a position of the view or of the other
view that it is given.  `Operation.run_counterpart` says so, of two views that look through the same
window (`View.Matches`): a relation that holds between the two ways of reading one element, and that
passes through sequencing and through the handler of faults that the search for an index has, holds
between the two ways of running an operation.  Such a relation is a `Probe.Congruence`.  Each
operation is gone through once, here; what checks change (`Operation.run_related`), and what the way
of keeping the elements does not, follows by choosing the relation and the views.
-/

namespace Strided

namespace Probe

variable {β γ : Type}

/-- A relation between computations that the ways of putting them together keep. -/
structure Congruence (R : {β : Type} → Probe β → Probe β → Prop) : Prop where
  of_pure : ∀ {β : Type} (a : β), R (pure a) (pure a)
  of_fail : ∀ {β : Type} (e : Fault), R (.fail e : Probe β) (.fail e)
  of_bind : ∀ {β γ : Type} {x y : Probe β} {f g : β → Probe γ}, R x y → (∀ a, R (f a) (g a)) →
    R (x >>= f) (y >>= g)
  of_missing : ∀ {β : Type} {x y : Probe β}, R x y →
    R (x.recover View.missing) (y.recover View.missing)

namespace Congruence

variable {R : {β : Type} → Probe β → Probe β → Prop}

theorem of_ofExcept (hR : Congruence R) (x : Except Fault β) :
    R (Traced.ofExcept x : Probe β) (Traced.ofExcept x) := by
  cases x with
  | ok a => exact hR.of_pure a
  | error e => exact hR.of_fail e

theorem of_map (hR : Congruence R) (f : β → γ) {x y : Probe β} (h : R x y) :
    R (f <$> x) (f <$> y) := by
  rw [map_eq_pure_bind, map_eq_pure_bind]
  exact hR.of_bind h fun a => hR.of_pure (f a)

end Congruence

end Probe

namespace View

variable {α : Type}

/-! ### What a subscript comes to -/

/-- A subscript picks an element, or derives a view, or is signalled, or fails; which of these, only
depends on the number of elements. -/
theorem subSlice_cases (n : Nat) (subscript : Value) :
    (∃ i, ∀ v : View α, v.size = n → ∀ checks, v.subSlice checks subscript =
      Except.map Selected.element <$> v.itemAt checks i) ∨
    (∃ s b, ∃ hb : Slice.normalize s n = .ok b, ∀ v : View α, v.size = n → ∀ checks,
      v.subSlice checks subscript =
        pure (.ok (.view (v.narrow b (Slice.step_of_normalize hb).2)))) ∨
    (∃ e, ∀ v : View α, v.size = n → ∀ checks, v.subSlice checks subscript = pure (.error e)) ∨
    ∃ e, ∀ v : View α, v.size = n → ∀ checks, v.subSlice checks subscript = .fail e := by
  rcases subscript_cases subscript with ⟨i, hi⟩ | ⟨start, stop, step, s, rfl, hs, h0⟩ | ⟨e, he⟩ |
    ⟨hbad, hown⟩
  · exact .inl ⟨i, fun v _ checks => subSlice_of_toIndex checks v hi⟩
  · obtain ⟨b, hb⟩ := Slice.exists_normalize h0 n
    refine .inr (.inl ⟨s, b, hb, ?_⟩)
    rintro v rfl checks
    exact subSlice_of_ofValues checks hs hb
  · exact .inr (.inr (.inr ⟨e, fun v _ checks => subSlice_of_failsWith checks v he⟩))
  · obtain ⟨e, -, he⟩ := exists_subSlice_of_unusable (α := α) hbad hown
    exact .inr (.inr (.inl ⟨e, fun v _ checks => he checks v⟩))

/-! ### Views of one shape -/

/-- Two views of one kind look through the same window, and slices of them are of one kind. -/
structure Matches (v w : View α) : Prop where
  kind : w.kind = v.kind
  window : w.window = v.window
  viewKind : w.backing.viewKind = v.backing.viewKind

theorem Matches.refl (v : View α) : v.Matches v := ⟨rfl, rfl, rfl⟩

theorem Matches.size {v w : View α} (h : v.Matches w) : w.size = v.size :=
  congrArg Window.length h.window

theorem Matches.narrow {v w : View α} (h : v.Matches w) (b : Bounds) (hb : b.step ≠ 0) :
    (v.narrow b hb).Matches (w.narrow b hb) where
  kind := h.viewKind
  window := congrArg (Window.narrow · b hb) h.window
  viewKind := h.viewKind

end View

def Selected.mapView {α : Type} (f : View α → View α) : Selected α → Selected α
  | .element a => .element a
  | .view v => .view (f v)

@[simp] theorem Selected.mapView_id {α : Type} :
    (Selected.mapView id : Selected α → Selected α) = id := by
  funext x
  cases x <;> rfl

namespace View

variable {α : Type}

/-- Two ways of looking at views do not tell views of two stores apart that are of one kind and have
one window. -/
def Indistinct (f g : View α → View α) (b c : Backing α) : Prop :=
  ∀ kind window, f ⟨kind, b, window⟩ = g ⟨kind, c, window⟩

theorem Indistinct.apply {f g : View α → View α} {v w : View α}
    (h : Indistinct f g v.backing w.backing)
    (hvw : v.Matches w) : f v = g w := by
  obtain ⟨kind, c, window⟩ := w
  obtain ⟨rfl, rfl, -⟩ := hvw
  exact h ..

theorem mapView_get (f : View α → View α) (checks : Bool) (v : View α) (subscript : Value) :
    Selected.mapView f <$> v.get checks subscript =
      (Except.map (Selected.mapView f) <$> v.subSlice checks subscript) >>= Traced.ofExcept := by
  rw [get_eq_bind, map_bind, bind_map_left]
  refine congrArg _ (funext fun x => ?_)
  cases x <;> rfl

section Related

variable {R : {β : Type} → Probe β → Probe β → Prop} (hR : Probe.Congruence R) {v w : View α}
  {c d : Bool} (hvw : v.Matches w) (hv : ∀ p < v.size, R (v.readAt c p) (w.readAt d p))

include hR hvw hv

/-! ### Reading elements -/

theorem elementAt_related (i : Int) : R (v.elementAt c i) (w.elementAt d i) := by
  cases hw : v.window.wrap? i with
  | none =>
    rw [elementAt_of_wrap_none c hw, elementAt_of_wrap_none d (by rw [hvw.window, hw])]
    exact hR.of_fail _
  | some p =>
    rw [elementAt_of_wrap c hw, elementAt_of_wrap d (by rw [hvw.window, hw])]
    exact hv p (Window.wrap?_eq_some_iff.1 hw).1

theorem itemAt_related (i : Int) : R (v.itemAt c i) (w.itemAt d i) := by
  cases hw : v.window.wrap? i with
  | none =>
    rw [itemAt_of_wrap_none c hw, itemAt_of_wrap_none d (by rw [hvw.window, hw])]
    exact hR.of_pure _
  | some p =>
    rw [itemAt_of_wrap c hw, itemAt_of_wrap d (by rw [hvw.window, hw])]
    exact hR.of_map Except.ok (hv p (Window.wrap?_eq_some_iff.1 hw).1)

theorem subSlice_related {f g : View α → View α} (hfg : Indistinct f g v.backing w.backing)
    (subscript : Value) :
    R (Except.map (Selected.mapView f) <$> v.subSlice c subscript)
      (Except.map (Selected.mapView g) <$> w.subSlice d subscript) := by
  rcases subSlice_cases (α := α) v.size subscript with ⟨i, h⟩ | ⟨s, b, hb, h⟩ | ⟨e, h⟩ | ⟨e, h⟩
  · rw [h v rfl, h w hvw.size, ← comp_map, ← comp_map]
    have hmap : ∀ f : View α → View α, Except.map (Selected.mapView f) ∘ Except.map Selected.element =
        (Except.map Selected.element : Except Fault α → _) := by
      intro f
      funext x
      cases x <;> rfl
    rw [hmap, hmap]
    exact hR.of_map _ (itemAt_related hR hvw hv i)
  · have hsame : f (v.narrow b (Slice.step_of_normalize hb).2) =
        g (w.narrow b (Slice.step_of_normalize hb).2) :=
      Indistinct.apply (v := v.narrow b _) (w := w.narrow b _) hfg (hvw.narrow b _)
    rw [h v rfl, h w hvw.size, map_pure, map_pure]
    simp only [Except.map, Selected.mapView, hsame]
    exact hR.of_pure _
  · rw [h v rfl, h w hvw.size, map_pure, map_pure]
    exact hR.of_pure _
  · rw [h v rfl, h w hvw.size]
    exact hR.of_fail e

theorem get_related {f g : View α → View α} (hfg : Indistinct f g v.backing w.backing)
    (subscript : Value) :
    R (Selected.mapView f <$> v.get c subscript) (Selected.mapView g <$> w.get d subscript) := by
  rw [mapView_get, mapView_get]
  exact hR.of_bind (subSlice_related hR hvw hv hfg subscript) fun x => hR.of_ofExcept x

omit hR hvw in
theorem readAt_narrow_related {s : Slice} {b : Bounds} (hb : s.normalize v.size = .ok b)
    {k : Nat} (hk : k < b.count) :
    R ((v.narrow b (Slice.step_of_normalize hb).2).readAt c k)
      ((w.narrow b (Slice.step_of_normalize hb).2).readAt d k) := by
  obtain ⟨p, -, hp, he⟩ := Slice.getElem?_positions hb hk
  have h := hv p hp
  simp only [readAt, linearize, narrow, Window.linearIndex_narrow, he] at h ⊢
  exact h

/-! ### Going through the elements -/

theorem takeFrom_related (n p : Nat) : R (v.takeFrom c n p) (w.takeFrom d n p) := by
  induction n generalizing p with
  | zero => exact hR.of_pure []
  | succ n ih =>
    refine hR.of_bind (itemAt_related hR hvw hv p) fun x => ?_
    cases x with
    | error e => exact hR.of_pure []
    | ok a => exact hR.of_bind (ih (p + 1)) fun rest => hR.of_pure (a :: rest)

theorem iterate_related : R (v.iterate c) (w.iterate d) := by
  rw [iterate, iterate, hvw.size]
  exact takeFrom_related hR hvw hv v.size 0

theorem copyFrom_related (n p : Nat) : R (v.copyFrom c n p) (w.copyFrom d n p) := by
  induction n generalizing p with
  | zero => exact hR.of_pure []
  | succ n ih =>
    refine hR.of_bind (elementAt_related hR hvw hv p) fun a => ?_
    exact hR.of_bind (ih (p + 1)) fun rest => hR.of_pure (a :: rest)

theorem descendFrom_related (n : Nat) : R (v.descendFrom c n) (w.descendFrom d n) := by
  induction n with
  | zero => exact hR.of_pure []
  | succ n ih =>
    refine hR.of_bind (elementAt_related hR hvw hv n) fun a => ?_
    exact hR.of_bind ih fun rest => hR.of_pure (a :: rest)

omit hv in
theorem length_related : R v.length w.length := by
  rw [View.length, View.length, hvw.size]
  split
  · exact hR.of_pure _
  · exact hR.of_fail _

omit hv in
theorem fromEnd_related (bound : Option Int) : R (v.fromEnd bound) (w.fromEnd bound) := by
  cases bound with
  | none => exact hR.of_pure none
  | some i =>
    rw [fromEnd, fromEnd]
    split
    · exact hR.of_map _ (length_related hR hvw)
    · exact hR.of_pure _

theorem toListWithin_related (room : Nat) :
    R (v.toListWithin room c) (w.toListWithin room d) := by
  refine hR.of_bind (length_related hR hvw) fun n => ?_
  split
  · exact hR.of_fail _
  · exact iterate_related hR hvw hv

theorem reversed_related : R (v.reversed c) (w.reversed d) :=
  hR.of_bind (length_related hR hvw) fun n => descendFrom_related hR hvw hv n

theorem concat_related {t u : View α} (htu : t.Matches u)
    (ht : ∀ p < t.size, R (t.readAt c p) (u.readAt d p)) : R (v.concat c t) (w.concat d u) := by
  rw [concat, concat, hvw.size, htu.size]
  refine hR.of_bind (copyFrom_related hR hvw hv _ _) fun first => ?_
  exact hR.of_bind (copyFrom_related hR htu ht _ _) fun second => hR.of_pure (first ++ second)

/-! ### Searching and comparing -/

variable [Alike α]

theorem containsFrom_related (a : α) (n p : Nat) :
    R (v.containsFrom c a n p) (w.containsFrom d a n p) := by
  induction n generalizing p with
  | zero => exact hR.of_pure false
  | succ n ih =>
    refine hR.of_bind (itemAt_related hR hvw hv p) fun x => ?_
    cases x with
    | error e => exact hR.of_pure false
    | ok b =>
      refine hR.of_bind (hR.of_ofExcept (Alike.same b a)) fun found => ?_
      cases found with
      | true => exact hR.of_pure true
      | false => exact ih (p + 1)

theorem contains_related (a : α) : R (v.contains c a) (w.contains d a) := by
  rw [contains, contains, hvw.size]
  exact containsFrom_related hR hvw hv a v.size 0

theorem countFrom_related (a : α) (n p : Nat) :
    R (v.countFrom c a n p) (w.countFrom d a n p) := by
  induction n generalizing p with
  | zero => exact hR.of_pure 0
  | succ n ih =>
    refine hR.of_bind (itemAt_related hR hvw hv p) fun x => ?_
    cases x with
    | error e => exact hR.of_pure 0
    | ok b =>
      refine hR.of_bind (hR.of_ofExcept (Alike.same b a)) fun found => ?_
      exact hR.of_bind (ih (p + 1)) fun others => hR.of_pure _

theorem count_related (a : α) : R (v.count c a) (w.count d a) := by
  rw [count, count, hvw.size]
  exact countFrom_related hR hvw hv a v.size 0

theorem indexFrom_related (a : α) (stop : Option Int) (n : Nat) (i : Int) :
    R (v.indexFrom c a stop n i) (w.indexFrom d a stop n i) := by
  induction n generalizing i with
  | zero => exact hR.of_fail .notFound
  | succ n ih =>
    rw [indexFrom, indexFrom]
    split
    · exact hR.of_fail .notFound
    · refine hR.of_bind (hR.of_missing (elementAt_related hR hvw hv i)) fun b => ?_
      refine hR.of_bind (hR.of_ofExcept (Alike.same b a)) fun found => ?_
      cases found with
      | true => exact hR.of_pure i
      | false => exact ih (i + 1)

theorem index_related (a : α) (start stop : Option Int) :
    R (v.index c a start stop) (w.index d a start stop) := by
  rw [index, index, hvw.size]
  refine hR.of_bind (fromEnd_related hR hvw start) fun start => ?_
  refine hR.of_bind (fromEnd_related hR hvw stop) fun stop => ?_
  cases start with
  | some i => exact indexFrom_related hR hvw hv a stop _ _
  | none => cases stop <;> exact hR.of_fail _

theorem equalsInOrder_related (room : Nat) {t u : View α} (htu : t.Matches u)
    (ht : ∀ p < t.size, R (t.readAt c p) (u.readAt d p)) :
    R (v.equalsInOrder room c t) (w.equalsInOrder room d u) := by
  refine hR.of_bind (toListWithin_related hR hvw hv room) fun elements => ?_
  exact hR.of_bind (toListWithin_related hR htu ht room) fun others => hR.of_ofExcept _

theorem equals_related {t u : View α} (htu : t.Matches u)
    (ht : ∀ p < t.size, R (t.readAt c p) (u.readAt d p)) : R (v.equals c t) (w.equals d u) := by
  rw [equals, equals, equalsWithin, equalsWithin, hvw.kind, htu.kind]
  split
  · exact equalsInOrder_related hR htu ht listLimit hvw hv
  · exact equalsInOrder_related hR hvw hv listLimit htu ht

theorem equalsList_related (room : Nat) (xs : List α) :
    R (v.equalsList room c xs) (w.equalsList room d xs) :=
  hR.of_bind (toListWithin_related hR hvw hv room) fun elements =>
    hR.of_ofExcept (sameList elements xs)

end Related

/-! ### Views of values -/

theorem mapView_ofExcept_element (f : View α → View α) (x : Except Fault α) :
    Selected.mapView f <$> (Traced.ofExcept (x.map .element) : Probe (Selected α)) =
      .ofExcept (x.map .element) := by
  cases x <;> rfl

section Values

variable {R : {β : Type} → Probe β → Probe β → Prop} (hR : Probe.Congruence R) {v w : View Value}
  {c d : Bool} (hvw : v.Matches w) (hv : ∀ p < v.size, R (v.readAt c p) (w.readAt d p))

include hR hvw hv

theorem equalsValue_related (x : Value) : R (v.equalsValue c x) (w.equalsValue d x) := by
  unfold equalsValue equalsValueWithin
  split
  · exact equalsList_related hR hvw hv listLimit _
  · exact equalsList_related hR hvw hv listLimit _
  · exact hR.of_pure false

theorem label_related : R (v.label c) (w.label d) := by
  rw [label, label, hvw.kind]
  split
  · exact hR.of_bind (iterate_related hR hvw hv) fun elements => hR.of_ofExcept _
  · exact hR.of_fail _

/-- A chain of subscripts goes on with slices of the view, and ends with an element of one. -/
theorem chain_related {f g : View Value → View Value} (hfg : Indistinct f g v.backing w.backing)
    (subscripts : List Value) :
    R (Selected.mapView f <$> v.chain c subscripts)
      (Selected.mapView g <$> w.chain d subscripts) := by
  induction subscripts generalizing v w with
  | nil =>
    rw [chain, chain, map_pure, map_pure, Selected.mapView, Selected.mapView,
      hfg.apply hvw]
    exact hR.of_pure _
  | cons subscript rest ih =>
    rcases subSlice_cases (α := Value) v.size subscript with
      ⟨i, h⟩ | ⟨s, b, hb, h⟩ | ⟨e, h⟩ | ⟨e, h⟩
    · simp only [chain, get, h v rfl, h w hvw.size, bind_assoc, bind_map_left, map_bind]
      refine hR.of_bind (itemAt_related hR hvw hv i) fun x => ?_
      cases x with
      | ok a =>
        change R (Selected.mapView f <$> Traced.ofExcept ((rest.foldlM Value.subscript a).map .element))
          (Selected.mapView g <$> Traced.ofExcept ((rest.foldlM Value.subscript a).map .element))
        rw [mapView_ofExcept_element, mapView_ofExcept_element]
        exact hR.of_ofExcept _
      | error e => exact hR.of_fail e
    · simp only [chain, get, h v rfl, h w hvw.size, pure_bind]
      exact ih (hvw.narrow b _) (fun p hp => readAt_narrow_related hv hb hp) hfg
    · simp only [chain, get, h v rfl, h w hvw.size, pure_bind]
      exact hR.of_fail e
    · simp only [chain, get, h v rfl, h w hvw.size]
      exact hR.of_fail e

end Values

end View

/-- What a view can be asked for. -/
inductive Operation where
  | get (subscript : Value)
  | subSlice (subscript : Value)
  | chain (subscripts : List Value)
  | itemAt (i : Int)
  | elementAt (i : Int)
  /-- The first elements, or all of them if there are no more. -/
  | take (n : Nat)
  | toList
  | reversed
  | contains (a : Value)
  | count (a : Value)
  | index (a : Value) (start stop : Option Int)
  | concat (other : View Value)
  | equals (other : View Value)
  | equalsValue (x : Value)
  | label

inductive Answer where
  | selected (x : Selected Value)
  | signalledSelected (x : Signalled (Selected Value))
  | signalled (x : Signalled Value)
  | element (a : Value)
  | elements (xs : List Value)
  | verdict (b : Bool)
  | number (n : Nat)
  | position (i : Int)
  | text (s : String)

def Answer.mapView (f : View Value → View Value) : Answer → Answer
  | .selected x => .selected (x.mapView f)
  | .signalledSelected x => .signalledSelected (x.map (Selected.mapView f))
  | other => other

@[simp] theorem Answer.mapView_id : Answer.mapView id = id := by
  funext x
  match x with
  | .signalledSelected (.ok y) => simp [mapView, Except.map]
  | .signalledSelected (.error e) => rfl
  | .selected y => simp [mapView]
  | .signalled _ | .element _ | .elements _ | .verdict _ | .number _ | .position _ | .text _ => rfl

theorem Answer.mapView_selected (f : View Value → View Value) (x : Probe (Selected Value)) :
    mapView f <$> selected <$> x = selected <$> Selected.mapView f <$> x := by
  rw [← comp_map, ← comp_map]
  rfl

theorem Answer.mapView_signalledSelected (f : View Value → View Value)
    (x : Probe (Signalled (Selected Value))) :
    mapView f <$> signalledSelected <$> x =
      signalledSelected <$> Except.map (Selected.mapView f) <$> x := by
  rw [← comp_map, ← comp_map]
  rfl

/-- Answers without a view in them are related as what they are made from. -/
theorem Answer.related_of_keeping {R : {β : Type} → Probe β → Probe β → Prop}
    (hR : Probe.Congruence R) {f g : View Value → View Value} {β : Type} (answer : β → Answer)
    (hf : ∀ b, mapView f (answer b) = answer b) (hg : ∀ b, mapView g (answer b) = answer b)
    {x y : Probe β} (h : R x y) : R (mapView f <$> answer <$> x) (mapView g <$> answer <$> y) := by
  rw [← comp_map, ← comp_map, show mapView f ∘ answer = answer from funext hf,
    show mapView g ∘ answer = answer from funext hg]
  exact hR.of_map answer h

namespace Operation

/-- The other view that an operation reads. -/
def others : Operation → List (View Value)
  | concat other | equals other => [other]
  | _ => []

def run (checks : Bool) (v : View Value) : Operation → Probe Answer
  | get subscript => .selected <$> v.get checks subscript
  | subSlice subscript => .signalledSelected <$> v.subSlice checks subscript
  | chain subscripts => .selected <$> v.chain checks subscripts
  | itemAt i => .signalled <$> v.itemAt checks i
  | elementAt i => .element <$> v.elementAt checks i
  | take n => .elements <$> v.take checks n
  | toList => .elements <$> v.toList checks
  | reversed => .elements <$> v.reversed checks
  | contains a => .verdict <$> v.contains checks a
  | count a => .number <$> v.count checks a
  | index a start stop => .position <$> v.index checks a start stop
  | concat other => .elements <$> v.concat checks other
  | equals other => .verdict <$> v.equals checks other
  | equalsValue x => .verdict <$> v.equalsValue checks x
  | label => .text <$> v.label checks

/-- One operation asks for what another asks for, of another view that is read the same way if it
needs one. -/
inductive Counterpart (R : {β : Type} → Probe β → Probe β → Prop) (c d : Bool) :
    Operation → Operation → Prop
  | same {op : Operation} (h : op.others = []) : Counterpart R c d op op
  | concat {t u : View Value} (htu : t.Matches u)
      (ht : ∀ p < t.size, R (t.readAt c p) (u.readAt d p)) :
      Counterpart R c d (.concat t) (.concat u)
  | equals {t u : View Value} (htu : t.Matches u)
      (ht : ∀ p < t.size, R (t.readAt c p) (u.readAt d p)) :
      Counterpart R c d (.equals t) (.equals u)

theorem counterpart_self {R : {β : Type} → Probe β → Probe β → Prop} {c d : Bool} {op : Operation}
    (h : ∀ u ∈ op.others, ∀ p < u.size, R (u.readAt c p) (u.readAt d p)) :
    Counterpart R c d op op := by
  cases op with
  | concat other => exact .concat (.refl other) (h other (List.mem_singleton_self other))
  | equals other => exact .equals (.refl other) (h other (List.mem_singleton_self other))
  | _ => exact .same rfl

/-- **What holds between the two ways of reading holds between the two ways of running.** -/
theorem run_counterpart {R : {β : Type} → Probe β → Probe β → Prop} (hR : Probe.Congruence R)
    {c d : Bool} {v w : View Value} (hvw : v.Matches w)
    (hv : ∀ p < v.size, R (v.readAt c p) (w.readAt d p)) {f g : View Value → View Value}
    (hfg : View.Indistinct f g v.backing w.backing) {op other : Operation}
    (h : Counterpart R c d op other) :
    R (Answer.mapView f <$> op.run c v) (Answer.mapView g <$> other.run d w) := by
  have keeping : ∀ {β : Type} (answer : β → Answer),
      (∀ f b, Answer.mapView f (answer b) = answer b) → ∀ {x y : Probe β}, R x y →
      R (Answer.mapView f <$> answer <$> x) (Answer.mapView g <$> answer <$> y) :=
    fun answer hkeep _ _ => Answer.related_of_keeping hR answer (hkeep f) (hkeep g)
  cases h with
  | concat htu ht =>
    exact keeping .elements (fun _ _ => rfl) (View.concat_related hR hvw hv htu ht)
  | equals htu ht =>
    exact keeping .verdict (fun _ _ => rfl) (View.equals_related hR hvw hv htu ht)
  | same h =>
    cases op with
    | get subscript =>
      simpa only [run, Answer.mapView_selected]
        using hR.of_map Answer.selected (View.get_related hR hvw hv hfg subscript)
    | subSlice subscript =>
      simpa only [run, Answer.mapView_signalledSelected]
        using hR.of_map Answer.signalledSelected (View.subSlice_related hR hvw hv hfg subscript)
    | chain subscripts =>
      simpa only [run, Answer.mapView_selected]
        using hR.of_map Answer.selected (View.chain_related hR hvw hv hfg subscripts)
    | itemAt i => exact keeping .signalled (fun _ _ => rfl) (View.itemAt_related hR hvw hv i)
    | elementAt i => exact keeping .element (fun _ _ => rfl) (View.elementAt_related hR hvw hv i)
    | take n => exact keeping .elements (fun _ _ => rfl) (View.takeFrom_related hR hvw hv n 0)
    | toList => exact keeping .elements (fun _ _ => rfl) (View.toListWithin_related hR hvw hv _)
    | reversed => exact keeping .elements (fun _ _ => rfl) (View.reversed_related hR hvw hv)
    | contains a => exact keeping .verdict (fun _ _ => rfl) (View.contains_related hR hvw hv a)
    | count a => exact keeping .number (fun _ _ => rfl) (View.count_related hR hvw hv a)
    | index a start stop =>
      exact keeping .position (fun _ _ => rfl) (View.index_related hR hvw hv a start stop)
    | equalsValue x =>
      exact keeping .verdict (fun _ _ => rfl) (View.equalsValue_related hR hvw hv x)
    | label => exact keeping .text (fun _ _ => rfl) (View.label_related hR hvw hv)
    | concat other => cases h
    | equals other => cases h

/-- What holds between reading with checks and without holds between running with checks and
without. -/
theorem run_related {R : {β : Type} → Probe β → Probe β → Prop} (hR : Probe.Congruence R)
    (op : Operation) {v : View Value}
    (hv : ∀ u ∈ v :: op.others, ∀ p < u.size, R (u.readAt true p) (u.readAt false p)) :
    R (op.run true v) (op.run false v) := by
  have h := run_counterpart hR (.refl v) (hv v (List.mem_cons_self ..)) (fun _ _ => rfl)
    (counterpart_self fun u hu => hv u (List.mem_cons_of_mem _ hu)) (f := id) (g := id)
  simpa using h

end Operation

end Strided
