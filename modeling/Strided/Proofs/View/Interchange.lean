import Strided.Proofs.View.Checks
import Strided.Proofs.View.Keeping

/-!
# Stores in each other's place

A session makes views of a number of stores and asks them; the views that are answered can be asked
in turn, and can be given to each other.  `transcript` is everything that comes of it: the answers,
the reads, the records and the faults, step by step.

Each kind of store takes an index outside in its own way.  With checks it is never given one, so
stores that hold the same can take each other's place: `transcript_rehomeIn` says that the transcript
stays as it is, except that the views in it are views of the other stores.
-/

namespace Strided

/-- Two stores have one identity, lead to views of one kind and hold the same. -/
structure Backing.SameContents (b c : Backing Value) : Prop where
  id : c.id = b.id
  viewKind : c.viewKind = b.viewKind
  contents : ∃ xs, b.Holds xs ∧ c.Holds xs

namespace View

/-! ### One view -/

def rehome (b : Backing Value) (v : View Value) : View Value := ⟨v.kind, b, v.window⟩

/-- The same view of the store with its number among others. -/
def rehomeIn (stores : List (Backing Value)) (v : View Value) : View Value :=
  v.rehome (stores[v.backing.id]?.getD v.backing)

/-- With checks, an element is read in the same way from stores that hold the same, whatever the
window. -/
theorem readAt_of_sameContents {v w : View Value} (hvw : v.window = w.window)
    (h : v.backing.SameContents w.backing) (p : Nat) : v.readAt true p = w.readAt true p := by
  obtain ⟨xs, hv, hw⟩ := h.contents
  by_cases hp : 0 ≤ v.window.linearIndex p ∧ v.window.linearIndex p < xs.length
  · have hlt : (v.window.linearIndex p).toNat < xs.length := by omega
    have hnat : ((v.window.linearIndex p).toNat : Int) = v.window.linearIndex p :=
      Int.toNat_of_nonneg hp.1
    have hread := hv.read _ _ (List.getElem?_eq_getElem hlt)
    have hread' := hw.read _ _ (List.getElem?_eq_getElem hlt)
    rw [hnat] at hread hread'
    rw [readAt_of_mem true hv.count hp, readAt_of_mem true hw.count (hvw ▸ hp), ← hvw,
      Backing.probe, Backing.probe, hread, hread', h.id]
  · rw [readAt_of_not_mem hv.count hp, readAt_of_not_mem hw.count (hvw ▸ hp), ← hvw]

end View

def Answer.views : Answer → List (View Value)
  | .selected (.view v) | .signalledSelected (.ok (.view v)) => [v]
  | _ => []

theorem Answer.views_mapView (f : View Value → View Value) (x : Answer) :
    (x.mapView f).views = x.views.map f := by
  match x with
  | .selected (.view _) | .selected (.element _) | .signalledSelected (.ok (.view _))
  | .signalledSelected (.ok (.element _)) | .signalledSelected (.error _)
  | .signalled _ | .element _ | .elements _ | .verdict _ | .number _ | .position _ | .text _ => rfl

theorem Operation.backing_of_mem_views {op : Operation} {checks : Bool} {v u : View Value}
    {x : Answer} (hx : (op.run checks v).outcome = .ok x) (hu : u ∈ x.views) :
    u.backing = v.backing := by
  have hself : Counterpart (fun x y => x = y) checks checks op op :=
    counterpart_self fun _ _ _ _ => rfl
  have hrun := run_counterpart Probe.eq_congruence (.refl v) (fun _ _ => rfl)
    (f := View.rehome v.backing) (g := id) (fun _ _ => rfl) hself
  have hsame := congrArg Traced.outcome hrun
  rw [Traced.outcome_map, Answer.mapView_id, id_map, hx] at hsame
  have hviews := congrArg Answer.views (Except.ok.inj hsame)
  rw [Answer.views_mapView] at hviews
  rw [← hviews] at hu
  obtain ⟨w, -, rfl⟩ := List.mem_map.1 hu
  rfl

/-! ### Sessions -/

/-- What a view is asked for in a session.  Another view that it needs is known by its number. -/
inductive Request where
  | alone (op : Operation) (h : op.others = [])
  | concat (other : Nat)
  | equals (other : Nat)

def Request.operation? (views : List (View Value)) : Request → Option Operation
  | alone op _ => some op
  | concat other => views[other]?.map .concat
  | equals other => views[other]?.map .equals

/-- How a view of a store is made. -/
inductive Opening where
  | make (kind : ViewKind) (start length step : Int)
  | derive (start length step : Int)
  | full (kind : ViewKind)
  | whole

def Opening.view (b : Backing Value) : Opening → Probe (View Value)
  | make kind start length step => View.make kind b start length step
  | derive start length step => View.derive b start length step
  | full kind => View.full kind b
  | whole => View.ofBacking b

/-- A view is made, or that is a violation; which of the two, and what view, only depends on the
number of elements and on the kind of view that the store leads to. -/
theorem Opening.view_cases (how : Opening) (n : Nat) (preferred : ViewKind) :
    (∃ kind window, ∀ b : Backing Value, b.count = .ok n → b.viewKind = preferred →
      how.view b = pure ⟨kind, b, window⟩) ∨
    ∃ e, ∀ b : Backing Value, b.count = .ok n → b.viewKind = preferred →
      how.view b = Probe.violate e := by
  have hmake : ∀ kind start length step,
      (∃ window, ∀ b : Backing Value, View.make kind b start length step =
        pure ⟨kind, b, window⟩) ∨
      ∃ e, ∀ b : Backing Value, View.make kind b start length step = Probe.violate e := by
    intro kind start length step
    by_cases hlength : length < 0
    · exact .inr ⟨_, fun b => if_pos hlength⟩
    · by_cases hstep : step = 0
      · exact .inr ⟨_, fun b => by rw [View.make, if_neg hlength, dif_pos hstep]⟩
      · exact .inl ⟨_, fun b => by rw [View.make, if_neg hlength, dif_neg hstep]⟩
  cases how with
  | make kind start length step =>
    rcases hmake kind start length step with ⟨window, h⟩ | ⟨e, h⟩
    · exact .inl ⟨kind, window, fun b _ _ => h b⟩
    · exact .inr ⟨e, fun b _ _ => h b⟩
  | derive start length step =>
    rcases hmake preferred start length step with ⟨window, h⟩ | ⟨e, h⟩
    · exact .inl ⟨preferred, window, fun b _ hkind => by rw [view, View.derive, hkind, h b]⟩
    · exact .inr ⟨e, fun b _ hkind => by rw [view, View.derive, hkind, h b]⟩
  | full kind => exact .inl ⟨kind, Window.whole n, fun b hn _ => View.full_of_count kind hn⟩
  | whole =>
    exact .inl ⟨preferred, Window.whole n, fun b hn hkind => hkind ▸ View.full_of_count _ hn⟩

/-- One step of a session.  Stores and views are known by their numbers. -/
inductive Step where
  | opening (store : Nat) (how : Opening)
  | ask (view : Nat) (request : Request)

/-- What comes of a step.  Nothing does if there is no such store or view. -/
def Step.answer? (stores : List (Backing Value)) (views : List (View Value)) :
    Step → Option (Probe Answer)
  | opening store how => do
    let b ← stores[store]?
    some ((fun v => .selected (.view v)) <$> how.view b)
  | ask view request => do
    let v ← views[view]?
    let op ← request.operation? views
    some (op.run true v)

def newViews : Option (Probe Answer) → List (View Value)
  | some ⟨_, .ok x⟩ => x.views
  | _ => []

theorem newViews_map (f : View Value → View Value) (x : Option (Probe Answer)) :
    newViews (x.map (Answer.mapView f <$> ·)) = (newViews x).map f := by
  match x with
  | none | some ⟨_, .error _⟩ => rfl
  | some ⟨events, .ok x⟩ =>
    change (x.mapView f).views = _
    exact x.views_mapView f

theorem mem_newViews {x : Probe Answer} {v : View Value} :
    v ∈ newViews (some x) ↔ ∃ answer, x.outcome = .ok answer ∧ v ∈ answer.views := by
  obtain ⟨events, outcome⟩ := x
  cases outcome with
  | ok answer =>
    constructor
    · exact fun h => ⟨answer, rfl, h⟩
    · rintro ⟨_, h, hv⟩
      cases h
      exact hv
  | error e =>
    constructor
    · intro h
      cases h
    · rintro ⟨_, h, -⟩
      cases h

/-- What comes of the steps of a session, one after the other. -/
def transcript (stores : List (Backing Value)) :
    (views : List (View Value)) → List Step → List (Option (Probe Answer))
  | _, [] => []
  | views, step :: rest =>
    let answer := step.answer? stores views
    answer :: transcript stores (views ++ newViews answer) rest

/-! ### The same session over other stores -/

/-- The stores have their numbers, and hold the same as the others, one by one. -/
structure Interchangeable (bs cs : List (Backing Value)) : Prop where
  length : cs.length = bs.length
  number : ∀ (i : Nat) (b : Backing Value), bs[i]? = some b → b.id = i
  same : ∀ (i : Nat) (b : Backing Value), bs[i]? = some b → ∃ c, cs[i]? = some c ∧ b.SameContents c

/-- The view is one of these stores. -/
def View.Of (stores : List (Backing Value)) (v : View Value) : Prop :=
  stores[v.backing.id]? = some v.backing

namespace Interchangeable

variable {bs cs : List (Backing Value)}

theorem exists_rehomeIn (h : Interchangeable bs cs) {v : View Value} (hv : v.Of bs) :
    ∃ c, v.backing.SameContents c ∧
      ∀ kind window, View.rehomeIn cs ⟨kind, v.backing, window⟩ = ⟨kind, c, window⟩ := by
  obtain ⟨c, hc, hsame⟩ := h.same _ _ hv
  refine ⟨c, hsame, fun kind window => ?_⟩
  simp only [View.rehomeIn, View.rehome, hc, Option.getD_some]

theorem matches_rehomeIn (h : Interchangeable bs cs) {v : View Value} (hv : v.Of bs) :
    v.Matches (v.rehomeIn cs) ∧ ∀ p, v.readAt true p = (v.rehomeIn cs).readAt true p := by
  obtain ⟨c, hsame, hhome⟩ := h.exists_rehomeIn hv
  rw [show v.rehomeIn cs = ⟨v.kind, c, v.window⟩ from hhome ..]
  exact ⟨⟨rfl, rfl, hsame.viewKind⟩, View.readAt_of_sameContents rfl hsame⟩

/-- A view of one of the stores answers as the same view of the one in its place does. -/
theorem run_rehomeIn (h : Interchangeable bs cs) {v : View Value} (hv : v.Of bs)
    {op other : Operation}
    (hop : Operation.Counterpart (fun {_} x y => x = y) true true op other) :
    other.run true (v.rehomeIn cs) = Answer.mapView (View.rehomeIn cs) <$> op.run true v := by
  obtain ⟨hmatches, hread⟩ := h.matches_rehomeIn hv
  obtain ⟨c, -, hhome⟩ := h.exists_rehomeIn hv
  have hrun := Operation.run_counterpart Probe.eq_congruence hmatches (fun p _ => hread p)
    (f := View.rehomeIn cs) (g := id) (fun kind window => ?_) hop
  · rw [hrun, Answer.mapView_id, id_map]
  · rw [hhome, show v.rehomeIn cs = ⟨v.kind, c, v.window⟩ from hhome ..]
    rfl

theorem operation?_rehomeIn (h : Interchangeable bs cs) {views : List (View Value)}
    (hviews : ∀ v ∈ views, v.Of bs) (request : Request) :
    Option.Rel (Operation.Counterpart (fun {_} x y => x = y) true true)
      (request.operation? views) (request.operation? (views.map (View.rehomeIn cs))) := by
  cases request with
  | alone op hop => exact .some (.same hop)
  | concat other =>
    simp only [Request.operation?, List.getElem?_map]
    cases ht : views[other]? with
    | none => exact .none
    | some t =>
      obtain ⟨hmatches, hread⟩ := h.matches_rehomeIn (hviews t (List.mem_of_getElem? ht))
      exact .some (.concat hmatches fun p _ => hread p)
  | equals other =>
    simp only [Request.operation?, List.getElem?_map]
    cases ht : views[other]? with
    | none => exact .none
    | some t =>
      obtain ⟨hmatches, hread⟩ := h.matches_rehomeIn (hviews t (List.mem_of_getElem? ht))
      exact .some (.equals hmatches fun p _ => hread p)

/-- **One step comes to the same**, over the other stores, and adds views of the stores. -/
theorem answer?_rehomeIn (h : Interchangeable bs cs) {views : List (View Value)}
    (hviews : ∀ v ∈ views, v.Of bs) (step : Step) :
    step.answer? cs (views.map (View.rehomeIn cs)) =
        (step.answer? bs views).map (Answer.mapView (View.rehomeIn cs) <$> ·) ∧
      ∀ v ∈ newViews (step.answer? bs views), v.Of bs := by
  cases step with
  | opening store how =>
    simp only [Step.answer?]
    cases hb : bs[store]? with
    | none =>
      rw [List.getElem?_eq_none_iff, ← h.length, ← List.getElem?_eq_none_iff] at hb
      rw [hb]
      exact ⟨rfl, fun v hv => absurd hv List.not_mem_nil⟩
    | some b =>
      obtain ⟨c, hc, hsame⟩ := h.same store b hb
      obtain ⟨xs, hholds, hholds'⟩ := hsame.contents
      rw [hc]
      rcases how.view_cases xs.length b.viewKind with ⟨kind, window, hview⟩ | ⟨e, hview⟩
      · have hhome : View.rehomeIn cs ⟨kind, b, window⟩ = ⟨kind, c, window⟩ := by
          simp only [View.rehomeIn, View.rehome, h.number store b hb, hc, Option.getD_some]
        simp only [Option.bind_eq_bind, Option.bind_some, Option.map_some,
          hview b hholds.count rfl, hview c hholds'.count hsame.viewKind, map_pure,
          Answer.mapView, Selected.mapView, hhome, true_and]
        intro v hv
        obtain rfl := List.mem_singleton.1 hv
        rw [View.Of, h.number store b hb, hb]
      · simp only [Option.bind_eq_bind, Option.bind_some, Option.map_some,
          hview b hholds.count rfl, hview c hholds'.count hsame.viewKind, Probe.violate_map,
          true_and]
        intro v hv
        obtain ⟨x, hx, -⟩ := mem_newViews.1 hv
        exact absurd hx (Probe.outcome_violate_ne_ok e x)
  | ask view request =>
    simp only [Step.answer?, List.getElem?_map]
    cases ht : views[view]? with
    | none => exact ⟨rfl, fun v hv => absurd hv List.not_mem_nil⟩
    | some t =>
      have htof := hviews t (List.mem_of_getElem? ht)
      have hop := h.operation?_rehomeIn hviews request
      simp only [Option.bind_eq_bind, Option.map_some, Option.bind_some]
      generalize request.operation? views = op, request.operation? (views.map _) = other at hop ⊢
      cases hop with
      | none => exact ⟨rfl, fun v hv => absurd hv List.not_mem_nil⟩
      | some hop =>
        refine ⟨congrArg some (h.run_rehomeIn htof hop), fun v hv => ?_⟩
        obtain ⟨x, hx, hv⟩ := mem_newViews.1 hv
        rw [View.Of, Operation.backing_of_mem_views hx hv]
        exact htof

/-- **A session comes to the same**, over the other stores. -/
theorem transcript_rehomeIn (h : Interchangeable bs cs) {views : List (View Value)}
    (hviews : ∀ v ∈ views, v.Of bs) (steps : List Step) :
    transcript cs (views.map (View.rehomeIn cs)) steps =
      (transcript bs views steps).map (Option.map (Answer.mapView (View.rehomeIn cs) <$> ·)) := by
  induction steps generalizing views with
  | nil => rfl
  | cons step rest ih =>
    obtain ⟨hstep, hnew⟩ := h.answer?_rehomeIn hviews step
    have hall : ∀ v ∈ views ++ newViews (step.answer? bs views), v.Of bs := by
      intro v hv
      rcases List.mem_append.1 hv with hv | hv
      · exact hviews v hv
      · exact hnew v hv
    rw [transcript, transcript, List.map_cons, ← ih hall, hstep, newViews_map, List.map_append]

end Interchangeable

/-! ### Integers, however they are kept -/

/-- Stores of lists of integers, each kept in its own way; the views that slices of it lead to are
of the kind beside it. -/
def keepAll (keep : Nat → Keeping) (lists : List (ViewKind × List Int)) :
    Except Fault (List (Backing Value)) :=
  lists.zipIdx.mapM fun (l, i) => (keep i).store i l.1 l.2

theorem exists_keepAll (keep : Nat → Keeping) {lists : List (ViewKind × List Int)}
    (hints : ∀ l ∈ lists, ∀ n ∈ l.2, ElementType.holds 8 true n = true)
    (hlen : ∀ l ∈ lists, (l.2.length : Int) ≤ Number.Word.greatest) :
    ∃ bs, keepAll keep lists = .ok bs ∧ bs.length = lists.length ∧
      ∀ (i : Nat) (l : ViewKind × List Int), lists[i]? = some l →
        ∃ b, bs[i]? = some b ∧ b.id = i ∧ b.viewKind = l.1 ∧ b.Holds (l.2.map .int) := by
  have hstore : ∀ p ∈ lists.zipIdx, ∃ b, (keep p.2).store p.2 p.1.1 p.1.2 = .ok b ∧
      b.id = p.2 ∧ b.viewKind = p.1.1 ∧ b.Holds (p.1.2.map .int) := by
    rintro ⟨l, i⟩ hp
    have hl : l ∈ lists := List.fst_mem_of_mem_zipIdx hp
    exact (keep i).exists_store i l.1 (hints l hl) (hlen l hl)
  obtain ⟨bs, hbs, hall⟩ := exists_mapM_eq_ok hstore
  refine ⟨bs, hbs, by rw [← hall.length_eq, List.length_zipIdx], fun i l hl => ?_⟩
  have hi : i < lists.length := (List.getElem?_eq_some_iff.1 hl).1
  have hi' : i < bs.length := by rw [← hall.length_eq, List.length_zipIdx]; exact hi
  have h := hall.get (by rw [List.length_zipIdx]; exact hi) hi'
  obtain ⟨-, rfl⟩ := List.getElem?_eq_some_iff.1 hl
  simp only [List.get_eq_getElem, List.getElem_zipIdx, Nat.zero_add] at h
  exact ⟨bs[i], List.getElem?_eq_getElem hi', h⟩

/-- **How integers are kept does not matter.**  Lists of integers of 64 bits, each kept as a list, as
a tuple, in a typed array or in native memory, and the same lists kept in other ways: with checks,
whatever views are made of them and whatever these are asked, each answer, each fault, each record
and each index that is read is the same, and the views in the answers have the same windows. -/
theorem keeping_does_not_matter {lists : List (ViewKind × List Int)}
    (hints : ∀ l ∈ lists, ∀ n ∈ l.2, ElementType.holds 8 true n = true)
    (hlen : ∀ l ∈ lists, (l.2.length : Int) ≤ Number.Word.greatest) (keep keep' : Nat → Keeping) :
    ∃ bs cs, keepAll keep lists = .ok bs ∧ keepAll keep' lists = .ok cs ∧
      bs.length = lists.length ∧ cs.length = lists.length ∧ ∀ steps : List Step,
        transcript cs [] steps =
          (transcript bs [] steps).map (Option.map (Answer.mapView (View.rehomeIn cs) <$> ·)) := by
  obtain ⟨bs, hbs, hlength, hholds⟩ := exists_keepAll keep hints hlen
  obtain ⟨cs, hcs, hlength', hholds'⟩ := exists_keepAll keep' hints hlen
  have h : Interchangeable bs cs := by
    have hboth : ∀ (i : Nat) (b : Backing Value), bs[i]? = some b →
        b.id = i ∧ ∃ c, cs[i]? = some c ∧ b.SameContents c := by
      intro i b hb
      have hi : i < lists.length := hlength ▸ (List.getElem?_eq_some_iff.1 hb).1
      obtain ⟨_, hb', hid, hkind, hcontents⟩ := hholds i _ (List.getElem?_eq_getElem hi)
      obtain ⟨c, hc, hid', hkind', hcontents'⟩ := hholds' i _ (List.getElem?_eq_getElem hi)
      obtain rfl := Option.some.inj (hb.symm.trans hb')
      exact ⟨hid, c, hc, hid'.trans hid.symm, hkind'.trans hkind.symm, _, hcontents, hcontents'⟩
    exact ⟨hlength'.trans hlength.symm, fun i b hb => (hboth i b hb).1,
      fun i b hb => (hboth i b hb).2⟩
  have hnone : ∀ v ∈ ([] : List (View Value)), v.Of bs := fun _ hv => absurd hv List.not_mem_nil
  exact ⟨bs, cs, hbs, hcs, hlength, hlength', h.transcript_rehomeIn hnone⟩

/-- Three integers as a list and two as a tuple, and then in an array and in native memory.  The
second store is looked at from its end, and the view is compared with the view of the first. -/
theorem keeping_does_not_matter_to_two_lists :
    let lists : List (ViewKind × List Int) := [(.plain, [4, -5, 6]), (.numeric, [4, -5])]
    let keep : Nat → Keeping := fun i => if i = 0 then .list else .tuple
    let keep' : Nat → Keeping := fun i => if i = 0 then .array else .cells
    let steps : List Step := [.opening 0 .whole, .opening 1 (.make .labelled 1 2 (-1)),
      .ask 0 (.equals 1), .ask 0 (.alone (.itemAt (-1)) rfl)]
    ∃ bs cs, keepAll keep lists = .ok bs ∧ keepAll keep' lists = .ok cs ∧
      transcript cs [] steps =
        (transcript bs [] steps).map (Option.map (Answer.mapView (View.rehomeIn cs) <$> ·)) ∧
      (transcript cs [] steps).drop 2 =
        [some ⟨[.read 1 1, .read 1 0, .read 0 0, .read 0 1, .read 0 2], .ok (.verdict false)⟩,
          some ⟨[.read 0 2], .ok (.signalled (.ok (.int 6)))⟩] := by
  intro lists keep keep' steps
  have hints : ∀ l ∈ lists, ∀ n ∈ l.2, ElementType.holds 8 true n = true := by decide
  have hlen : ∀ l ∈ lists, (l.2.length : Int) ≤ Number.Word.greatest := by decide
  obtain ⟨bs, cs, hbs, hcs, -, -, h⟩ := keeping_does_not_matter hints hlen keep keep'
  refine ⟨bs, cs, hbs, hcs, h steps, ?_⟩
  cases hcs
  rfl

end Strided
