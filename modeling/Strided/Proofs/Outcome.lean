import Mathlib.Data.List.Forall2

/-!
# Outcomes

An outcome is a result or a fault.  Outcomes in sequence have a result if each of them has one, and
so have those of a list; these are the ways to take such results apart.
-/

namespace Strided

variable {ε α β : Type}

/-! ### Lists that are related element by element -/

theorem exists_of_mem_right {R : α → β → Prop} {l : List α} {bs : List β}
    (h : List.Forall₂ R l bs) {b : β} (hb : b ∈ bs) : ∃ a ∈ l, R a b := by
  induction h with
  | nil => cases hb
  | cons hab _ ih =>
    rcases List.mem_cons.1 hb with rfl | hb
    · exact ⟨_, List.mem_cons_self .., hab⟩
    · obtain ⟨a, ha, hfa⟩ := ih hb
      exact ⟨a, List.mem_cons_of_mem _ ha, hfa⟩

theorem exists_of_mem_left {R : α → β → Prop} {l : List α} {bs : List β}
    (h : List.Forall₂ R l bs) {a : α} (ha : a ∈ l) : ∃ b ∈ bs, R a b :=
  exists_of_mem_right h.flip ha

/-! ### Outcomes in sequence -/

theorem exists_of_bind_eq_ok {x : Except ε α} {f : α → Except ε β} {b : β}
    (h : x >>= f = .ok b) : ∃ a, x = .ok a ∧ f a = .ok b := by
  cases x with
  | error e => cases h
  | ok a => exact ⟨a, rfl, h⟩

theorem map_eq_ok_iff {f : α → β} {x : Except ε α} {b : β} :
    f <$> x = .ok b ↔ ∃ a, x = .ok a ∧ b = f a := by
  cases x with
  | ok a =>
    constructor
    · intro h
      exact ⟨a, rfl, (Except.ok.inj h).symm⟩
    · rintro ⟨a', ha, rfl⟩
      cases ha
      rfl
  | error e => simp [Functor.map, Except.map]

theorem mapM_eq_ok_iff {f : α → Except ε β} {l : List α} {bs : List β} :
    l.mapM f = .ok bs ↔ List.Forall₂ (fun a b => f a = .ok b) l bs := by
  induction l generalizing bs with
  | nil =>
    rw [List.forall₂_nil_left_iff, eq_comm]
    exact ⟨fun h => (Except.ok.inj h).symm ▸ rfl, fun h => h ▸ rfl⟩
  | cons a rest ih =>
    rw [List.mapM_cons]
    constructor
    · intro h
      obtain ⟨b, hb, h⟩ := exists_of_bind_eq_ok h
      obtain ⟨others, hothers, h⟩ := exists_of_bind_eq_ok h
      cases h
      exact .cons hb (ih.1 hothers)
    · intro h
      cases h with
      | cons hb hothers =>
        rw [hb, ih.2 hothers]
        rfl

theorem mapM_eq_ok {f : α → Except ε β} {g : α → β} {l : List α} (h : ∀ a ∈ l, f a = .ok (g a)) :
    l.mapM f = .ok (l.map g) :=
  mapM_eq_ok_iff.2 (List.forall₂_map_right_iff.2 (List.forall₂_same.2 h))

theorem mapM_range_eq_ok_iff {f : Nat → Except ε β} {n : Nat} {bs : List β} :
    (List.range n).mapM f = .ok bs ↔
      bs.length = n ∧ ∀ (k : Nat) (b : β), bs[k]? = some b → f k = .ok b := by
  rw [mapM_eq_ok_iff, List.forall₂_iff_get]
  simp only [List.length_range, List.get_eq_getElem, List.getElem_range]
  constructor
  · rintro ⟨hlen, hf⟩
    refine ⟨hlen.symm, ?_⟩
    intro k b hb
    obtain ⟨hk, rfl⟩ := List.getElem?_eq_some_iff.1 hb
    exact hf k (by omega) hk
  · rintro ⟨hlen, hf⟩
    refine ⟨hlen.symm, ?_⟩
    intro k _ hk
    exact hf k _ (List.getElem?_eq_getElem hk)

/-- A list of computations fails with the fault of the first that has no result. -/
theorem mapM_eq_error_iff {f : α → Except ε β} {l : List α} {e : ε} :
    l.mapM f = .error e ↔
      ∃ before a after, l = before ++ a :: after ∧ (∀ c ∈ before, ∃ b, f c = .ok b) ∧
        f a = .error e := by
  induction l with
  | nil =>
    refine ⟨fun h => (by cases h), ?_⟩
    rintro ⟨before, a, after, hl, -⟩
    exact absurd hl.symm (by simp)
  | cons a rest ih =>
    have hcons : (a :: rest).mapM f = .error e ↔
        f a = .error e ∨ (∃ b, f a = .ok b) ∧ rest.mapM f = .error e := by
      rw [List.mapM_cons]
      cases f a with
      | error d => simp [bind, Except.bind]
      | ok b => cases rest.mapM f <;> simp [bind, Except.bind, pure, Except.pure]
    rw [hcons, ih]
    constructor
    · rintro (ha | ⟨ha, before, c, after, rfl, hbefore, hc⟩)
      · exact ⟨[], a, rest, rfl, nofun, ha⟩
      · exact ⟨a :: before, c, after, rfl, List.forall_mem_cons.2 ⟨ha, hbefore⟩, hc⟩
    · rintro ⟨before, c, after, hl, hbefore, hc⟩
      cases before with
      | nil =>
        cases hl
        exact .inl hc
      | cons d before =>
        cases hl
        obtain ⟨hd, hbefore⟩ := List.forall_mem_cons.1 hbefore
        exact .inr ⟨hd, before, c, after, rfl, hbefore, hc⟩

theorem exists_of_mem_mapM {f : α → Except ε β} {l : List α} {bs : List β}
    (h : l.mapM f = .ok bs) {b : β} (hb : b ∈ bs) : ∃ a ∈ l, f a = .ok b :=
  exists_of_mem_right (mapM_eq_ok_iff.1 h) hb

theorem exists_mem_of_mapM {f : α → Except ε β} {l : List α} {bs : List β}
    (h : l.mapM f = .ok bs) {a : α} (ha : a ∈ l) : ∃ b ∈ bs, f a = .ok b :=
  exists_of_mem_left (mapM_eq_ok_iff.1 h) ha

theorem mapM_eq_some_iff {f : α → Option β} {l : List α} {bs : List β} :
    l.mapM f = some bs ↔ List.Forall₂ (fun a b => f a = some b) l bs := by
  induction l generalizing bs with
  | nil =>
    rw [List.forall₂_nil_left_iff, eq_comm]
    exact ⟨fun h => (Option.some.inj h).symm ▸ rfl, fun h => h ▸ rfl⟩
  | cons a rest ih =>
    rw [List.mapM_cons]
    constructor
    · intro h
      obtain ⟨b, hb, h⟩ := Option.bind_eq_some_iff.1 h
      obtain ⟨others, hothers, h⟩ := Option.bind_eq_some_iff.1 h
      cases h
      exact .cons hb (ih.1 hothers)
    · intro h
      cases h with
      | cons hb hothers =>
        rw [hb, ih.2 hothers]
        rfl

theorem exists_of_mem_mapM_some {f : α → Option β} {l : List α} {bs : List β}
    (h : l.mapM f = some bs) {b : β} (hb : b ∈ bs) : ∃ a ∈ l, f a = some b :=
  exists_of_mem_right (mapM_eq_some_iff.1 h) hb

theorem exists_mapM_eq_ok {f : α → Except ε β} {P : α → β → Prop} {l : List α}
    (h : ∀ a ∈ l, ∃ b, f a = .ok b ∧ P a b) : ∃ bs, l.mapM f = .ok bs ∧ List.Forall₂ P l bs := by
  induction l with
  | nil => exact ⟨[], rfl, .nil⟩
  | cons a rest ih =>
    obtain ⟨b, hb, hab⟩ := h a (List.mem_cons_self ..)
    obtain ⟨bs, hbs, hrest⟩ := ih fun c hc => h c (List.mem_cons_of_mem a hc)
    refine ⟨b :: bs, ?_, .cons hab hrest⟩
    rw [List.mapM_cons, hb, hbs]
    rfl

theorem exists_mapM {f : α → Except ε β} {l : List α} (h : ∀ a ∈ l, ∃ b, f a = .ok b) :
    ∃ bs, l.mapM f = .ok bs := by
  obtain ⟨bs, hbs, -⟩ := exists_mapM_eq_ok (P := fun _ _ => True) fun a ha =>
    (h a ha).imp fun _ hb => ⟨hb, trivial⟩
  exact ⟨bs, hbs⟩

theorem exists_findM? {f : α → Except ε Bool} {l : List α} (h : ∀ a ∈ l, ∃ r, f a = .ok r) :
    ∃ found, l.findM? f = .ok found := by
  induction l with
  | nil => exact ⟨none, rfl⟩
  | cons a rest ih =>
    obtain ⟨r, hr⟩ := h a (List.mem_cons_self ..)
    rw [List.findM?, hr]
    cases r with
    | true => exact ⟨some a, rfl⟩
    | false => exact ih fun b hb => h b (List.mem_cons_of_mem a hb)

theorem mapM_congr {m : Type → Type} [Monad m] [LawfulMonad m] {f g : α → m β} {l : List α}
    (h : ∀ a ∈ l, f a = g a) : l.mapM f = l.mapM g := by
  induction l with
  | nil => rfl
  | cons a rest ih =>
    rw [List.mapM_cons, List.mapM_cons, h a (List.mem_cons_self ..),
      ih fun b hb => h b (List.mem_cons_of_mem a hb)]

theorem findM?_congr {m : Type → Type} [Monad m] {f g : α → m Bool} {l : List α}
    (h : ∀ a ∈ l, f a = g a) : l.findM? f = l.findM? g := by
  induction l with
  | nil => rfl
  | cons a rest ih =>
    rw [List.findM?, List.findM?, h a (List.mem_cons_self ..),
      ih fun b hb => h b (List.mem_cons_of_mem a hb)]

theorem anyM_eq_findM? {m : Type → Type} [Monad m] [LawfulMonad m] (f : α → m Bool) (l : List α) :
    l.anyM f = Option.isSome <$> l.findM? f := by
  induction l with
  | nil => rw [List.anyM_nil, List.findM?, map_pure, Option.isSome_none]
  | cons a rest ih =>
    rw [List.anyM_cons, List.findM?, map_bind, ih]
    refine congrArg _ (funext fun found => ?_)
    cases found with
    | true => rw [if_pos rfl, map_pure, Option.isSome_some]
    | false => rfl

/-- Computations that have the results of others, wherever these have one, do so as a list. -/
theorem mapM_of_imp {f g : α → Except ε β} {l : List α} {bs : List β}
    (hfg : ∀ a ∈ l, ∀ b, f a = .ok b → g a = .ok b) (h : l.mapM f = .ok bs) :
    l.mapM g = .ok bs := by
  refine mapM_eq_ok_iff.2 ?_
  exact ((List.forall₂_and_left ..).2 ⟨hfg, mapM_eq_ok_iff.1 h⟩).imp fun a b hab => hab.1 b hab.2

theorem foldlM_of_imp {f g : β → α → Except ε β} {l : List α} {b r : β}
    (hfg : ∀ a ∈ l, ∀ b c, f b a = .ok c → g b a = .ok c) (h : l.foldlM f b = .ok r) :
    l.foldlM g b = .ok r := by
  induction l generalizing b with
  | nil => exact h
  | cons a rest ih =>
    rw [List.foldlM_cons] at h ⊢
    obtain ⟨c, hc, h⟩ := exists_of_bind_eq_ok h
    rw [hfg a (List.mem_cons_self ..) b c hc]
    exact ih (fun d hd => hfg d (List.mem_cons_of_mem a hd)) h

/-- If a computation that goes through a list has a result, then each of its steps has one. -/
theorem exists_of_foldlM {f : β → α → Except ε β} {l : List α} {b r : β}
    (h : l.foldlM f b = .ok r) {a : α} (ha : a ∈ l) : ∃ c d, f c a = .ok d := by
  induction l generalizing b with
  | nil => cases ha
  | cons a' rest ih =>
    rw [List.foldlM_cons] at h
    obtain ⟨c, hc, h⟩ := exists_of_bind_eq_ok h
    rcases List.mem_cons.1 ha with rfl | ha
    · exact ⟨b, c, hc⟩
    · exact ih h ha

end Strided
