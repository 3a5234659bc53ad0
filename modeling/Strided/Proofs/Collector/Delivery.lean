import Strided.Proofs.Collector.Agreement

/-!
# Collectors of a single chunk

A collector of a single chunk counts as called back from the first chunk on, even if that chunk is
no text, and as broken from the second one on.  `Single.Account` says how far it has come, by the
pieces of bytes that were delivered and the values that were handed over, and is kept by each use
(`Single.Account.perform`), so that it holds after every run (`Collector.account_after`).

The promise of exactly one chunk is kept watch over as it should be (`Collector.demands_one_chunk`):
taking the value fails just if the number of chunks so far is not one, and once it is more than one
it fails for ever.  The value itself is less than was promised: it is the text of the one chunk, but
if that chunk is no text then it is empty, and no fault (`Collector.first_value`).
-/

namespace Strided

/-- What is done with a collector.  A native producer does not get to know the faults of its
callbacks. -/
inductive Use where
  | callback (chunk : Chunk)
  | nativeCallback (chunk : Chunk)
  | take

inductive Answered where
  | received
  | dropped (faults : List Fault)
  | value (s : String)

/-- The bytes that a use delivers. -/
def Use.piece? : Use → Option (List UInt8)
  | callback chunk | nativeCallback chunk => chunk.toBytes.toOption
  | take => none

def piecesOf (uses : List Use) : List (List UInt8) := uses.filterMap Use.piece?

def valueOf? : Except Fault Answered → Option String
  | .ok (.value s) => some s
  | _ => none

namespace Collector

def perform (c : Collector) : Use → Reply Collector Answered
  | .callback chunk => (c.callback chunk).map fun _ => .received
  | .nativeCallback chunk => (c.nativeCallback chunk).map .dropped
  | .take => c.take.map .value

/-- The collector after several uses.  Everyone carries on after a fault. -/
def after (c : Collector) (uses : List Use) : Collector :=
  uses.foldl (fun c use => (c.perform use).state) c

def answers (c : Collector) : List Use → List (Except Fault Answered)
  | [] => []
  | use :: rest => (c.perform use).outcome :: (c.perform use).state.answers rest

def values (c : Collector) (uses : List Use) : List String := (c.answers uses).filterMap valueOf?

end Collector

/-- The text of a piece of bytes, or the empty one if it is no text. -/
def textOrEmpty (piece : List UInt8) : String := (Text.Utf8.decode piece).toOption.getD ""

theorem textOrEmpty_eq_iff {piece : List UInt8} {s : String} :
    s = textOrEmpty piece ↔ Text.Utf8.decode piece = .ok s ∨
      (s = "" ∧ ∃ m, Text.Utf8.decode piece = .error m) := by
  unfold textOrEmpty
  cases Text.Utf8.decode piece with
  | ok t => simp [Except.toOption, eq_comm]
  | error m => simp [Except.toOption]

/-! ### One use -/

namespace Single

/-- How far a collector has come, to which `pieces` were delivered and which handed over `values`. -/
inductive Account : (pieces : List (List UInt8)) → (values : List String) → Single → Prop where
  /-- Nothing has come. -/
  | waiting : Account [] [] .empty
  /-- The one piece has come. -/
  | holding (piece : List UInt8) : Account [piece] [] ⟨textOrEmpty piece, true, false⟩
  /-- The one piece has come and its value was handed over; after that there is only an empty one. -/
  | spent (piece : List UInt8) (n : Nat) :
    Account [piece] (textOrEmpty piece :: List.replicate n "") ⟨"", true, false⟩
  /-- More pieces have come. -/
  | broken {pieces : List (List UInt8)} (h : 2 ≤ pieces.length) (values : List String)
      (value : String) : Account pieces values ⟨value, true, true⟩

variable {c : Single} {pieces : List (List UInt8)} {values : List String}

theorem onChunk_of_invoked (h : c.invoked = true) (piece : List UInt8) :
    c.onChunk piece = .violation { c with violated := true } .calledAgain :=
  if_pos h

/-- The first chunk leaves its text, or nothing if it is no text. -/
theorem state_onChunk_empty (piece : List UInt8) :
    (Single.empty.onChunk piece).state = ⟨textOrEmpty piece, true, false⟩ := by
  have hinvoked : ¬ Single.empty.invoked = true := Bool.false_ne_true
  rw [onChunk, if_neg hinvoked, decodeChunk, textOrEmpty]
  cases Text.Utf8.decode piece with
  | ok s => rfl
  | error m => rfl

theorem Account.onChunk (h : Account pieces values c) (piece : List UInt8) :
    Account (pieces ++ [piece]) values (c.onChunk piece).state := by
  cases h with
  | waiting =>
    rw [state_onChunk_empty]
    exact .holding piece
  | holding first =>
    rw [onChunk_of_invoked rfl]
    exact .broken (Nat.le_refl [first, piece].length) _ _
  | spent first n =>
    rw [onChunk_of_invoked rfl]
    exact .broken (Nat.le_refl [first, piece].length) _ _
  | broken h =>
    rw [onChunk_of_invoked rfl]
    refine .broken ?_ _ _
    rw [List.length_append]
    omega

theorem Account.take (h : Account pieces values c) :
    Account pieces (values ++ c.take.outcome.toOption.toList) c.take.state := by
  cases h with
  | waiting => exact .waiting
  | holding piece => exact .spent piece 0
  | spent piece n =>
    have hvalues : textOrEmpty piece :: List.replicate n "" ++ [""] =
        textOrEmpty piece :: List.replicate (n + 1) "" := by
      rw [List.cons_append, ← List.replicate_succ']
    exact hvalues ▸ .spent piece (n + 1)
  | broken h =>
    exact .broken h _ _

theorem Account.outcome_take (h : Account pieces values c) :
    (pieces = [] ∧ c.take.outcome = .error (.violation .notCalled)) ∨
    (∃ piece, pieces = [piece] ∧ c.take.outcome = .ok c.value) ∨
    (2 ≤ pieces.length ∧ c.take.outcome = .error (.violation .calledAgain)) := by
  cases h with
  | waiting => exact .inl ⟨rfl, rfl⟩
  | holding piece => exact .inr (.inl ⟨piece, rfl, rfl⟩)
  | spent piece n => exact .inr (.inl ⟨piece, rfl, rfl⟩)
  | broken h => exact .inr (.inr ⟨h, rfl⟩)

theorem Account.value_eq {piece : List UInt8} (h : Account [piece] [] c) :
    c.value = textOrEmpty piece := by
  cases h with
  | holding => rfl
  | broken h => exact absurd h (Nat.not_le.2 Nat.one_lt_two)

theorem Account.invoked (h : Account pieces values c) (hpieces : pieces ≠ []) :
    c.invoked = true := by
  cases h with
  | waiting => exact absurd rfl hpieces
  | holding | spent | broken => rfl

end Single

namespace Collector

variable {c : Single} {pieces : List (List UInt8)} {values : List String}

theorem callback_of_toBytes_error {c : Collector} {chunk : Chunk} {e : Fault}
    (h : chunk.toBytes = .error e) : c.callback chunk = .fault c e := by
  rw [callback, h]

/-- A native producer has the same effect; it only does not get to know the fault. -/
theorem state_nativeCallback (c : Collector) (chunk : Chunk) :
    (c.nativeCallback chunk).state = (c.callback chunk).state := by
  rw [nativeCallback]
  cases (c.callback chunk).outcome <;> simp only

theorem account_callback (h : c.Account pieces values) (chunk : Chunk) :
    ∃ c' : Single, ((single c).callback chunk).state = single c' ∧
      c'.Account (pieces ++ chunk.toBytes.toOption.toList) values := by
  cases hchunk : chunk.toBytes with
  | ok piece =>
    rw [callback_of_toBytes hchunk]
    exact ⟨(c.onChunk piece).state, rfl, h.onChunk piece⟩
  | error e =>
    rw [callback_of_toBytes_error hchunk]
    exact ⟨c, rfl, (List.append_nil pieces).symm ▸ h⟩

/-- **One use** delivers its piece and hands over its value. -/
theorem account_perform (h : c.Account pieces values) (use : Use) :
    ∃ c' : Single, ((single c).perform use).state = single c' ∧
      c'.Account (pieces ++ use.piece?.toList)
        (values ++ (valueOf? ((single c).perform use).outcome).toList) := by
  cases use with
  | callback chunk =>
    have hvalue : valueOf? ((single c).perform (.callback chunk)).outcome = none := by
      change valueOf? (((single c).callback chunk).outcome.map fun _ => .received) = none
      cases ((single c).callback chunk).outcome <;> rfl
    rw [hvalue, Option.toList_none, List.append_nil]
    exact account_callback h chunk
  | nativeCallback chunk =>
    have hvalue : valueOf? ((single c).perform (.nativeCallback chunk)).outcome = none := by
      change valueOf? (((single c).nativeCallback chunk).outcome.map .dropped) = none
      cases ((single c).nativeCallback chunk).outcome <;> rfl
    obtain ⟨c', hstate, hc'⟩ := account_callback h chunk
    rw [hvalue, Option.toList_none, List.append_nil]
    exact ⟨c', (state_nativeCallback _ chunk).trans hstate, hc'⟩
  | take =>
    have hvalue : valueOf? ((single c).perform .take).outcome = c.take.outcome.toOption := by
      change valueOf? (c.take.outcome.map .value) = _
      cases c.take.outcome <;> rfl
    refine ⟨c.take.state, rfl, ?_⟩
    rw [hvalue, Use.piece?, Option.toList_none, List.append_nil]
    exact h.take

/-! ### A run of uses -/

/-- **A run of uses** delivers its pieces and hands over its values. -/
theorem account_run (h : c.Account pieces values) (uses : List Use) :
    ∃ c' : Single, (single c).after uses = single c' ∧
      c'.Account (pieces ++ piecesOf uses) (values ++ (single c).values uses) := by
  induction uses generalizing c pieces values with
  | nil =>
    refine ⟨c, rfl, ?_⟩
    simpa [piecesOf, Collector.values, answers] using h
  | cons use rest ih =>
    obtain ⟨c₁, hstate, hc₁⟩ := account_perform h use
    obtain ⟨c₂, hafter, hc₂⟩ := ih hc₁
    have hpieces : piecesOf (use :: rest) = use.piece?.toList ++ piecesOf rest := by
      cases hp : use.piece? <;> simp [piecesOf, hp]
    have hvalues : (single c).values (use :: rest) =
        (valueOf? ((single c).perform use).outcome).toList ++ (single c₁).values rest := by
      rw [Collector.values, answers, hstate]
      cases hv : valueOf? ((single c).perform use).outcome <;> simp [Collector.values, hv]
    refine ⟨c₂, ?_, ?_⟩
    · rw [after, List.foldl_cons, hstate]
      exact hafter
    · rw [hpieces, hvalues, ← List.append_assoc, ← List.append_assoc]
      exact hc₂

theorem account_after (uses : List Use) :
    ∃ c : Single, (single .empty).after uses = single c ∧
      c.Account (piecesOf uses) ((single .empty).values uses) :=
  account_run .waiting uses

theorem piecesOf_append (uses later : List Use) :
    piecesOf (uses ++ later) = piecesOf uses ++ piecesOf later :=
  List.filterMap_append

theorem after_append (c : Collector) (uses later : List Use) :
    c.after (uses ++ later) = (c.after uses).after later :=
  List.foldl_append

theorem outcome_take_single (c : Single) :
    ((single c).perform .take).outcome = c.take.outcome.map .value := rfl

/-- **The first value is that of the one chunk.**  Where no value has been handed over yet, taking it
gives one just if exactly one chunk was delivered, and then the text of that chunk.  But if the chunk
is no text then it is an empty one. -/
theorem first_value (uses : List Use) (hfirst : (single .empty).values uses = []) (s : String) :
    (((single .empty).after uses).perform .take).outcome = .ok (.value s) ↔
      ∃ piece, piecesOf uses = [piece] ∧
        (Text.Utf8.decode piece = .ok s ∨ (s = "" ∧ ∃ m, Text.Utf8.decode piece = .error m)) := by
  obtain ⟨c, hc, haccount⟩ := account_after uses
  rw [hfirst] at haccount
  rw [hc, outcome_take_single]
  rcases haccount.outcome_take with ⟨hpieces, htake⟩ | ⟨piece, hpieces, htake⟩ | ⟨hpieces, htake⟩
  · rw [htake, hpieces]
    exact iff_of_false nofun nofun
  · rw [hpieces] at haccount
    rw [htake, hpieces, haccount.value_eq]
    constructor
    · intro h
      cases h
      exact ⟨piece, rfl, textOrEmpty_eq_iff.1 rfl⟩
    · rintro ⟨other, hother, hs⟩
      cases hother
      rw [textOrEmpty_eq_iff.2 hs]
      rfl
  · rw [htake]
    refine iff_of_false nofun ?_
    rintro ⟨piece, hpiece, -⟩
    rw [hpiece] at hpieces
    exact absurd hpieces (Nat.not_le.2 Nat.one_lt_two)

/-- A native producer delivers an accented letter after somebody has asked too early; and one that
delivers a broken letter is not heard of. -/
theorem first_value_after_early_take :
    let letter : List Use := [.take, .nativeCallback (.reference [0xc3, 0xa9, 0x62] 2)]
    let broken : List Use := [.nativeCallback (.reference [0xc3, 0xa9, 0x62] 1)]
    (single .empty).values letter = [] ∧ (single .empty).values broken = [] ∧
    (((single .empty).after letter).perform .take).outcome = .ok (.value "é") ∧
    (((single .empty).after broken).perform .take).outcome = .ok (.value "") := by
  intro letter broken
  have hletter : (single .empty).values letter = [] := rfl
  have hbroken : (single .empty).values broken = [] := rfl
  exact ⟨hletter, hbroken, (first_value letter hletter "é").2 ⟨[0xc3, 0xa9], rfl, .inl rfl⟩,
    (first_value broken hbroken "").2 ⟨[0xc3], rfl, .inr ⟨rfl, _, rfl⟩⟩⟩

/-- A chunk that is no text is lost without a trace: the native producer does not get to know the
fault, and whoever takes the value is given an empty text. -/
theorem take_loses_malformed_chunk :
    let uses : List Use := [.nativeCallback (.reference [0xff] 1)]
    piecesOf uses = [[0xff]] ∧
    Text.Utf8.decode [0xff] = .error ⟨0xff, 0, 1, .invalidStart⟩ ∧
    (single .empty).values uses = [] ∧
    (((single .empty).after uses).perform .take).outcome = .ok (.value "") ∧
    ¬ ∀ (uses : List Use) (s : String), (single .empty).values uses = [] →
      (((single .empty).after uses).perform .take).outcome = .ok (.value s) →
      ∃ piece, piecesOf uses = [piece] ∧ Text.Utf8.decode piece = .ok s := by
  intro uses
  refine ⟨rfl, rfl, rfl, rfl, fun hclaim => ?_⟩
  obtain ⟨piece, hpiece, hdecode⟩ := hclaim uses "" rfl rfl
  cases hpiece
  cases hdecode

/-- **A collector demands exactly one chunk**, however chunks are delivered and values taken.

* Taking the value gives one if exactly one chunk was delivered so far, and otherwise is a violation.
* Once a second chunk has come it is for ever the violation that tells so.
* Each callback after the first is this violation, and leaves the value and the note that the first
  has come as they are.  For a native producer it is the same, only that the violation is dropped. -/
theorem demands_one_chunk (uses : List Use) :
    let c := (single .empty).after uses
    ((∃ e, (c.perform .take).outcome = .error e ∧ e.kind = .contractViolation) ↔
      (piecesOf uses).length ≠ 1) ∧
    ((piecesOf uses).length = 1 → ∃ s, (c.perform .take).outcome = .ok (.value s)) ∧
    (2 ≤ (piecesOf uses).length → ∀ later : List Use,
      ((c.after later).perform .take).outcome = .error (.violation .calledAgain)) ∧
    (1 ≤ (piecesOf uses).length → ∀ chunk piece, Chunk.toBytes chunk = .ok piece →
      ∃ d : Single, c = single d ∧
        c.callback chunk = .violation (single { d with violated := true }) .calledAgain ∧
        (c.nativeCallback chunk).state = single { d with violated := true } ∧
        (c.nativeCallback chunk).outcome = .ok [.violation .calledAgain]) := by
  intro c
  obtain ⟨d, hd, haccount⟩ := account_after uses
  have hc : c = single d := hd
  refine ⟨?_, fun hone => ?_, fun htwo later => ?_, fun hone chunk piece hchunk => ?_⟩
  · rw [hc, outcome_take_single]
    rcases haccount.outcome_take with ⟨hpieces, htake⟩ | ⟨piece, hpieces, htake⟩ | ⟨hpieces, htake⟩
    · rw [htake, hpieces]
      exact iff_of_true ⟨_, rfl, rfl⟩ Nat.zero_ne_one
    · rw [htake, hpieces]
      exact iff_of_false nofun (fun h => h rfl)
    · rw [htake]
      exact iff_of_true ⟨_, rfl, rfl⟩ (by omega)
  · rw [hc, outcome_take_single]
    rcases haccount.outcome_take with ⟨hpieces, -⟩ | ⟨piece, -, htake⟩ | ⟨hpieces, -⟩
    · rw [hpieces] at hone
      cases hone
    · exact ⟨d.value, by rw [htake]; rfl⟩
    · omega
  · -- the pieces so far are among those of the longer run
    obtain ⟨e, he, hlater⟩ := account_after (uses ++ later)
    have hmore : 2 ≤ (piecesOf (uses ++ later)).length := by
      rw [piecesOf_append, List.length_append]
      omega
    rw [← after_append, he, outcome_take_single]
    rcases hlater.outcome_take with ⟨hpieces, -⟩ | ⟨piece, hpieces, -⟩ | ⟨-, htake⟩
    · rw [hpieces] at hmore
      cases hmore
    · rw [hpieces] at hmore
      exact absurd hmore (Nat.not_le.2 Nat.one_lt_two)
    · rw [htake]
      rfl
  · have hinvoked : d.invoked = true := haccount.invoked (List.ne_nil_of_length_pos hone)
    have hcallback : (single d).callback chunk =
        .violation (single { d with violated := true }) .calledAgain := by
      rw [callback_of_toBytes hchunk, onChunk, Single.onChunk_of_invoked hinvoked]
      rfl
    refine ⟨d, hc, hc ▸ hcallback, ?_, ?_⟩
    · rw [hc, state_nativeCallback, hcallback]
      rfl
    · rw [hc, nativeCallback, hcallback]
      rfl

/-- The one chunk is taken twice, and then a native producer calls back again with what is no text. -/
theorem demands_one_chunk_after_taking :
    let taken : List Use := [.callback (.bytes [0x61]), .take, .take]
    let again : List Use := taken ++ [.nativeCallback (.reference [0xff] 1)]
    (piecesOf taken).length = 1 ∧ (piecesOf again).length = 2 ∧
    (single .empty).values taken = ["a", ""] ∧
    (∃ s, (((single .empty).after taken).perform .take).outcome = .ok (.value s)) ∧
    (((single .empty).after again).callback (.bytes [0x62])).outcome =
      .error (.violation .calledAgain) ∧
    ((((single .empty).after again).after [.take]).perform .take).outcome =
      .error (.violation .calledAgain) := by
  intro taken again
  obtain ⟨-, hvalue, -, -⟩ := demands_one_chunk taken
  obtain ⟨-, -, hforever, hcallback⟩ := demands_one_chunk again
  obtain ⟨d, -, hviolation, -⟩ := hcallback (by decide) (.bytes [0x62]) [0x62] rfl
  exact ⟨rfl, rfl, rfl, hvalue rfl, congrArg Reply.outcome hviolation, hforever (by decide) [.take]⟩

end Collector
end Strided
