import Strided.CommandLine.Run
import Strided.Proofs.Collector.Agreement
import Strided.Proofs.ArrayFormat
import Strided.Proofs.Text.Decimal
import Strided.Proofs.View.Contents

/-!
# What is written to the output

What a subscript has picked is handed over element by element, while the view is gone through.
Wherever all of its elements can be read and written, this is handing over a list of chunks
(`emit_eq`).  The elements of an array that is not one of objects can all be written, as text or as
bytes (`exists_elementChunk`), and the output takes their chunks without a fault (`writeOut_text`,
`writeOut_binary`).
-/

namespace Strided

/-- A position that is read is read without a record. -/
theorem View.records_readAt {α : Type} {checks : Bool} {v : View α} {p : Nat} {a : α}
    (h : (v.readAt checks p).outcome = .ok a) : (v.readAt checks p).records = [] := by
  rcases linearize_cases checks v p with ⟨hlinear, -⟩ | hlinear | ⟨e, -, hlinear⟩
  · rw [readAt, hlinear, Traced.pure_bind]
    rfl
  · rw [readAt, hlinear, Probe.violate_bind] at h
    exact absurd h (Probe.outcome_violate_ne_ok _ a)
  · rw [readAt, hlinear, Traced.fail_bind] at h
    cases h

namespace Reply

variable {σ α β : Type}

/-- What has been read without a record is as good as given. -/
theorem ofProbe_bind {x : Probe α} {a : α} (hrecords : x.records = []) (ha : x.outcome = .ok a)
    (s : σ) (f : σ → α → Reply σ β) : (ofProbe s x).bind f = f s a := by
  rw [bind_of_ok (show (ofProbe s x).outcome = .ok a from ha)]
  change (⟨_, x.records ++ _, _⟩ : Reply σ β) = _
  rw [hrecords, List.nil_append]
  rfl

theorem bind_ok (r : Reply σ Unit) : (r.bind fun s _ => .ok s ()) = r := by
  obtain ⟨s, log, outcome⟩ := r
  cases outcome with
  | ok => simp only [bind, ok, List.append_nil]
  | error e => rfl

end Reply

namespace CommandLine

/-! ### Emission as a list of chunks -/

def elementsOf (checks : Bool) : Selected Value → Probe (List Value)
  | .element a => pure [a]
  | .view v => v.iterate checks

def chunksOf (checks : Bool) (type : ElementType) (binary : Bool) (selected : Selected Value) :
    Probe (List (List UInt8)) := do
  let elements ← elementsOf checks selected
  .ofExcept (elements.mapM (elementChunk type binary))

theorem outcome_elementsOf {checks : Bool} {v : View Value} {xs : List Value} (h : v.Shows xs) :
    (elementsOf checks (.view v)).outcome = .ok xs := by
  rw [elementsOf, h.iterate]

theorem outcome_chunksOf {checks : Bool} {type : ElementType} {binary : Bool}
    {result : Selected Value} {xs : List Value} (h : (elementsOf checks result).outcome = .ok xs) :
    (chunksOf checks type binary result).outcome = xs.mapM (elementChunk type binary) := by
  rw [chunksOf, Traced.bind_of_ok h]
  rfl

section Emission

variable {σ : Type} (call : σ → List UInt8 → Reply σ Unit)

/-- Hands over chunks one by one, until one is not taken. -/
def handAll : σ → List (List UInt8) → Reply σ Unit
  | s, [] => .ok s ()
  | s, chunk :: rest => (call s chunk).bind fun s _ => handAll s rest

variable {checks : Bool} {type : ElementType} {binary : Bool}

theorem emitElement_of_chunk {a : Value} {chunk : List UInt8}
    (h : elementChunk type binary a = .ok chunk) (s : σ) :
    emitElement call type binary s a = call s chunk := by
  rw [emitElement, h]

/-- Going through a view, element by element, is handing over the chunks of its elements. -/
theorem emitFrom_eq {v : View Value} {n p : Nat} {xs : List Value} {chunks : List (List UInt8)}
    (hxs : (v.takeFrom checks n p).outcome = .ok xs)
    (hchunks : xs.mapM (elementChunk type binary) = .ok chunks) (s : σ) :
    emitFrom call checks type binary v n p s = handAll call s chunks := by
  induction n generalizing p xs chunks s with
  | zero =>
    cases hxs
    cases hchunks
    rfl
  | succ n ih =>
    by_cases hp : p < v.size
    · rw [View.takeFrom, View.itemAt_of_lt checks hp, bind_map_left, Traced.outcome_bind] at hxs
      obtain ⟨a, ha, hxs⟩ := exists_of_bind_eq_ok hxs
      rw [Traced.outcome_bind] at hxs
      obtain ⟨rest, hrest, hxs⟩ := exists_of_bind_eq_ok hxs
      cases hxs
      rw [List.mapM_cons] at hchunks
      obtain ⟨chunk, hchunk, hchunks⟩ := exists_of_bind_eq_ok hchunks
      obtain ⟨others, hothers, hchunks⟩ := exists_of_bind_eq_ok hchunks
      cases hchunks
      have hitem : (v.itemAt checks p).records = [] ∧
          (v.itemAt checks p).outcome = .ok (.ok a) := by
        rw [View.itemAt_of_lt checks hp, Probe.records, Traced.events_map, Traced.outcome_map, ha]
        exact ⟨View.records_readAt ha, rfl⟩
      rw [emitFrom, Reply.ofProbe_bind hitem.1 hitem.2]
      dsimp only
      rw [emitElement_of_chunk call hchunk, handAll]
      exact congrArg (call s chunk).bind (funext fun t => funext fun _ => ih hrest hothers t)
    · -- Here the loop is told that there is no element.
      have hitem := View.itemAt_of_size_le checks (Nat.le_of_not_lt hp)
      rw [View.takeFrom, hitem, pure_bind] at hxs
      cases hxs
      cases hchunks
      rw [emitFrom, hitem]
      rfl

/-- **Emission is handing over the chunks**, one for each element, in order, until one is not
taken. -/
theorem emit_eq {result : Selected Value} {chunks : List (List UInt8)}
    (h : (chunksOf checks type binary result).outcome = .ok chunks) (s : σ) :
    emit call checks type binary s result = handAll call s chunks := by
  rw [chunksOf, Traced.outcome_bind] at h
  obtain ⟨xs, hxs, hchunks⟩ := exists_of_bind_eq_ok h
  cases result with
  | view v => exact emitFrom_eq call hxs hchunks s
  | element a =>
    cases hxs
    change [a].mapM (elementChunk type binary) = .ok chunks at hchunks
    rw [List.mapM_cons] at hchunks
    obtain ⟨chunk, hchunk, hchunks⟩ := exists_of_bind_eq_ok hchunks
    cases hchunks
    rw [emit, emitElement_of_chunk call hchunk, handAll]
    exact (Reply.bind_ok _).symm

end Emission

/-! ### Forwarding to the output -/

/-- What comes out if chunks are handed to the output. -/
def writeOut (binary : Bool) (chunks : List (List UInt8)) : List UInt8 × Except Fault Unit :=
  let r := handAll Forwarding.onChunk (outputCollector binary) chunks
  (r.state.sink.writes.flatMap Written.octets, r.outcome)

theorem handAll_of_prepare {c : Forwarding} (hc : c.Open) {chunks : List (List UInt8)}
    {data : List Written} (h : List.Forall₂ (fun chunk d => c.prepare chunk = .ok d) chunks data) :
    (handAll Forwarding.onChunk c chunks).outcome = .ok () ∧
      (handAll Forwarding.onChunk c chunks).state.sink.writes = c.sink.writes ++ data := by
  induction chunks generalizing c data with
  | nil =>
    cases h
    exact ⟨rfl, (List.append_nil _).symm⟩
  | cons chunk chunks ih =>
    cases h with
    | @cons _ d _ data hd hrest =>
      -- Whether a chunk can be written depends on nothing that a write changes.
      obtain ⟨houtcome, hwrites⟩ := ih (c := { c with sink := { c.sink with
        writes := c.sink.writes ++ [d], held := c.sink.held ++ [true] } })
        ⟨hc.unlimited, hc.suitable⟩ hrest
      rw [handAll, Forwarding.onChunk_of_prepare hc hd, Reply.bind_of_ok rfl]
      exact ⟨houtcome, hwrites.trans (by rw [List.append_assoc, List.singleton_append])⟩

theorem open_outputCollector (binary : Bool) : (outputCollector binary).Open where
  unlimited := rfl
  suitable := by cases binary <;> decide

theorem flatMap_octets_texts (texts : List String) :
    (texts.map Written.text).flatMap Written.octets = Text.Utf8.encode (String.join texts) := by
  induction texts with
  | nil => rfl
  | cons s rest ih =>
    rw [List.map_cons, List.flatMap_cons, ih, String.join_cons, Text.Utf8.encode_append]
    rfl

theorem writeOut_text (texts : List String) :
    writeOut false (texts.map Text.Utf8.encode) =
      (Text.Utf8.encode (String.join texts), .ok ()) := by
  have hprepared : List.Forall₂ (fun chunk d => (outputCollector false).prepare chunk = .ok d)
      (texts.map Text.Utf8.encode) (texts.map Written.text) := by
    rw [List.forall₂_map_left_iff, List.forall₂_map_right_iff, List.forall₂_same]
    intro s _
    rw [Forwarding.prepare_of_text rfl, decodeChunk, Text.Utf8.decode_encode]
    rfl
  obtain ⟨houtcome, hwrites⟩ := handAll_of_prepare (open_outputCollector false) hprepared
  rw [writeOut, houtcome, hwrites, ← flatMap_octets_texts]
  rfl

theorem writeOut_binary (chunks : List (List UInt8)) :
    writeOut true chunks = (chunks.flatten, .ok ()) := by
  have hprepared : List.Forall₂ (fun chunk d => (outputCollector true).prepare chunk = .ok d)
      chunks (chunks.map Written.bytes) := by
    rw [List.forall₂_map_right_iff, List.forall₂_same]
    exact fun chunk _ => Forwarding.prepare_of_binary rfl chunk
  obtain ⟨houtcome, hwrites⟩ := handAll_of_prepare (open_outputCollector true) hprepared
  have hoctets : (chunks.map Written.bytes).flatMap Written.octets = chunks.flatten := by
    rw [List.flatMap_map, ← List.flatMap_id]
    rfl
  rw [writeOut, houtcome, hwrites, ← hoctets]
  rfl

/-! ### Elements that can be written -/

theorem exists_plain {type : ElementType} (hsized : type.isSized = true) (htype : type ≠ .object)
    {e : Element Value} (h : e.BelongsTo type) : ∃ s, (TypedArray.valueOf e).plain = .ok s := by
  cases type with
  | int width signed order =>
    obtain ⟨n, rfl, hn⟩ := h
    exact ⟨toString n, Value.plain_int (ElementType.isWritable_of_holds hsized hn)⟩
  | object => exact absurd rfl htype
  | _ =>
    obtain ⟨x, rfl⟩ := h
    exact ⟨_, rfl⟩

theorem store_valueOf {type : ElementType} (hsized : type.isSized = true)
    (hintegral : type.isIntegral = true) {e : Element Value} (h : e.BelongsTo type) :
    (TypedArray.valueOf e).store type = .ok e := by
  cases type with
  | bool =>
    obtain ⟨b, rfl⟩ := h
    rfl
  | int width signed order =>
    obtain ⟨n, rfl, hn⟩ := h
    change Value.storeWhole width signed n = _
    rw [Value.storeWhole, Value.fitsWord_of_holds hsized hn, hn]
    rfl
  | _ => cases hintegral

theorem exists_store {type : ElementType} (hsized : type.isSized = true) (htype : type ≠ .object)
    {e : Element Value} (h : e.BelongsTo type) :
    ∃ f, (TypedArray.valueOf e).store type = .ok f := by
  cases type with
  | int => exact ⟨e, store_valueOf hsized rfl h⟩
  | object => exact absurd rfl htype
  | _ =>
    obtain ⟨x, rfl⟩ := h
    exact ⟨_, rfl⟩

theorem exists_elementChunk {type : ElementType} (hsized : type.isSized = true)
    (htype : type ≠ .object) (binary : Bool) {e : Element Value} (h : e.BelongsTo type) :
    ∃ chunk, elementChunk type binary (TypedArray.valueOf e) = .ok chunk := by
  cases binary with
  | true =>
    obtain ⟨f, hf⟩ := exists_store hsized htype h
    exact ⟨_, by rw [elementChunk, if_pos rfl, hf]; rfl⟩
  | false =>
    obtain ⟨s, hs⟩ := exists_plain hsized htype h
    exact ⟨_, by rw [elementChunk, if_neg Bool.false_ne_true, hs]; rfl⟩

theorem exists_writeOut {type : ElementType} {binary : Bool} {elements : List Value}
    {chunks : List (List UInt8)} (h : elements.mapM (elementChunk type binary) = .ok chunks) :
    ∃ output, writeOut binary chunks = (output, .ok ()) := by
  cases binary with
  | true => exact ⟨_, writeOut_binary chunks⟩
  | false =>
    have htexts : ∃ texts : List String, chunks = texts.map Text.Utf8.encode := by
      rw [mapM_eq_ok_iff] at h
      induction h with
      | nil => exact ⟨[], rfl⟩
      | cons hchunk _ ih =>
        obtain ⟨texts, rfl⟩ := ih
        obtain ⟨s, -, rfl⟩ := map_eq_ok_iff.1 hchunk
        exact ⟨(s ++ "\n") :: texts, rfl⟩
    obtain ⟨texts, rfl⟩ := htexts
    exact ⟨_, writeOut_text texts⟩

/-! ### Lines of integers -/

theorem elementChunk_int {type : ElementType} {n : Int} (h : Text.isWritable n = true) :
    elementChunk type false (.int n) = .ok (Text.Utf8.encode (toString n ++ "\n")) := by
  rw [elementChunk, if_neg Bool.false_ne_true, Value.plain_int h]
  rfl

theorem writeOut_ints (type : ElementType) {ns : List Int}
    (h : ∀ n ∈ ns, Text.isWritable n = true) :
    ∃ chunks, (ns.map Value.int).mapM (elementChunk type false) = .ok chunks ∧
      writeOut false chunks = (Text.Utf8.encode (Text.decimalLines ns), .ok ()) := by
  refine ⟨(ns.map fun n => toString n ++ "\n").map Text.Utf8.encode, ?_, writeOut_text _⟩
  rw [mapM_eq_ok_iff, List.map_map, List.forall₂_map_left_iff, List.forall₂_map_right_iff,
    List.forall₂_same]
  exact fun n hn => elementChunk_int (h n hn)

end Strided.CommandLine
