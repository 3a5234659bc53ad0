import Strided.Proofs.Collector.Agreement

/-!
# One write for each chunk

A forwarding collector writes to a sink of which nothing is known: what a write does, and whether it
fails, may depend on everything that was written before.  To see which writes there are, the sink is
replaced by one that notes each call, `noting`, and else does the same.

`Conduit.callback_eq` says all that a callback can do.  Either there is nothing to write, because the
chunk comes to no bytes or is no text, and then nothing happens; or there is one call of the write,
with the lock held, and what comes of it is what comes of the callback.  So every callback leaves the
lock as it was, and by induction a whole run calls the write once for each chunk that can be written,
in order, whatever failed before (`Conduit.forwards_each_chunk_once`).
-/

namespace Strided

/-- A call of the write of a sink: what was to be written, and whether the lock was held. -/
structure Attempt where
  data : Written
  held : Bool
  deriving DecidableEq, Repr

section Runs

variable {σ : Type} (write : σ → Lock → Written → Reply σ Unit)

/-- Notes each call of a write, also of one that fails. -/
def noting (s : σ × List Attempt) (lock : Lock) (data : Written) : Reply (σ × List Attempt) Unit :=
  (write s.1 lock data).mapState fun t => (t, s.2 ++ [⟨data, lock.held⟩])

namespace Conduit

def callback (c : Conduit σ) (chunk : Chunk) : Reply (Conduit σ) Unit :=
  match chunk.toBytes with
  | .ok b => c.onChunk write b
  | .error e => .fault c e

/-- Calls back with several chunks.  The producer carries on after a fault. -/
def collect (c : Conduit σ) : List Chunk → Conduit σ
  | [] => c
  | chunk :: rest => collect (c.callback write chunk).state rest

def withSink {τ : Type} (c : Conduit σ) (sink : τ) : Conduit τ := ⟨c.binary, c.lock, sink⟩

/-- What a chunk is to be written as. -/
def dataOf (c : Conduit σ) (chunk : Chunk) : Except Fault Written := chunk.toBytes >>= c.prepare

theorem dataOf_congr {τ : Type} {c : Conduit σ} {d : Conduit τ} (h : d.binary = c.binary)
    (chunk : Chunk) : d.dataOf chunk = c.dataOf chunk := by
  have hprepare : d.prepare = c.prepare := by
    funext b
    rw [prepare, prepare, h]
  rw [dataOf, dataOf, hprepare]

/-! ### One chunk -/

/-- **What a callback does**: nothing, or one write with the lock held. -/
theorem callback_eq (c : Conduit σ) (chunk : Chunk) :
    c.callback write chunk =
      match c.dataOf chunk with
      | .ok data => (write c.sink c.lock.acquire data).mapState c.withSink
      | .error e => .fault c e := by
  rw [callback, dataOf]
  cases chunk.toBytes with
  | error e => rfl
  | ok piece =>
    change c.onChunk write piece = match c.prepare piece with
      | .ok data => _
      | .error e => _
    cases hp : c.prepare piece with
    | ok data => exact onChunk_of_prepare write hp
    | error e => exact onChunk_of_error write hp

/-- After a callback the lock is held as it was before, and the mode is the same. -/
theorem callback_keeps (c : Conduit σ) (chunk : Chunk) :
    (c.callback write chunk).state.lock = c.lock ∧
      (c.callback write chunk).state.binary = c.binary := by
  rw [callback_eq]
  cases c.dataOf chunk with
  | ok data => exact ⟨rfl, rfl⟩
  | error e => exact ⟨rfl, rfl⟩

/-- A chunk comes to no data because it comes to no bytes, or because texts are written and it is
none. -/
theorem dataOf_eq_error_iff {c : Conduit σ} {chunk : Chunk} {e : Fault} :
    c.dataOf chunk = .error e ↔ chunk.toBytes = .error e ∨
      ∃ piece m, chunk.toBytes = .ok piece ∧ c.binary = false ∧
        Text.Utf8.decode piece = .error m ∧ e = .malformedText m := by
  rw [dataOf]
  cases chunk.toBytes with
  | error f =>
    constructor
    · intro h
      cases h
      exact .inl rfl
    · rintro (h | ⟨piece, m, h, -⟩) <;> cases h
      rfl
  | ok piece =>
    change c.prepare piece = .error e ↔ _
    cases hbinary : c.binary with
    | true =>
      rw [prepare_of_binary hbinary]
      simp
    | false =>
      rw [prepare_of_text hbinary, decodeChunk]
      cases hm : Text.Utf8.decode piece with
      | ok s =>
        constructor
        · intro h
          cases h
        · rintro (h | ⟨piece', m, h, -, hm', -⟩) <;> cases h
          cases hm.symm.trans hm'
      | error m =>
        constructor
        · intro h
          cases h
          exact .inr ⟨piece, m, rfl, rfl, hm, rfl⟩
        · rintro (h | ⟨piece', m', h, -, hm', rfl⟩) <;> cases h
          cases hm.symm.trans hm'
          rfl

theorem outcome_callback_eq_error_iff {c : Conduit σ} {chunk : Chunk} {e : Fault} :
    (c.callback write chunk).outcome = .error e ↔ c.dataOf chunk = .error e ∨
      ∃ data, c.dataOf chunk = .ok data ∧
        (write c.sink c.lock.acquire data).outcome = .error e := by
  rw [callback_eq]
  cases c.dataOf chunk with
  | ok data =>
    constructor
    · intro h
      exact .inr ⟨data, rfl, h⟩
    · rintro (h | ⟨data', h, hwrite⟩)
      · cases h
      · cases h
        exact hwrite
  | error f =>
    constructor
    · intro h
      cases h
      exact .inl rfl
    · rintro (h | ⟨data', h, -⟩) <;> cases h
      rfl

/-! ### A run of chunks -/

theorem collect_keeps (c : Conduit σ) (chunks : List Chunk) :
    (c.collect write chunks).lock = c.lock ∧ (c.collect write chunks).binary = c.binary := by
  induction chunks generalizing c with
  | nil => exact ⟨rfl, rfl⟩
  | cons chunk rest ih =>
    obtain ⟨hlock, hbinary⟩ := c.callback_keeps write chunk
    obtain ⟨hlock', hbinary'⟩ := ih (c.callback write chunk).state
    exact ⟨hlock'.trans hlock, hbinary'.trans hbinary⟩

/-- Noting the calls changes nothing else. -/
theorem collect_noting_withSink (c : Conduit (σ × List Attempt)) (chunks : List Chunk) :
    let d := c.collect (noting write) chunks
    d.withSink d.sink.1 = (c.withSink c.sink.1).collect write chunks := by
  induction chunks generalizing c with
  | nil => rfl
  | cons chunk rest ih =>
    have hcallback : ((c.withSink c.sink.1).callback write chunk).state =
        let d := (c.callback (noting write) chunk).state
        d.withSink d.sink.1 := by
      have hdata : (c.withSink c.sink.1).dataOf chunk = c.dataOf chunk := rfl
      rw [callback_eq, callback_eq, hdata]
      cases c.dataOf chunk <;> rfl
    rw [collect, collect, hcallback]
    exact ih _

/-- **Each chunk is one call**, if it can be written, with the lock held. -/
theorem collect_noting_calls (c : Conduit (σ × List Attempt)) (chunks : List Chunk) :
    (c.collect (noting write) chunks).sink.2 =
      c.sink.2 ++ (chunks.filterMap fun chunk => (c.dataOf chunk).toOption).map (⟨·, true⟩) := by
  induction chunks generalizing c with
  | nil => simp [collect]
  | cons chunk rest ih =>
    have hbinary := (c.callback_keeps (noting write) chunk).2
    rw [collect, ih]
    simp only [dataOf_congr hbinary]
    rw [callback_eq]
    cases hc : c.dataOf chunk with
    | error e => rw [List.filterMap_cons_none (by rw [hc]; rfl)]; rfl
    | ok data =>
      rw [List.filterMap_cons_some (by rw [hc]; rfl), List.map_cons]
      exact List.append_assoc ..

/-- **Each chunk is forwarded once, under the lock, which is released on every path.**  Take chunks
of any number, and a sink that may fail at any write; the producer carries on after a fault.  Let all
calls of the write be noted, which changes nothing else.

* When bytes are written, the calls are the pieces of bytes that the chunks come to, one call for
  each, in order; when texts are, they are the texts among these pieces.  The lock is held at each.
* After each callback the lock is held as it was before, which is as it was before the run.
* A callback fails just if its chunk comes to no bytes, if it should be a text and is none, or if the
  write fails; and it fails with that fault. -/
theorem forwards_each_chunk_once (c : Conduit σ) (chunks : List Chunk) :
    let pieces := chunks.filterMap fun chunk => chunk.toBytes.toOption
    let noted := (c.withSink (c.sink, [])).collect (noting write) chunks
    noted.withSink noted.sink.1 = c.collect write chunks ∧
    (c.binary = true → noted.sink.2 = pieces.map fun piece => ⟨.bytes piece, true⟩) ∧
    (c.binary = false → noted.sink.2 = (textsOf pieces).map fun s => ⟨.text s, true⟩) ∧
    ∀ before chunk,
      let d := c.collect write before
      let r := d.callback write chunk
      d.lock = c.lock ∧ r.state.lock = d.lock ∧
      ∀ e, r.outcome = .error e ↔ chunk.toBytes = .error e ∨
        (∃ piece m, chunk.toBytes = .ok piece ∧ c.binary = false ∧
          Text.Utf8.decode piece = .error m ∧ e = .malformedText m) ∨
        ∃ data, c.dataOf chunk = .ok data ∧
          (write d.sink d.lock.acquire data).outcome = .error e := by
  intro pieces noted
  have hcalls : noted.sink.2 =
      (chunks.filterMap fun chunk => (c.dataOf chunk).toOption).map (⟨·, true⟩) :=
    (collect_noting_calls write (c.withSink (c.sink, [])) chunks).trans (List.nil_append _)
  have hpieces : (chunks.filterMap fun chunk => (c.dataOf chunk).toOption) =
      pieces.filterMap fun piece => (c.prepare piece).toOption := by
    rw [List.filterMap_filterMap]
    refine List.filterMap_congr fun chunk _ => ?_
    rw [dataOf]
    cases chunk.toBytes <;> rfl
  refine ⟨collect_noting_withSink write (c.withSink (c.sink, [])) chunks, ?_, ?_, ?_⟩
  · intro hbinary
    rw [hcalls, hpieces, c.filterMap_prepare_of_binary hbinary, List.map_map]
    rfl
  · intro hbinary
    rw [hcalls, hpieces, c.filterMap_prepare_of_text hbinary, List.map_map]
    rfl
  · intro before chunk d r
    obtain ⟨hlock, hbinary⟩ := c.collect_keeps write before
    refine ⟨hlock, (d.callback_keeps write chunk).1, ?_⟩
    intro e
    rw [outcome_callback_eq_error_iff, dataOf_congr hbinary, dataOf_eq_error_iff, or_assoc]

end Conduit

end Runs

/-- A sink whose second write fails, called back under a lock that its caller holds already.  The
second chunk is no text, so the write that fails is the one of the third. -/
example :
    let write (n : Nat) (_ : Lock) (_ : Written) : Reply Nat Unit :=
      if n = 1 then .fault (n + 1) .diskFull else .ok (n + 1) ()
    let chunks : List Chunk := [.bytes [0x61], .bytes [0xc3], .bytes [0x62], .bytes [0x63]]
    let c := (Conduit.mk false ⟨1⟩ (0, [])).collect (noting write) chunks
    c.lock = ⟨1⟩ ∧ c.sink.2 = [⟨.text "a", true⟩, ⟨.text "b", true⟩, ⟨.text "c", true⟩] := by
  exact ⟨rfl, rfl⟩

/-! ### Collectors that forward to a sink -/

theorem Forwarding.conduit_withConduit {c : Forwarding} {d : Conduit Sink}
    (h : d.binary = c.binary) : (c.withConduit d).conduit = d := by
  obtain ⟨binary, lock, sink⟩ := d
  cases h
  rfl

namespace Collector

/-- **A forwarding collector does with a chunk what its conduit does**, and with the same outcome. -/
theorem callback_forwarding (c : Forwarding) (chunk : Chunk) :
    (forwarding c).callback chunk =
      (c.conduit.callback Sink.write chunk).mapState fun d => forwarding (c.withConduit d) := by
  rw [callback, Conduit.callback]
  cases chunk.toBytes with
  | ok piece => rfl
  | error e => rfl

theorem outcome_callback_forwarding (c : Forwarding) (chunk : Chunk) :
    ((forwarding c).callback chunk).outcome = (c.conduit.callback Sink.write chunk).outcome := by
  rw [callback_forwarding]
  rfl

theorem collect_eq_conduit (c : Forwarding) (chunks : List Chunk) :
    (forwarding c).collect chunks =
      forwarding (c.withConduit (c.conduit.collect Sink.write chunks)) := by
  induction chunks generalizing c with
  | nil => rfl
  | cons chunk rest ih =>
    have hconduit := Forwarding.conduit_withConduit (c := c)
      (c.conduit.callback_keeps Sink.write chunk).2
    have hstate : ((forwarding c).callback chunk).state =
        forwarding (c.withConduit (c.conduit.callback Sink.write chunk).state) := by
      rw [callback_forwarding]
      rfl
    rw [collect, hstate, ih, hconduit]
    rfl

end Collector

end Strided
