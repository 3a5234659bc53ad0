import Strided.Collector.Basic
import Strided.Proofs.Text.Utf8

/-!
# Collectors of one producer

A joining collector keeps the texts of the chunks, a forwarding one writes them to a sink, as texts
or as bytes.  Given the same chunks they end up with the same text: `collectors_agree`.

What a run of chunks leaves behind is read off the pieces of bytes that the chunks come to.  One
chunk either leaves the state with one part more or, being no text, as it was (`onChunk_of_decode`,
`onChunk_of_prepare`), and by induction a whole run leaves the texts among the pieces, in order
(`collect_joining`, `collect_forwarding`).  That the texts put together are the text of the bytes put
together is `Text.Utf8.decode_flatten`.
-/

namespace Strided

/-- The chunks come to these pieces of bytes. -/
abbrev ChunksOf (pieces : List (List UInt8)) (chunks : List Chunk) : Prop :=
  List.Forall₂ (fun chunk piece => chunk.toBytes = .ok piece) chunks pieces

def textsOf (pieces : List (List UInt8)) : List String :=
  pieces.filterMap fun piece => (Text.Utf8.decode piece).toOption

namespace Written

def text? : Written → Option String
  | text s => some s
  | bytes _ => none

def bytes? : Written → Option (List UInt8)
  | text _ => none
  | bytes b => some b

end Written

namespace Sink

def textWritten (s : Sink) : String := String.join (s.writes.filterMap Written.text?)

def bytesWritten (s : Sink) : List UInt8 := (s.writes.filterMap Written.bytes?).flatten

end Sink

/-! ### One chunk -/

theorem Joining.onChunk_of_decode {c : Joining} {piece : List UInt8} {s : String}
    (h : Text.Utf8.decode piece = .ok s) : c.onChunk piece = .ok ⟨c.parts ++ [s]⟩ () := by
  rw [Joining.onChunk, decodeChunk, h]
  rfl

theorem Joining.onChunk_of_malformed {c : Joining} {piece : List UInt8} {m : Text.Utf8.Malformed}
    (h : Text.Utf8.decode piece = .error m) : c.onChunk piece = .fault c (.malformedText m) := by
  rw [Joining.onChunk, decodeChunk, h]
  rfl

namespace Conduit

variable {σ : Type} (write : σ → Lock → Written → Reply σ Unit) {c : Conduit σ} {piece : List UInt8}

theorem prepare_of_binary (h : c.binary = true) (piece : List UInt8) :
    c.prepare piece = .ok (.bytes piece) := if_pos h

theorem prepare_of_text (h : c.binary = false) (piece : List UInt8) :
    c.prepare piece = (decodeChunk piece).map .text := if_neg (by rw [h]; exact Bool.false_ne_true)

theorem filterMap_prepare_of_binary (h : c.binary = true) (pieces : List (List UInt8)) :
    (pieces.filterMap fun piece => (c.prepare piece).toOption) = pieces.map Written.bytes := by
  rw [← List.filterMap_eq_map]
  refine List.filterMap_congr fun piece _ => ?_
  rw [prepare_of_binary h]
  rfl

theorem filterMap_prepare_of_text (h : c.binary = false) (pieces : List (List UInt8)) :
    (pieces.filterMap fun piece => (c.prepare piece).toOption) =
      (textsOf pieces).map Written.text := by
  rw [textsOf, List.map_filterMap]
  refine List.filterMap_congr fun piece _ => ?_
  rw [prepare_of_text h, decodeChunk]
  cases Text.Utf8.decode piece <;> rfl

/-- What can be written is written under the lock, once. -/
theorem onChunk_of_prepare {data : Written} (h : c.prepare piece = .ok data) :
    c.onChunk write piece =
      (write c.sink c.lock.acquire data).mapState fun sink => { c with sink := sink } := by
  simp only [onChunk, h]
  rfl

theorem onChunk_of_error {e : Fault} (h : c.prepare piece = .error e) :
    c.onChunk write piece = .fault c e := by
  simp only [onChunk, h]
  rfl

end Conduit

namespace Forwarding

/-- The sink takes whatever the collector writes. -/
structure Open (c : Forwarding) : Prop where
  unlimited : c.sink.capacity = none
  suitable : c.sink.kind ≠ if c.binary then .text else .binary

theorem prepare_of_binary {c : Forwarding} (h : c.binary = true) (piece : List UInt8) :
    c.prepare piece = .ok (.bytes piece) := Conduit.prepare_of_binary h piece

theorem prepare_of_text {c : Forwarding} (h : c.binary = false) (piece : List UInt8) :
    c.prepare piece = (decodeChunk piece).map .text := Conduit.prepare_of_text h piece

theorem Open.refusal? {c : Forwarding} (hc : c.Open) {piece : List UInt8} {data : Written}
    (h : c.prepare piece = .ok data) : Sink.refusal? c.sink.kind data = none := by
  have hkind := hc.suitable
  cases hb : c.binary with
  | true =>
    rw [prepare_of_binary hb] at h
    cases h
    rw [if_pos hb] at hkind
    cases hk : c.sink.kind with
    | text => exact absurd hk hkind
    | _ => rfl
  | false =>
    rw [prepare_of_text hb] at h
    rw [if_neg (by simp [hb])] at hkind
    cases hd : decodeChunk piece with
    | error e =>
      rw [hd] at h
      cases h
    | ok s =>
      rw [hd] at h
      cases h
      cases hk : c.sink.kind with
      | binary => exact absurd hk hkind
      | _ => rfl

theorem onChunk_of_prepare {c : Forwarding} (hc : c.Open) {piece : List UInt8} {data : Written}
    (h : c.prepare piece = .ok data) :
    c.onChunk piece = .ok { c with sink := { c.sink with
      writes := c.sink.writes ++ [data], held := c.sink.held ++ [true] } } () := by
  have hwrite : c.sink.write c.lock.acquire data = .ok { c.sink with
      writes := c.sink.writes ++ [data], held := c.sink.held ++ [true] } () := by
    simp only [Sink.write, Sink.full, hc.unlimited, Option.any_none, Bool.false_eq_true, if_false,
      hc.refusal? h]
    rfl
  rw [onChunk, Conduit.onChunk_of_prepare Sink.write h]
  change (Reply.mapState _ (c.sink.write c.lock.acquire data)).mapState _ = _
  rw [hwrite]
  rfl

theorem onChunk_of_error {c : Forwarding} {piece : List UInt8} {e : Fault}
    (h : c.prepare piece = .error e) : c.onChunk piece = .fault c e := by
  rw [onChunk, Conduit.onChunk_of_error Sink.write h]
  rfl

end Forwarding

namespace Collector

theorem callback_of_toBytes {c : Collector} {chunk : Chunk} {piece : List UInt8}
    (h : chunk.toBytes = .ok piece) : c.callback chunk = c.onChunk piece := by
  rw [callback, h]

/-! ### A run of chunks -/

theorem collect_joining {pieces : List (List UInt8)} {chunks : List Chunk}
    (h : ChunksOf pieces chunks) (c : Joining) :
    (joining c).collect chunks = joining ⟨c.parts ++ textsOf pieces⟩ := by
  induction h generalizing c with
  | nil => rw [textsOf, List.filterMap_nil, List.append_nil, collect]
  | @cons chunk piece chunks pieces hchunk _ ih =>
    rw [collect, callback_of_toBytes hchunk, onChunk]
    cases hd : Text.Utf8.decode piece with
    | ok s =>
      have htexts : textsOf (piece :: pieces) = s :: textsOf pieces :=
        List.filterMap_cons_some (by rw [hd]; rfl)
      rw [Joining.onChunk_of_decode hd, htexts]
      exact (ih ⟨c.parts ++ [s]⟩).trans (by rw [List.append_assoc, List.singleton_append])
    | error m =>
      have htexts : textsOf (piece :: pieces) = textsOf pieces :=
        List.filterMap_cons_none (by rw [hd]; rfl)
      rw [Joining.onChunk_of_malformed hd, htexts]
      exact ih c

theorem collect_forwarding {pieces : List (List UInt8)} {chunks : List Chunk}
    (h : ChunksOf pieces chunks) {c : Forwarding} (hc : c.Open) :
    ∃ held, (forwarding c).collect chunks = forwarding { c with sink := { c.sink with
      writes := c.sink.writes ++ pieces.filterMap fun piece => (c.prepare piece).toOption
      held := held } } := by
  induction h generalizing c with
  | nil => exact ⟨c.sink.held, by rw [List.filterMap_nil, List.append_nil, collect]⟩
  | @cons chunk piece chunks pieces hchunk _ ih =>
    rw [collect, callback_of_toBytes hchunk, onChunk]
    cases hp : c.prepare piece with
    | ok data =>
      rw [Forwarding.onChunk_of_prepare hc hp, List.filterMap_cons_some (by rw [hp]; rfl)]
      obtain ⟨held, ih⟩ := ih (c := { c with sink := { c.sink with
        writes := c.sink.writes ++ [data], held := c.sink.held ++ [true] } })
        ⟨hc.unlimited, hc.suitable⟩
      refine ⟨held, ih.trans ?_⟩
      rw [List.append_assoc, List.singleton_append]
      rfl
    | error e =>
      rw [Forwarding.onChunk_of_error hp, List.filterMap_cons_none (by rw [hp]; rfl)]
      exact ih hc

theorem textsOf_of_valid {pieces : List (List UInt8)}
    (h : ∀ piece ∈ pieces, ∃ s, Text.Utf8.decode piece = .ok s) :
    List.Forall₂ (fun piece s => Text.Utf8.decode piece = .ok s) pieces (textsOf pieces) := by
  induction pieces with
  | nil => exact .nil
  | cons piece pieces ih =>
    obtain ⟨s, hs⟩ := h piece (List.mem_cons_self ..)
    rw [textsOf, List.filterMap_cons_some (by rw [hs]; rfl)]
    exact .cons hs (ih fun p hp => h p (List.mem_cons_of_mem piece hp))

theorem filterMap_text?_map (texts : List String) :
    (texts.map Written.text).filterMap Written.text? = texts := by
  rw [List.filterMap_map]
  exact List.filterMap_some

theorem filterMap_bytes?_map (pieces : List (List UInt8)) :
    (pieces.map Written.bytes).filterMap Written.bytes? = pieces := by
  rw [List.filterMap_map]
  exact List.filterMap_some

def sink? : Collector → Option Sink
  | forwarding c => some c.sink
  | _ => none

/-- Given the chunks, a joining collector, a collector that forwards texts and one that forwards
bytes all end up with the text. -/
structure EndWith (t b : Forwarding) (chunks : List Chunk) (s : String) : Prop where
  joined : ((joining .empty).collect chunks).join.outcome = .ok s
  text : ((forwarding t).collect chunks).sink?.map Sink.textWritten = some s
  bytes : ∃ octets, ((forwarding b).collect chunks).sink?.map Sink.bytesWritten = some octets ∧
    Text.Utf8.decode octets = .ok s

section Fresh

variable {t b : Forwarding} (ht : t.Open) (httext : t.binary = false) (htempty : t.sink.writes = [])
  (hb : b.Open) (hbbinary : b.binary = true) (hbempty : b.sink.writes = [])

include ht httext htempty

theorem writes_of_text {pieces : List (List UInt8)} {chunks : List Chunk}
    (h : ChunksOf pieces chunks) :
    ((forwarding t).collect chunks).sink?.map Sink.writes =
      some ((textsOf pieces).map Written.text) := by
  obtain ⟨held, hrun⟩ := collect_forwarding h ht
  rw [hrun]
  refine congrArg some ?_
  change t.sink.writes ++ _ = _
  rw [htempty, List.nil_append]
  exact t.conduit.filterMap_prepare_of_text httext pieces

omit ht httext htempty

include hb hbbinary hbempty

theorem writes_of_binary {pieces : List (List UInt8)} {chunks : List Chunk}
    (h : ChunksOf pieces chunks) :
    ((forwarding b).collect chunks).sink?.map Sink.writes = some (pieces.map Written.bytes) := by
  obtain ⟨held, hrun⟩ := collect_forwarding h hb
  rw [hrun]
  refine congrArg some ?_
  change b.sink.writes ++ _ = _
  rw [hbempty, List.nil_append]
  exact b.conduit.filterMap_prepare_of_binary hbbinary pieces

include ht httext htempty

/-- Pieces that are texts make all three collectors end with the text of all the bytes. -/
theorem endWith_of_valid {pieces : List (List UInt8)} {chunks : List Chunk}
    (h : ChunksOf pieces chunks) (hvalid : ∀ piece ∈ pieces, ∃ s, Text.Utf8.decode piece = .ok s) :
    ∃ s, pieces.flatten = Text.Utf8.encode s ∧ EndWith t b chunks s := by
  have hflatten := Text.Utf8.decode_flatten (textsOf_of_valid hvalid)
  refine ⟨_, Text.Utf8.decode_eq_ok_iff.1 hflatten, ?_, ?_, pieces.flatten, ?_, hflatten⟩
  · rw [collect_joining h]
    rfl
  · have hwrites := writes_of_text ht httext htempty h
    rw [Option.map_eq_some_iff] at hwrites ⊢
    obtain ⟨sink, hsink, hwrites⟩ := hwrites
    exact ⟨sink, hsink, by rw [Sink.textWritten, hwrites, filterMap_text?_map]⟩
  · have hwrites := writes_of_binary hb hbbinary hbempty h
    rw [Option.map_eq_some_iff] at hwrites ⊢
    obtain ⟨sink, hsink, hwrites⟩ := hwrites
    exact ⟨sink, hsink, by rw [Sink.bytesWritten, hwrites, filterMap_bytes?_map]⟩

/-- **Collectors of the same chunks agree.**  If every chunk is a text, joining them, forwarding them
as texts and forwarding their bytes all give the one text that is written as the bytes of all chunks,
so that another way of cutting the same bytes into texts changes nothing.  Whatever the chunks are, those
that are texts are joined and forwarded in order, and the bytes of all of them are; one that is no
text makes the callbacks of the first two collectors fail and leaves them as they were. -/
theorem collectors_agree {pieces : List (List UInt8)} {chunks : List Chunk}
    (h : ChunksOf pieces chunks) :
    ((∀ piece ∈ pieces, ∃ s, Text.Utf8.decode piece = .ok s) →
      ∃ s, pieces.flatten = Text.Utf8.encode s ∧ EndWith t b chunks s ∧
        ∀ pieces' chunks', ChunksOf pieces' chunks' → pieces'.flatten = pieces.flatten →
          (∀ piece ∈ pieces', ∃ s, Text.Utf8.decode piece = .ok s) → EndWith t b chunks' s) ∧
    (joining .empty).collect chunks = joining ⟨textsOf pieces⟩ ∧
    ((forwarding t).collect chunks).sink?.map Sink.writes =
      some ((textsOf pieces).map Written.text) ∧
    ((forwarding b).collect chunks).sink?.map Sink.writes = some (pieces.map Written.bytes) ∧
    ∀ chunk piece m, Chunk.toBytes chunk = .ok piece → Text.Utf8.decode piece = .error m →
      (∀ j : Joining, (joining j).callback chunk = .fault (joining j) (.malformedText m)) ∧
      ∀ f : Forwarding, f.binary = false →
        (forwarding f).callback chunk = .fault (forwarding f) (.malformedText m) := by
  refine ⟨fun hvalid => ?_, ?_, writes_of_text ht httext htempty h,
    writes_of_binary hb hbbinary hbempty h, fun chunk piece m hchunk hm => ⟨fun j => ?_, ?_⟩⟩
  · obtain ⟨s, hs, hends⟩ := endWith_of_valid ht httext htempty hb hbbinary hbempty h hvalid
    refine ⟨s, hs, hends, fun pieces' chunks' h' hflatten hvalid' => ?_⟩
    obtain ⟨s', hs', hends'⟩ := endWith_of_valid ht httext htempty hb hbbinary hbempty h' hvalid'
    have hdecode := Text.Utf8.decode_eq_ok_iff.2 (hflatten.symm.trans hs')
    rw [Text.Utf8.decode_eq_ok_iff.2 hs] at hdecode
    cases hdecode
    exact hends'
  · exact (collect_joining h .empty).trans (by rw [Joining.empty, List.nil_append])
  · rw [callback_of_toBytes hchunk, onChunk, Joining.onChunk_of_malformed hm]
    rfl
  · intro f hf
    have hprepare : f.prepare piece = .error (.malformedText m) := by
      rw [Forwarding.prepare_of_text hf, decodeChunk, hm]
      rfl
    rw [callback_of_toBytes hchunk, onChunk, Forwarding.onChunk_of_error hprepare]
    rfl

end Fresh

/-- An accented letter and a plain one, cut between them and not at all; and cut within the accented
one, so that only what stands around it is left. -/
theorem collectors_agree_however_cut :
    let t : Forwarding := ⟨false, true, ⟨0⟩, .empty .text none⟩
    let b : Forwarding := ⟨true, false, ⟨0⟩, .empty .any none⟩
    let cut : List Chunk := [.bytes [0xc3, 0xa9], .bytes [], .reference [0x62, 0x63] 1]
    let whole : List Chunk := [.bytes [0xc3, 0xa9, 0x62]]
    let broken : List Chunk := [.bytes [0x61], .bytes [0xc3], .bytes [0xa9], .bytes [0x62]]
    t.Open ∧ b.Open ∧ EndWith t b cut "éb" ∧ EndWith t b whole "éb" ∧
      (joining .empty).collect broken = joining ⟨["a", "b"]⟩ ∧
      ((forwarding t).collect broken).sink?.map Sink.writes = some [.text "a", .text "b"] ∧
      ((forwarding b).collect broken).sink?.map Sink.writes =
        some [.bytes [0x61], .bytes [0xc3], .bytes [0xa9], .bytes [0x62]] ∧
      (joining ⟨["a"]⟩).callback (.bytes [0xc3]) =
        .fault (joining ⟨["a"]⟩) (.malformedText ⟨0xc3, 0, 1, .unexpectedEnd⟩) := by
  intro t b cut whole broken
  have ht : t.Open := ⟨rfl, by decide⟩
  have hb : b.Open := ⟨rfl, by decide⟩
  have hcut : ChunksOf [[0xc3, 0xa9], [], [0x62]] cut := .cons rfl (.cons rfl (.cons rfl .nil))
  have hwhole : ChunksOf [[0xc3, 0xa9, 0x62]] whole := .cons rfl .nil
  have hbroken : ChunksOf [[0x61], [0xc3], [0xa9], [0x62]] broken :=
    .cons rfl (.cons rfl (.cons rfl (.cons rfl .nil)))
  have hvalid : ∀ piece ∈ [[0xc3, 0xa9], [], [0x62]], ∃ s, Text.Utf8.decode piece = .ok s := by
    simp only [List.mem_cons, List.not_mem_nil, or_false, forall_eq_or_imp, forall_eq]
    exact ⟨⟨"é", rfl⟩, ⟨"", rfl⟩, ⟨"b", rfl⟩⟩
  have hvalid' : ∀ piece ∈ [[0xc3, 0xa9, 0x62]], ∃ s, Text.Utf8.decode piece = .ok s := by
    simp only [List.mem_singleton, forall_eq]
    exact ⟨"éb", rfl⟩
  obtain ⟨hagree, -⟩ := collectors_agree ht rfl rfl hb rfl rfl hcut
  obtain ⟨s, hs, hends, hother⟩ := hagree hvalid
  obtain rfl : s = "éb" := by
    have hdecode := Text.Utf8.decode_eq_ok_iff.2 hs
    cases hdecode
    rfl
  obtain ⟨-, hjoined, htext, hbytes, hrefused⟩ := collectors_agree ht rfl rfl hb rfl rfl hbroken
  exact ⟨ht, hb, hends, hother _ whole hwhole rfl hvalid', hjoined, htext, hbytes,
    (hrefused (.bytes [0xc3]) _ _ rfl rfl).1 ⟨["a"]⟩⟩

end Collector

end Strided
