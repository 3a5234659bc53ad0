import Strided.Proofs.CommandLine.Emission
import Strided.Proofs.View.Keeping

/-!
# The stages of the program

The program reads its arguments, loads an array, subscripts the view of the array, writes what that
gives and, if it is asked to, checks it.  Here each stage that goes well is taken out of the
program: `Invocation.run_eq` leads to the loaded array and the subscript, and `subscriptArray_of_ok`
from there to the end, with `subscriptArray_of_error` where the subscript is refused.
-/

namespace Strided.CommandLine

/-! ### Up to the loaded array -/

/-- The program is asked to apply a subscript to an array, and gets as far as that. -/
structure Invocation (settings : Settings) (files : String → Except Fault StoredFile)
    (argv : List String) (args : Arguments) (text : String) (subscript : Subscript)
    (a : TypedArray) : Prop where
  read : Arguments.read (Subscript.quoteNegativeSlices argv) = .ok args
  logging : ∃ l, settings.logging = .ok l
  given : args.subscriptOption.or (args.subscript.map some) = some (some text)
  parsed : Subscript.parse text = .ok subscript
  loaded : StoredFile.load files (args.filename.getD "") args.dtype = .ok a

theorem Invocation.run_eq {settings : Settings} {files : String → Except Fault StoredFile}
    {argv : List String} {args : Arguments} {text : String} {subscript : Subscript}
    {a : TypedArray} (h : Invocation settings files argv args text subscript a) (room : Nat) :
    runWithin room settings files argv =
      subscriptArrayWithin room settings.debugChecks a args text subscript := by
  obtain ⟨l, hl⟩ := h.logging
  simp only [runWithin, carryOut, h.read, hl, h.given, h.parsed, h.loaded]

theorem run_of_invalid {settings : Settings} {files : String → Except Fault StoredFile}
    {argv : List String} {args : Arguments} {text : String} {f : Fault}
    (hread : Arguments.read (Subscript.quoteNegativeSlices argv) = .ok args)
    (hlog : ∃ l, settings.logging = .ok l)
    (hgiven : args.subscriptOption.or (args.subscript.map some) = some (some text))
    (hparse : Subscript.parse text = .error f) :
    run settings files argv = .refuse (.invalid f.message) := by
  obtain ⟨l, hl⟩ := hlog
  simp only [run, runWithin, carryOut, hread, hl, hgiven, hparse]

/-- A subscript that is given as nothing at all is not even refused. -/
theorem run_of_nothing {settings : Settings} {files : String → Except Fault StoredFile}
    {argv : List String} {args : Arguments}
    (hread : Arguments.read (Subscript.quoteNegativeSlices argv) = .ok args)
    (hlog : ∃ l, settings.logging = .ok l)
    (hgiven : args.subscriptOption.or (args.subscript.map some) = some none) :
    run settings files argv = .fail (.noAttribute "list" "split") [] [] := by
  obtain ⟨l, hl⟩ := hlog
  simp only [run, runWithin, carryOut, hread, hl, hgiven]

/-! ### The view of the array -/

def loadedBacking (a : TypedArray) : Backing Value := .ofArray 0 "NumpyBacking" .numeric a

def loadedView (a : TypedArray) : View Value :=
  ⟨.numeric, loadedBacking a, Window.whole a.size⟩

theorem ofBacking_loadedBacking (a : TypedArray) :
    View.ofBacking (loadedBacking a) = pure (loadedView a) :=
  View.full_of_count _ rfl

theorem shows_loadedView {a : TypedArray} (ha : a.WellFormed) (htype : a.type ≠ .object)
    (hsize : (a.size : Int) ≤ Number.Word.greatest) : (loadedView a).Shows a.toValues := by
  have hshows := View.shows_full .numeric
    (Backing.holds_toValues 0 "NumpyBacking" .numeric ha htype hsize)
  rwa [TypedArray.toValues, List.length_map] at hshows

/-! ### From the view to the end -/

/-- How the program ends after a check. -/
def Ending.ofVerdict : Except Fault Bool → Ending
  | .ok true => .done 0
  | .ok false => .done 1
  | .error f => .failed f

variable (room : Nat) {checks : Bool} {a : TypedArray} (args : Arguments) (text : String)
  {subscript : Subscript}

theorem subscriptArray_of_error {f : Fault}
    (hget : ((loadedView a).get checks subscript.toValue).outcome = .error f)
    (hf : f.kind.isA .library = true) :
    (subscriptArrayWithin room checks a args text subscript).ending = .done 2 ∧
      (subscriptArrayWithin room checks a args text subscript).output = [] := by
  have hpicked : (View.ofBacking (loadedBacking a) >>= fun view =>
      view.get checks subscript.toValue).outcome = .error f := by
    rw [ofBacking_loadedBacking, Traced.pure_bind, hget]
  simp only [loadedBacking] at hpicked
  simp only [subscriptArrayWithin, hpicked, hf, if_true, and_self]

theorem subscriptArray_of_ok {result : Selected Value} {chunks : List (List UInt8)}
    {output : List UInt8}
    (hget : ((loadedView a).get checks subscript.toValue).outcome = .ok result)
    (hchunks : (chunksOf checks a.type args.binary result).outcome = .ok chunks)
    (hwrite : writeOut args.binary chunks = (output, .ok ())) :
    (subscriptArrayWithin room checks a args text subscript).output = output ∧
      (subscriptArrayWithin room checks a args text subscript).ending =
        if args.check then .ofVerdict (agrees room checks a subscript.toValue result).outcome
        else .done 0 := by
  have hpicked : (View.ofBacking (loadedBacking a) >>= fun view =>
      view.get checks subscript.toValue).outcome = .ok result := by
    rw [ofBacking_loadedBacking, Traced.pure_bind, hget]
  simp only [loadedBacking] at hpicked
  rw [writeOut, Prod.mk.injEq] at hwrite
  simp only [subscriptArrayWithin, hpicked, emit_eq Forwarding.onChunk hchunks, hwrite]
  cases args.check with
  | false => exact ⟨rfl, rfl⟩
  | true =>
    rw [if_pos rfl, if_pos rfl]
    split <;> simp only [*, Ending.ofVerdict, and_self, Report.fail]

end Strided.CommandLine
