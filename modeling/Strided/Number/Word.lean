/-!
# Machine words

Indices and sizes that leave the library's own arithmetic have to fit a signed word of 64 bits.
-/

namespace Strided.Number.Word

/-- The least integer of a word. -/
def least : Int := -9223372036854775808

/-- The greatest integer of a word. -/
def greatest : Int := 9223372036854775807

def fits (n : Int) : Bool := least ≤ n && n ≤ greatest

theorem fits_iff {n : Int} : fits n = true ↔ least ≤ n ∧ n ≤ greatest := by simp [fits]

/-- An index into as many elements as a word counts fits, from the end too. -/
theorem fits_of_index {i : Int} {n : Nat} (hn : (n : Int) ≤ greatest) (hlo : -n ≤ i) (hhi : i < n) :
    fits i = true := by
  rw [fits_iff]
  simp only [least, greatest] at hn ⊢
  omega

end Strided.Number.Word
