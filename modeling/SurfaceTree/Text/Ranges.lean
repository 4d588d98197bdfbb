/-
Sets of characters written as lists of code point ranges.

Main definitions:

* `Text.inRanges` — membership in one of the ranges;
* `Text.rangesAscend` — the ranges of a list are not empty, lie apart and come in order.

Main results:

* `Text.inRanges_iff` — membership, said with an explicit range;
* `Text.inRanges_eq_false_of_lt` — a code point below every range is in none of them.
-/

set_option relaxedAutoImplicit false
set_option autoImplicit false

namespace SurfaceTree.Text

/-- One of the ranges holds the code point of the character; both ends belong to a range. -/
def inRanges (rs : List (Nat × Nat)) (c : Char) : Bool :=
  rs.any fun r => decide (r.1 ≤ c.toNat) && decide (c.toNat ≤ r.2)

/-- No range is empty, and between a range and the next there is a code point that neither holds.
A list of this form is the shortest with its members. -/
def rangesAscend : List (Nat × Nat) → Bool
  | [] => true
  | [r] => decide (r.1 ≤ r.2)
  | r :: q :: rs => decide (r.1 ≤ r.2) && decide (r.2 + 1 < q.1) && rangesAscend (q :: rs)

theorem inRanges_iff (rs : List (Nat × Nat)) (c : Char) :
    inRanges rs c = true ↔ ∃ r ∈ rs, r.1 ≤ c.toNat ∧ c.toNat ≤ r.2 := by
  simp [inRanges]

@[simp] theorem inRanges_nil (c : Char) : inRanges [] c = false := rfl

theorem inRanges_cons (r : Nat × Nat) (rs : List (Nat × Nat)) (c : Char) :
    inRanges (r :: rs) c
      = ((decide (r.1 ≤ c.toNat) && decide (c.toNat ≤ r.2)) || inRanges rs c) := rfl

/-- A code point below every range is in none of them. -/
theorem inRanges_eq_false_of_lt {rs : List (Nat × Nat)} {n : Nat} {c : Char}
    (h : (rs.all fun r => decide (n ≤ r.1)) = true) (hc : c.toNat < n) :
    inRanges rs c = false := by
  rw [Bool.eq_false_iff]
  intro hin
  obtain ⟨r, hr, hlo, _⟩ := (inRanges_iff rs c).1 hin
  have := of_decide_eq_true (List.all_eq_true.1 h r hr)
  omega

end SurfaceTree.Text
