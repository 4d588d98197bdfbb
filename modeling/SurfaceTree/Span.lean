/-
Source spans: half-open ranges of byte offsets, each offset a 32-bit word.

Main definitions:

* `Span` — a start and a stop;
* `Span.ofRange` — the checked way from unbounded offsets to a span, with `Span.RangeError`
  naming what stood in the way;
* `Span.merge` — the least span that reaches over two;
* `Span.length`, `Span.Contains` — the extent of a span and the offsets in it.

Main results:

* `Span.ofRange_eq_ok_iff` — a range becomes a span exactly when it is ordered and fits;
* `Span.merge_comm`, `Span.merge_assoc`, `Span.merge_self` — merging is a semilattice.
-/

import SurfaceTree.Text.Escaped

set_option relaxedAutoImplicit false
set_option autoImplicit false

namespace SurfaceTree

/-- The bytes from `start` up to but not including `stop`.  Nothing forces `start ≤ stop`. -/
structure Span where
  /-- The first offset. -/
  start : UInt32
  /-- The offset after the last. -/
  stop : UInt32
deriving DecidableEq, Inhabited

namespace Span

/-- The span of a node that stands nowhere in the source. -/
def dummy : Span := ⟨0, 0⟩

/-- Why a range of offsets is no span. -/
inductive RangeError where
  /-- The range ends before it starts. -/
  | inverted (start stop : Nat)
  /-- The start does not fit into 32 bits. -/
  | startTooLarge (start : Nat)
  /-- The stop does not fit into 32 bits. -/
  | stopTooLarge (stop : Nat)
deriving DecidableEq

/-- The wording of a range error.  An offset that does not fit is shown in both bases. -/
def RangeError.message : RangeError → String
  | .inverted start stop =>
      "span end " ++ toString stop ++ " precedes span start " ++ toString start
  | .startTooLarge n =>
      "span start " ++ toString n ++ " (0x" ++ Text.upperHex n ++ ") exceeds u32::MAX"
  | .stopTooLarge n =>
      "span end " ++ toString n ++ " (0x" ++ Text.upperHex n ++ ") exceeds u32::MAX"

/-- A range that ends before it starts is refused first, then a start that does not fit, then a
stop that does not. -/
def ofRange (start stop : Nat) : Except RangeError Span :=
  if stop < start then .error (.inverted start stop)
  else if UInt32.size ≤ start then .error (.startTooLarge start)
  else if UInt32.size ≤ stop then .error (.stopTooLarge stop)
  else .ok ⟨UInt32.ofNat start, UInt32.ofNat stop⟩

/-- The two offsets of a span. -/
def toRange (s : Span) : Nat × Nat := (s.start.toNat, s.stop.toNat)

/-- The number of offsets in a span, zero if its ends are inverted. -/
def length (s : Span) : Nat := s.stop.toNat - s.start.toNat

/-- A span without offsets. -/
def isEmpty (s : Span) : Bool := s.length == 0

/-- The span whose two ends are zero. -/
def isDummy (s : Span) : Bool := decide (s = dummy)

/-- An offset lies in a span from its start up to but not including its stop. -/
def Contains (s : Span) (offset : UInt32) : Prop := s.start ≤ offset ∧ offset < s.stop

instance (s : Span) (offset : UInt32) : Decidable (s.Contains offset) :=
  inferInstanceAs (Decidable (_ ∧ _))

/-- From the smaller of two starts to the greater of two stops. -/
def merge (s t : Span) : Span := ⟨min s.start t.start, max s.stop t.stop⟩

/-- The two ends of a span with two dots between them. -/
def render (s : Span) : String := toString s.start.toNat ++ ".." ++ toString s.stop.toNat

/-! ### Checked ranges -/

/-- A range becomes a span exactly when it is ordered and fits, and then it is that span. -/
theorem ofRange_eq_ok_iff {start stop : Nat} {s : Span} :
    ofRange start stop = .ok s ↔
      start ≤ stop ∧ stop < UInt32.size ∧ s.toRange = (start, stop) := by
  unfold ofRange toRange
  split
  · simp; omega
  · split
    · simp; omega
    · split
      · simp; omega
      · rename_i h₁ h₂ h₃
        rw [Except.ok.injEq]
        constructor
        · rintro rfl
          refine ⟨by omega, by omega, ?_⟩
          simp [UInt32.toNat_ofNat_of_lt' (show start < UInt32.size by omega),
            UInt32.toNat_ofNat_of_lt' (show stop < UInt32.size by omega)]
        · rintro ⟨-, -, h⟩
          simp only [Prod.mk.injEq] at h
          obtain ⟨rfl, rfl⟩ := h
          simp

/-! ### Merging -/

theorem toNat_min (a b : UInt32) : (min a b).toNat = min a.toNat b.toNat := by
  change (if a ≤ b then a else b).toNat = _
  split <;> rename_i h <;> rw [UInt32.le_iff_toNat_le] at h <;> omega

theorem toNat_max (a b : UInt32) : (max a b).toNat = max a.toNat b.toNat := by
  change (if a ≤ b then b else a).toNat = _
  split <;> rename_i h <;> rw [UInt32.le_iff_toNat_le] at h <;> omega

theorem toRange_merge (s t : Span) :
    (s.merge t).toRange = (min s.toRange.1 t.toRange.1, max s.toRange.2 t.toRange.2) := by
  simp only [merge, toRange, toNat_min, toNat_max]

theorem toRange_injective {s t : Span} (h : s.toRange = t.toRange) : s = t := by
  cases s
  cases t
  simp only [toRange, Prod.mk.injEq] at h
  simp [UInt32.toNat_inj.1 h.1, UInt32.toNat_inj.1 h.2]

theorem merge_comm (s t : Span) : s.merge t = t.merge s :=
  toRange_injective (by simp only [toRange_merge, Nat.min_comm, Nat.max_comm])

theorem merge_assoc (s t u : Span) : (s.merge t).merge u = s.merge (t.merge u) :=
  toRange_injective (by simp only [toRange_merge, Nat.min_assoc, Nat.max_assoc])

@[simp] theorem merge_self (s : Span) : s.merge s = s :=
  toRange_injective (by simp only [toRange_merge, Nat.min_self, Nat.max_self])

end Span

end SurfaceTree
