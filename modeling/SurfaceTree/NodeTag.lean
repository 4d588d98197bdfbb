/-
Analysis tags, the place of a lowered node, and the table that hands out its number.

Main definitions:

* `NodeTag` — ties a lowered node to the source node it comes from;
* `Site` — the tag and the span of a lowered node;
* `LocationTable` — the numbers handed out so far in every crate, and where each node stands;
* `LocationTable.nextId`, `LocationTable.tagFor` — the two ways to a fresh number.

Main results:

* `LocationTable.locate?_record` — a look-up finds the last span recorded for its key;
* `LocationTable.issued_nextId` — handing out a number advances the count of one crate only.
-/

import SurfaceTree.Id
import SurfaceTree.Span
import Std.Data.HashMap

set_option relaxedAutoImplicit false
set_option autoImplicit false

namespace SurfaceTree

/-- The tag of a lowered node: its crate, the source node it was lowered from, its own number and
the definition it belongs to. -/
structure NodeTag where
  /-- The crate of the node. -/
  crate : CrateId
  /-- The source node. -/
  node : NodeId
  /-- The lowered node itself. -/
  lowered : LoweredId
  /-- The definition around the node, or `Id.unknown`. -/
  definition : DefinitionId
deriving DecidableEq

namespace NodeTag

/-- The tag of a node that was never lowered. -/
def dummy : NodeTag := ⟨⟨0⟩, ⟨0⟩, ⟨0⟩, Id.unknown⟩

instance : Inhabited NodeTag := ⟨dummy⟩

/-- The numbers of a tag between brackets.  The definition is left out if it is unknown. -/
def render (t : NodeTag) : String :=
  "[C: " ++ toString t.crate.raw.toNat ++ " Nid: " ++ toString t.node.raw.toNat ++ " Hid: " ++
    toString t.lowered.raw.toNat ++
    (if t.definition.isUnknown then "" else " Lid: " ++ toString t.definition.raw.toNat) ++ "]"

end NodeTag

/-- Where a lowered node stands: in the lowered tree and in the source. -/
structure Site where
  tag : NodeTag
  span : Span
deriving DecidableEq, Inhabited

/-- The numbers handed out in each crate, and the span of each node that was recorded. -/
structure LocationTable where
  /-- The last number handed out in a crate; a crate without an entry has handed out none. -/
  counters : Std.HashMap CrateId UInt32
  /-- The recorded spans. -/
  spans : Std.HashMap (CrateId × LoweredId) Span

namespace LocationTable

/-- The table before any number was handed out. -/
def empty : LocationTable := ⟨∅, ∅⟩

/-- The last number handed out in a crate, zero if there is none. -/
def issued (t : LocationTable) (crate : CrateId) : UInt32 := t.counters[crate]?.getD 0

/-- The next number of a crate: one more than the last, so that the first is one. -/
def nextId (t : LocationTable) (crate : CrateId) : LoweredId × LocationTable :=
  let fresh := t.issued crate + 1
  (⟨fresh⟩, { t with counters := t.counters.insert crate fresh })

/-- Records where a node stands.  A span recorded before is forgotten. -/
def record (t : LocationTable) (crate : CrateId) (lowered : LoweredId) (span : Span) :
    LocationTable :=
  { t with spans := t.spans.insert (crate, lowered) span }

/-- The span recorded for a node. -/
def locate? (t : LocationTable) (crate : CrateId) (lowered : LoweredId) : Option Span :=
  t.spans[(crate, lowered)]?

/-- The tag of a node that is lowered now: its number is the next of its crate, and its span is
recorded under that number. -/
def tagFor (t : LocationTable) (crate : CrateId) (node : NodeId) (definition : DefinitionId)
    (span : Span) : NodeTag × LocationTable :=
  let (lowered, t) := t.nextId crate
  (⟨crate, node, lowered, definition⟩, t.record crate lowered span)

/-! ### What the operations do to the two views of a table -/

@[simp] theorem issued_empty (crate : CrateId) : empty.issued crate = 0 := by
  simp [issued, empty]

@[simp] theorem locate?_empty (crate : CrateId) (lowered : LoweredId) :
    empty.locate? crate lowered = none := by
  simp [locate?, empty]

@[simp] theorem nextId_fst (t : LocationTable) (crate : CrateId) :
    (t.nextId crate).1 = ⟨t.issued crate + 1⟩ := rfl

theorem issued_nextId (t : LocationTable) (crate other : CrateId) :
    (t.nextId crate).2.issued other =
      if crate = other then t.issued crate + 1 else t.issued other := by
  simp only [nextId, issued, Std.HashMap.getElem?_insert, beq_iff_eq]
  split <;> rfl

@[simp] theorem locate?_nextId (t : LocationTable) (crate other : CrateId) (lowered : LoweredId) :
    (t.nextId crate).2.locate? other lowered = t.locate? other lowered := rfl

@[simp] theorem issued_record (t : LocationTable) (crate other : CrateId) (lowered : LoweredId)
    (span : Span) : (t.record crate lowered span).issued other = t.issued other := rfl

theorem locate?_record (t : LocationTable) (crate other : CrateId) (lowered sought : LoweredId)
    (span : Span) :
    (t.record crate lowered span).locate? other sought =
      if crate = other ∧ lowered = sought then some span else t.locate? other sought := by
  simp only [record, locate?, Std.HashMap.getElem?_insert, beq_iff_eq, Prod.mk.injEq]

end LocationTable

end SurfaceTree
