/-
The numbers that a location table hands out in the course of its life.

There are two ways to a fresh number, alone or in a tag, and both draw on the one counter of a
crate.  Between them stand calls for other crates, and calls that record and look up locations.
None of these disturbs the count: the numbers of a crate are one, two, three and so on, in the
order of the calls that ask for them.

Main definitions:

* `Call`, `Answer` — a call on a table, and what it answers;
* `LocationTable.step`, `LocationTable.run` — one call, and one call after another;
* `Call.allocates?`, `Answer.lowered?` — the crate that a call draws a number for, and the number;
* `allocations` — how many numbers of a crate some calls draw.

Main results:

* `LocationTable.issued_step`, `LocationTable.issued_run` — what one call does to the counters, and
  what a run does;
* `LocationTable.run_append`, `LocationTable.getElem?_run` — a run in two parts, and call by call;
* `LocationTable.lowered?_run` — the numbers that a run answers with;
* `LocationTable.numbers_in_order` — **the numbers of a crate come in order**, none of them is zero,
  and no tag comes twice.
-/

import SurfaceTree.NodeTag

set_option relaxedAutoImplicit false
set_option autoImplicit false

namespace SurfaceTree

/-- A call on a location table. -/
inductive Call where
  /-- The next number of a crate. -/
  | next (crate : CrateId)
  /-- A tag, with a number of its own, for a node that is lowered now. -/
  | tag (crate : CrateId) (node : NodeId) (definition : DefinitionId) (span : Span)
  /-- The recording of a location. -/
  | record (crate : CrateId) (lowered : LoweredId) (span : Span)
  /-- The look-up of a location. -/
  | locate (crate : CrateId) (lowered : LoweredId)
deriving DecidableEq

/-- The crate that a call draws a number for. -/
def Call.allocates? : Call → Option CrateId
  | .next crate | .tag crate _ _ _ => some crate
  | .record _ _ _ | .locate _ _ => none

/-- What a call answers. -/
inductive Answer where
  | number (lowered : LoweredId)
  | tag (tag : NodeTag)
  /-- A location is recorded without an answer. -/
  | done
  | location (span : Option Span)
deriving DecidableEq

/-- The number in an answer, alone or in a tag. -/
def Answer.lowered? : Answer → Option LoweredId
  | .number lowered => some lowered
  | .tag issued => some issued.lowered
  | .done | .location _ => none

/-- How many numbers of a crate some calls draw, by either way. -/
def allocations (crate : CrateId) (calls : List Call) : Nat :=
  calls.countP fun call => decide (call.allocates? = some crate)

@[simp] theorem allocations_nil (crate : CrateId) : allocations crate [] = 0 := rfl

theorem allocations_append (crate : CrateId) (calls calls' : List Call) :
    allocations crate (calls ++ calls') = allocations crate calls + allocations crate calls' :=
  List.countP_append

theorem allocations_singleton (crate : CrateId) (call : Call) :
    allocations crate [call] = if call.allocates? = some crate then 1 else 0 := by
  simp [allocations, List.countP_singleton]

theorem allocations_mono (crate : CrateId) {calls calls' : List Call}
    (h : calls.Sublist calls') : allocations crate calls ≤ allocations crate calls' :=
  h.countP_le

theorem allocations_le_length (crate : CrateId) (calls : List Call) :
    allocations crate calls ≤ calls.length := List.countP_le_length

/-- A call that draws a number of a crate makes one more. -/
theorem allocations_take_succ {crate : CrateId} {calls : List Call} {i : Nat}
    (h : calls[i]?.bind Call.allocates? = some crate) :
    allocations crate (calls.take (i + 1)) = allocations crate (calls.take i) + 1 := by
  obtain ⟨call, hcall, hcrate⟩ := Option.bind_eq_some_iff.1 h
  rw [List.take_add_one, hcall, Option.toList_some, allocations_append, allocations_singleton,
    if_pos hcrate]

namespace LocationTable

/-- One call: its answer, and the table afterwards. -/
def step (t : LocationTable) : Call → Answer × LocationTable
  | .next crate => (.number (t.nextId crate).1, (t.nextId crate).2)
  | .tag crate node definition span =>
      (.tag (t.tagFor crate node definition span).1, (t.tagFor crate node definition span).2)
  | .record crate lowered span => (.done, t.record crate lowered span)
  | .locate crate lowered => (.location (t.locate? crate lowered), t)

/-- One call after another: their answers, and the table in the end. -/
def run (t : LocationTable) : List Call → List Answer × LocationTable
  | [] => ([], t)
  | call :: calls =>
      let (answer, t) := t.step call
      let (answers, t) := t.run calls
      (answer :: answers, t)

/-! ### One call -/

/-- A call advances the counter of the crate that it draws a number for, and no other. -/
theorem issued_step (t : LocationTable) (call : Call) (crate : CrateId) :
    (t.step call).2.issued crate =
      t.issued crate + if call.allocates? = some crate then 1 else 0 := by
  have hnext : ∀ other : CrateId, (t.nextId other).2.issued crate =
      t.issued crate + if some other = some crate then 1 else 0 := by
    intro other
    rw [issued_nextId]
    by_cases h : other = crate
    · simp [h]
    · simp [h]
  cases call with
  | next other => exact hnext other
  | tag other node definition span => exact hnext other
  | record other lowered span => exact (UInt32.add_zero _).symm
  | locate other lowered => exact (UInt32.add_zero _).symm

/-- A call that draws a number answers with the one after the last. -/
theorem lowered?_step (t : LocationTable) (call : Call) :
    (t.step call).1.lowered? = call.allocates?.map fun crate => ⟨t.issued crate + 1⟩ := by
  cases call <;> rfl

/-- A tag is the answer to a call for a tag, and it is of the crate of that call. -/
theorem allocates?_of_step_eq_tag {t : LocationTable} {call : Call} {tag : NodeTag}
    (h : (t.step call).1 = .tag tag) : call.allocates? = some tag.crate := by
  cases call with
  | tag crate node definition span =>
      obtain rfl := Answer.tag.inj h
      rfl
  | _ => simp [step] at h

/-! ### Runs -/

/-- A run goes on from the table that the calls before have left. -/
theorem run_append (t : LocationTable) (calls calls' : List Call) :
    t.run (calls ++ calls') =
      ((t.run calls).1 ++ ((t.run calls).2.run calls').1, ((t.run calls).2.run calls').2) := by
  induction calls generalizing t with
  | nil => rfl
  | cons call calls ih => simp [run, ih]

/-- Every call is answered from the table that the calls before it have left. -/
theorem getElem?_run (t : LocationTable) (calls : List Call) (i : Nat) :
    (t.run calls).1[i]? =
      calls[i]?.map fun call => ((t.run (calls.take i)).2.step call).1 := by
  induction calls generalizing t i with
  | nil => rfl
  | cons call calls ih =>
      cases i with
      | zero => rfl
      | succ i => simpa [run] using ih (t.step call).2 i

/-- **A run advances a counter by the numbers it draws.** -/
theorem issued_run (t : LocationTable) (calls : List Call) (crate : CrateId) :
    (t.run calls).2.issued crate = t.issued crate + UInt32.ofNat (allocations crate calls) := by
  induction calls generalizing t with
  | nil => exact (UInt32.add_zero _).symm
  | cons call calls ih =>
      have hcount : allocations crate (call :: calls) =
          (if call.allocates? = some crate then 1 else 0) + allocations crate calls := by
        rw [← allocations_singleton, ← allocations_append, List.singleton_append]
      change ((t.step call).2.run calls).2.issued crate = _
      rw [ih, issued_step, hcount, UInt32.ofNat_add, UInt32.add_assoc]
      split <;> rfl

/-- The number that a call of a run is answered with is the count of all that were drawn for its
crate so far, itself included. -/
theorem lowered?_run {calls : List Call} {i : Nat} {crate : CrateId}
    (h : calls[i]?.bind Call.allocates? = some crate) :
    (empty.run calls).1[i]?.bind Answer.lowered? =
      some ⟨UInt32.ofNat (allocations crate (calls.take (i + 1)))⟩ := by
  rw [allocations_take_succ h]
  obtain ⟨call, hcall, hcrate⟩ := Option.bind_eq_some_iff.1 h
  rw [getElem?_run, hcall, Option.map_some, Option.bind_some, lowered?_step, hcrate,
    Option.map_some, issued_run, issued_empty, UInt32.zero_add, UInt32.ofNat_add]
  rfl

variable {calls : List Call}

theorem allocates?_of_tag {i : Nat} {tag : NodeTag}
    (h : (empty.run calls).1[i]? = some (.tag tag)) :
    calls[i]?.bind Call.allocates? = some tag.crate := by
  rw [getElem?_run] at h
  obtain ⟨call, hcall, htag⟩ := Option.map_eq_some_iff.1 h
  rw [hcall, Option.bind_some, allocates?_of_step_eq_tag htag]

/-- The numbers of a crate do not wrap around if they are fewer than there are words. -/
theorem toNat_lowered_run (hfew : ∀ crate, allocations crate calls < UInt32.size) {i : Nat}
    {crate : CrateId} (h : calls[i]?.bind Call.allocates? = some crate) :
    ∃ lowered : LoweredId, (empty.run calls).1[i]?.bind Answer.lowered? = some lowered ∧
      lowered.raw.toNat = allocations crate (calls.take (i + 1)) := by
  refine ⟨_, lowered?_run h, UInt32.toNat_ofNat_of_lt' ?_⟩
  exact Nat.lt_of_le_of_lt (allocations_mono crate (List.take_sublist (i + 1) calls)) (hfew crate)

/-- Of two calls that draw numbers of a crate, the later one draws the greater. -/
theorem allocations_take_lt {i j : Nat} {crate : CrateId} (hij : i < j)
    (hj : calls[j]?.bind Call.allocates? = some crate) :
    allocations crate (calls.take (i + 1)) < allocations crate (calls.take (j + 1)) := by
  have hle : allocations crate (calls.take (i + 1)) ≤ allocations crate (calls.take j) :=
    allocations_mono crate ((List.take_prefix_take_left (by omega)).sublist)
  rw [allocations_take_succ hj]
  omega

/-- No two calls are answered with the same number of a crate. -/
theorem lowered?_run_ne (hfew : ∀ crate, allocations crate calls < UInt32.size) {i j : Nat}
    {crate : CrateId} (hij : i < j) (hi : calls[i]?.bind Call.allocates? = some crate)
    (hj : calls[j]?.bind Call.allocates? = some crate) :
    (empty.run calls).1[i]?.bind Answer.lowered? ≠
      (empty.run calls).1[j]?.bind Answer.lowered? := by
  intro heq
  obtain ⟨a, ha, hacount⟩ := toNat_lowered_run hfew hi
  obtain ⟨b, hb, hbcount⟩ := toNat_lowered_run hfew hj
  obtain rfl : a = b := Option.some.inj (ha.symm.trans (heq.trans hb))
  have hlt := allocations_take_lt hij hj
  omega

/-- **The numbers of a crate come in order.**  If fewer of them are drawn than there are words, then
the call that draws the `k`-th number of a crate is answered with `k`, whatever calls stand in
between; so none of them is the number of the dummy tag, no crate gets a number twice, and no tag
comes twice. -/
theorem numbers_in_order (hfew : ∀ crate, allocations crate calls < UInt32.size) :
    (∀ i crate, calls[i]?.bind Call.allocates? = some crate →
      ∃ lowered : LoweredId, (empty.run calls).1[i]?.bind Answer.lowered? = some lowered ∧
        lowered.raw.toNat = allocations crate (calls.take (i + 1)) ∧
        lowered ≠ NodeTag.dummy.lowered) ∧
    (∀ (i j : Nat) (crate : CrateId), i < j → calls[i]?.bind Call.allocates? = some crate →
      calls[j]?.bind Call.allocates? = some crate →
      (empty.run calls).1[i]?.bind Answer.lowered? ≠
        (empty.run calls).1[j]?.bind Answer.lowered?) ∧
    ∀ (i j : Nat) (tag tag' : NodeTag), i < j → (empty.run calls).1[i]? = some (.tag tag) →
      (empty.run calls).1[j]? = some (.tag tag') → tag ≠ tag' := by
  refine ⟨?_, fun i j crate => lowered?_run_ne hfew, ?_⟩
  · intro i crate hi
    obtain ⟨lowered, hlowered, hcount⟩ := toNat_lowered_run hfew hi
    refine ⟨lowered, hlowered, hcount, ?_⟩
    rintro rfl
    have hpos : NodeTag.dummy.lowered.raw.toNat = allocations crate (calls.take i) + 1 :=
      hcount.trans (allocations_take_succ hi)
    exact absurd hpos.symm (Nat.succ_ne_zero _)
  · rintro i j tag tag' hij hi hj rfl
    refine lowered?_run_ne hfew hij (allocates?_of_tag hi) (allocates?_of_tag hj) ?_
    rw [hi, hj]

/-- Calls for two crates, with a location recorded ahead of its number. -/
def sampleCalls : List Call :=
  [.record ⟨0⟩ ⟨2⟩ ⟨5, 9⟩, .next ⟨0⟩, .tag ⟨1⟩ ⟨7⟩ Id.unknown ⟨0, 3⟩, .locate ⟨0⟩ ⟨2⟩,
    .tag ⟨0⟩ ⟨7⟩ Id.unknown ⟨0, 3⟩, .next ⟨1⟩, .tag ⟨0⟩ ⟨7⟩ Id.unknown ⟨0, 3⟩]

/-- The last call draws the third number of its crate, and its tag is another than the one for the
same node before. -/
theorem sampleCalls_in_order :
    (∀ crate, allocations crate sampleCalls < UInt32.size) ∧
      (∃ lowered : LoweredId,
        (empty.run sampleCalls).1[6]?.bind Answer.lowered? = some lowered ∧
        lowered.raw.toNat = 3 ∧ lowered ≠ NodeTag.dummy.lowered) ∧
      ∃ tag tag' : NodeTag, (empty.run sampleCalls).1[4]? = some (.tag tag) ∧
        (empty.run sampleCalls).1[6]? = some (.tag tag') ∧ tag ≠ tag' := by
  have hfew : ∀ crate, allocations crate sampleCalls < UInt32.size := fun crate =>
    Nat.lt_of_le_of_lt (allocations_le_length crate sampleCalls) (by decide)
  obtain ⟨hnumbers, -, htags⟩ := numbers_in_order hfew
  have hearly := getElem?_run empty sampleCalls 4
  have hlate := getElem?_run empty sampleCalls 6
  exact ⟨hfew, hnumbers 6 ⟨0⟩ rfl, _, _, hearly, hlate, htags 4 6 _ _ (by decide) hearly hlate⟩

end LocationTable

end SurfaceTree
