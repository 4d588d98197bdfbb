/-
The locations in a table, and the writes that a run makes.

A location is written in two ways: by a call that records it under a number of the caller's choice,
and by a call for a tag, under the number that is drawn for the tag.  The table keeps no more and no
less than these writes, and of several under one number it keeps the last.

The two ways can meet, since a location may be recorded ahead of its number.  It is then replaced
when the number is drawn.  The other way round nothing is lost: no number is drawn twice, so that a
location written with a tag stands until a call records another one in its place.

Main definitions:

* `Call.write?` — what a call writes, going by its answer;
* `LocationTable.writes` — the writes of a run, in the order in which they are made.

Main results:

* `LocationTable.locate?_step`, `LocationTable.locate?_run` — a look-up after one call, and after a
  run: the last write, or else what was there before;
* `LocationTable.locate?_of_tag` — **a location written with a tag stands**, until one is recorded
  in its place;
* `LocationTable.locations_are_the_last_writes` — **the table is the log of its writes**.
-/

import SurfaceTree.Proofs.Issued

set_option relaxedAutoImplicit false
set_option autoImplicit false

namespace SurfaceTree

/-- What a call writes, and under which number: the number given in the call, or the one that the
call is answered with. -/
def Call.write? : Call → Answer → Option ((CrateId × LoweredId) × Span)
  | .record crate lowered span, _ => some ((crate, lowered), span)
  | .tag crate _ _ span, answer => answer.lowered?.map fun lowered => ((crate, lowered), span)
  | .next _, _ | .locate _ _, _ => none

namespace LocationTable

/-- The writes of a run, the first one first. -/
def writes (t : LocationTable) (calls : List Call) : List ((CrateId × LoweredId) × Span) :=
  (List.zipWith Call.write? calls (t.run calls).1).filterMap id

@[simp] theorem writes_nil (t : LocationTable) : t.writes [] = [] := rfl

theorem writes_cons (t : LocationTable) (call : Call) (calls : List Call) :
    t.writes (call :: calls) =
      (call.write? (t.step call).1).toList ++ (t.step call).2.writes calls := by
  have hrun : (t.run (call :: calls)).1 = (t.step call).1 :: ((t.step call).2.run calls).1 := rfl
  rw [writes, hrun, List.zipWith_cons_cons, List.filterMap_cons]
  cases call.write? (t.step call).1 <;> rfl

theorem writes_append (t : LocationTable) (calls calls' : List Call) :
    t.writes (calls ++ calls') = t.writes calls ++ (t.run calls).2.writes calls' := by
  induction calls generalizing t with
  | nil => rfl
  | cons call calls ih =>
      rw [List.cons_append, writes_cons, writes_cons, ih, List.append_assoc]
      rfl

/-! ### Look-ups after calls -/

/-- After a call, a look-up finds what the call has written, or else what was there before. -/
theorem locate?_step (t : LocationTable) (call : Call) (crate : CrateId) (lowered : LoweredId) :
    (t.step call).2.locate? crate lowered =
      ((call.write? (t.step call).1).toList.lookup (crate, lowered)).or
        (t.locate? crate lowered) := by
  have hrecord : ∀ (t : LocationTable) (other : CrateId) (written : LoweredId) (span : Span),
      (t.record other written span).locate? crate lowered =
        ([((other, written), span)].lookup (crate, lowered)).or (t.locate? crate lowered) := by
    intro t other written span
    rw [locate?_record, List.lookup_cons]
    by_cases h : other = crate ∧ written = lowered
    · obtain ⟨rfl, rfl⟩ := h
      simp
    · have hne : ((crate, lowered) == (other, written)) = false := by
        rw [beq_eq_false_iff_ne, ne_eq, Prod.mk.injEq]
        exact fun ⟨hc, hl⟩ => h ⟨hc.symm, hl.symm⟩
      rw [if_neg h, hne]
      rfl
  cases call with
  | next other => rfl
  | tag other node definition span =>
      exact hrecord (t.nextId other).2 other (t.nextId other).1 span
  | record other written span => exact hrecord t other written span
  | locate other sought => rfl

/-- **After a run, a look-up finds the last write**, or else what was there before. -/
theorem locate?_run (t : LocationTable) (calls : List Call) (crate : CrateId)
    (lowered : LoweredId) :
    (t.run calls).2.locate? crate lowered =
      ((t.writes calls).reverse.lookup (crate, lowered)).or (t.locate? crate lowered) := by
  induction calls generalizing t with
  | nil => rfl
  | cons call calls ih =>
      have hone : (call.write? (t.step call).1).toList.reverse =
          (call.write? (t.step call).1).toList := by
        cases call.write? (t.step call).1 <;> rfl
      change ((t.step call).2.run calls).2.locate? crate lowered = _
      rw [ih, locate?_step, writes_cons, List.reverse_append, List.lookup_append, hone,
        Option.or_assoc]

variable {calls : List Call}

theorem locate?_run_empty (crate : CrateId) (lowered : LoweredId) :
    (empty.run calls).2.locate? crate lowered =
      (empty.writes calls).reverse.lookup (crate, lowered) := by
  rw [locate?_run, locate?_empty, Option.or_none]

/-- A run up to and including a call is a run up to it, and then the call. -/
theorem run_take_succ {i : Nat} {call : Call} (h : calls[i]? = some call) (t : LocationTable) :
    (t.run (calls.take (i + 1))).2 = ((t.run (calls.take i)).2.step call).2 := by
  rw [List.take_add_one, h, run_append]
  rfl

theorem writes_take_succ {i : Nat} {call : Call} (h : calls[i]? = some call) (t : LocationTable) :
    t.writes (calls.take (i + 1)) =
      t.writes (calls.take i) ++ (call.write? ((t.run (calls.take i)).2.step call).1).toList := by
  rw [List.take_add_one, h, writes_append, Option.toList_some, writes_cons, writes_nil,
    List.append_nil]

/-- A call leaves the locations alone under which it does not write. -/
theorem locate?_step_of_ne {t : LocationTable} {call : Call} {crate : CrateId}
    {lowered : LoweredId} (h : ∀ w ∈ call.write? (t.step call).1, w.1 ≠ (crate, lowered)) :
    (t.step call).2.locate? crate lowered = t.locate? crate lowered := by
  rw [locate?_step]
  cases hwrite : call.write? (t.step call).1 with
  | none => rfl
  | some w =>
      have hne : ((crate, lowered) == w.1) = false := beq_eq_false_iff_ne.2 (h w hwrite).symm
      rw [Option.toList_some, List.lookup_cons, hne]
      rfl

/-! ### Numbers that were drawn before -/

/-- The answer to a call of a run, from the table that the calls before it have left. -/
theorem answer_of_call {i : Nat} {call : Call} (h : calls[i]? = some call) :
    (empty.run calls).1[i]? = some ((empty.run (calls.take i)).2.step call).1 := by
  rw [getElem?_run, h, Option.map_some]

/-- Under a number that was drawn before, only a call that records a location writes: a call for a
tag draws another number. -/
theorem eq_record_of_write (hfew : ∀ crate, allocations crate calls < UInt32.size) {i j : Nat}
    (hij : i < j) {crate : CrateId} {lowered : LoweredId} {call : Call} {span : Span}
    (hcrate : calls[i]?.bind Call.allocates? = some crate)
    (hlowered : (empty.run calls).1[i]?.bind Answer.lowered? = some lowered)
    (hcall : calls[j]? = some call)
    (hwrite : call.write? ((empty.run (calls.take j)).2.step call).1 =
      some ((crate, lowered), span)) : call = .record crate lowered span := by
  cases call with
  | next other => cases hwrite
  | locate other sought => cases hwrite
  | record other written s =>
      obtain ⟨hkey, rfl⟩ := Prod.mk.inj (Option.some.inj hwrite)
      obtain ⟨rfl, rfl⟩ := Prod.mk.inj hkey
      rfl
  | tag other node definition s =>
      have hmap : ((empty.run (calls.take j)).2.step (.tag other node definition s)).1.lowered?.map
          (fun drawn => ((other, drawn), s)) = some ((crate, lowered), span) := hwrite
      obtain ⟨drawn, hdrawn, hpair⟩ := Option.map_eq_some_iff.1 hmap
      obtain ⟨hkey, -⟩ := Prod.mk.inj hpair
      obtain ⟨rfl, rfl⟩ := Prod.mk.inj hkey
      have hother : calls[j]?.bind Call.allocates? = some other := by rw [hcall]; rfl
      refine absurd ?_ (lowered?_run_ne hfew hij hcrate hother)
      rw [hlowered, answer_of_call hcall, Option.bind_some, hdrawn]

/-- **A location written with a tag stands.**  It takes the place of what was recorded ahead of the
number, and whatever other numbers are drawn later, it is found until a call records a location in
its place. -/
theorem locate?_of_tag (hfew : ∀ crate, allocations crate calls < UInt32.size) {i j : Nat}
    {crate : CrateId} {node : NodeId} {definition : DefinitionId} {span : Span} {tag : NodeTag}
    (hcall : calls[i]? = some (.tag crate node definition span))
    (htag : (empty.run calls).1[i]? = some (.tag tag)) (hij : i < j)
    (hkept : ∀ k s, i < k → k < j → calls[k]? ≠ some (.record crate tag.lowered s)) :
    (empty.run (calls.take j)).2.locate? crate tag.lowered = some span := by
  have hcrate : calls[i]?.bind Call.allocates? = some crate := by rw [hcall]; rfl
  have hlowered : (empty.run calls).1[i]?.bind Answer.lowered? = some tag.lowered := by
    rw [htag]; rfl
  -- on the number of calls after the one for the tag
  obtain ⟨n, rfl⟩ := Nat.exists_eq_add_of_le (Nat.succ_le_of_lt hij)
  induction n with
  | zero =>
      have hanswer : ((empty.run (calls.take i)).2.step (.tag crate node definition span)).1 =
          .tag tag := Option.some.inj ((answer_of_call hcall).symm.trans htag)
      rw [Nat.add_zero, run_take_succ hcall, locate?_step, hanswer]
      simp [Call.write?, Answer.lowered?]
  | succ n ih =>
      have hbefore := ih (by omega) fun k s hik hkn => hkept k s hik (by omega)
      rw [← Nat.add_assoc]
      cases hnext : calls[i + 1 + n]? with
      | none =>
          rw [List.take_add_one, hnext, Option.toList_none, List.append_nil]
          exact hbefore
      | some call =>
          rw [run_take_succ hnext, locate?_step_of_ne, hbefore]
          rintro ⟨key, s⟩ hwrite rfl
          refine hkept (i + 1 + n) s (by omega) (by omega) ?_
          rw [hnext, eq_record_of_write hfew (by omega) hcrate hlowered hnext hwrite]

/-- **The table is the log of its writes.**  A look-up finds the last write under its number, and
nothing if there was none, both in the middle of a run and in the end.  Drawing a number alone
writes nothing.  If fewer numbers of a crate are drawn than there are words, then a location that
was written with a tag stands from then on, whatever was recorded before and whatever numbers are
drawn later, until a call records another one in its place. -/
theorem locations_are_the_last_writes
    (hfew : ∀ crate, allocations crate calls < UInt32.size) :
    (∀ crate lowered, (empty.run calls).2.locate? crate lowered =
      (empty.writes calls).reverse.lookup (crate, lowered)) ∧
    (∀ (i : Nat) (crate : CrateId) (lowered : LoweredId),
      calls[i]? = some (.locate crate lowered) →
      (empty.run calls).1[i]? =
        some (.location ((empty.writes (calls.take i)).reverse.lookup (crate, lowered)))) ∧
    (∀ (i : Nat) (crate : CrateId), calls[i]? = some (.next crate) →
      empty.writes (calls.take (i + 1)) = empty.writes (calls.take i)) ∧
    ∀ (i : Nat) (crate : CrateId) (node : NodeId) (definition : DefinitionId) (span : Span),
      calls[i]? = some (.tag crate node definition span) →
      ∃ tag : NodeTag, (empty.run calls).1[i]? = some (.tag tag) ∧
        ∀ j, i < j →
          (∀ (k : Nat) (s : Span), i < k → k < j →
            calls[k]? ≠ some (.record crate tag.lowered s)) →
          (empty.run (calls.take j)).2.locate? crate tag.lowered = some span := by
  refine ⟨fun crate lowered => locate?_run_empty crate lowered, ?_, ?_, ?_⟩
  · intro i crate lowered hcall
    rw [answer_of_call hcall, ← locate?_run_empty]
    rfl
  · intro i crate hcall
    rw [writes_take_succ hcall]
    exact List.append_nil _
  · intro i crate node definition span hcall
    have htag := answer_of_call hcall
    exact ⟨_, htag, fun j hij hkept => locate?_of_tag hfew hcall htag hij hkept⟩

/-- The location that was recorded ahead is found at first.  The second number of the crate then
brings another one, which the two calls after it leave in place. -/
theorem locations_are_the_last_writes_ahead :
    (∀ crate, allocations crate sampleCalls < UInt32.size) ∧
      (empty.run sampleCalls).1[3]? = some (.location (some ⟨5, 9⟩)) ∧
      ∃ tag : NodeTag, (empty.run sampleCalls).1[4]? = some (.tag tag) ∧
        (empty.run sampleCalls).2.locate? ⟨0⟩ tag.lowered = some ⟨0, 3⟩ := by
  have hfew : ∀ crate, allocations crate sampleCalls < UInt32.size := fun crate =>
    Nat.lt_of_le_of_lt (allocations_le_length crate sampleCalls) (by decide)
  obtain ⟨-, hlocate, -, htags⟩ := locations_are_the_last_writes hfew
  refine ⟨hfew, ?_, ?_⟩
  · rw [hlocate 3 ⟨0⟩ ⟨2⟩ rfl]
    rfl
  · obtain ⟨tag, htag, hstands⟩ := htags 4 ⟨0⟩ ⟨7⟩ Id.unknown ⟨0, 3⟩ rfl
    refine ⟨tag, htag, hstands 7 (by decide) fun k s hk hk' => ?_⟩
    obtain rfl | rfl : k = 5 ∨ k = 6 := by omega
    · exact fun h => nomatch h
    · exact fun h => nomatch h

end LocationTable

end SurfaceTree
