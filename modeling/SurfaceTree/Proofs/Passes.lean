/-
Several patterns in one pass.

A pass hands its count from one pattern to the next, and a pattern that fails may have counted
something before it does.  That none of this can be seen from outside rests on one fact about
sweeps: started from any count, a sweep does what configuring does and ends with that count plus
what configuring takes away.  Hence every pattern fares in a pass as it does alone, and the order
of the patterns does not matter.

Main definitions:

* `Config.Sweep.Follows` — work that counts as it goes, seen next to work that returns its count;
* `Config.Outcome.alone`, `Config.lossesAlone` — what becomes of patterns one by one.

Main results:

* `Pattern.follows_sweep` — sweeping follows configuring;
* `Config.Pass.run_eq` — **one step of a pass**;
* `Config.Pass.runAll_eq` — a run of a pass;
* `Config.Pass.runAll_start` — **a pass over several patterns**, in any order.
-/

import Mathlib.Algebra.Ring.Nat
import Mathlib.Data.List.Perm.Basic
import SurfaceTree.Config.Pass
import SurfaceTree.Proofs.Configured

set_option relaxedAutoImplicit false
set_option autoImplicit false

namespace SurfaceTree

namespace Config

variable {β γ δ : Type}

/-! ### Counting as one goes -/

namespace Sweep

/-- Started from any count, `m` adds what `r` has counted, or fails as `r` does.  Nothing is said
about the count after a failure. -/
structure Follows (m : Sweep β) (r : Except ConfigError (β × Stats)) : Prop where
  ok : ∀ {b : β} {n : Stats}, r = .ok (b, n) → ∀ s, m s = (.ok b, s + n)
  error : ∀ {e : ConfigError}, r = .error e → ∀ s, (m s).1 = .error e

theorem bind_of_ok {m : Sweep β} {b : β} {s s' : Stats} (h : m s = (.ok b, s'))
    (k : β → Sweep γ) : (m >>= k) s = k b s' := by
  simp only [bind, ExceptT.bind, ExceptT.mk, StateT.bind, h, ExceptT.bindCont]

theorem bind_of_error {m : Sweep β} {e : ConfigError} {s : Stats} (h : (m s).1 = .error e)
    (k : β → Sweep γ) : ((m >>= k) s).1 = .error e := by
  cases hm : m s with
  | mk x s' =>
    rw [hm] at h
    obtain rfl : x = .error e := h
    simp only [bind, ExceptT.bind, ExceptT.mk, StateT.bind, hm, ExceptT.bindCont]
    rfl

theorem follows_pure (b : β) : Follows (pure b) (.ok (b, 0)) := by
  constructor
  · intro b' n h s
    cases h
    rw [Stats.add_zero]
    rfl
  · intro e h
    cases h

theorem Follows.bind {m : Sweep β} {r : Except ConfigError (β × Stats)} {k : β → Sweep γ}
    {l : β → Except ConfigError (γ × Stats)} (h : m.Follows r) (hk : ∀ b, (k b).Follows (l b)) :
    Follows (m >>= k) (r >>= fun x => l x.1 >>= fun y => pure (y.1, x.2 + y.2)) := by
  cases r with
  | error e =>
      constructor
      · intro c n hr
        cases hr
      · intro e' hr s
        obtain rfl : e = e' := Except.error.inj hr
        exact bind_of_error (h.error rfl s) k
  | ok x =>
      obtain ⟨b, n⟩ := x
      -- the first part ends with its count added, and the second goes on from there
      constructor
      · intro c n' hr s
        rw [bind_of_ok (h.ok rfl s)]
        cases hl : l b with
        | error e => simp [Bind.bind, Except.bind, hl] at hr
        | ok y =>
            obtain ⟨c', k'⟩ := y
            obtain ⟨rfl, rfl⟩ : c' = c ∧ n + k' = n' := by
              simpa [Bind.bind, Except.bind, Pure.pure, Except.pure, hl] using hr
            rw [(hk b).ok hl, Stats.add_assoc]
      · intro e hr s
        rw [bind_of_ok (h.ok rfl s)]
        cases hl : l b with
        | error e' =>
            obtain rfl : e' = e := by simpa [Bind.bind, Except.bind, hl] using hr
            exact (hk b).error hl _
        | ok y => simp [Bind.bind, Except.bind, Pure.pure, Except.pure, hl] at hr

theorem Follows.map {m : Sweep β} {r : Except ConfigError (β × Stats)} (h : m.Follows r)
    (f : β → γ) : Follows (m >>= fun b => pure (f b)) (r >>= fun x => pure (f x.1, x.2)) := by
  have hb := h.bind fun b => follows_pure (f b)
  cases r with
  | error e => exact hb
  | ok x =>
      have hx : x.2 + 0 = x.2 := Stats.add_zero x.2
      simpa [Bind.bind, Except.bind, Pure.pure, Except.pure, hx] using hb

theorem Follows.pair {m : Sweep β} {r : Except ConfigError (β × Stats)} {m' : Sweep γ}
    {r' : Except ConfigError (γ × Stats)} (h : m.Follows r) (h' : m'.Follows r')
    (f : β → γ → δ) :
    Follows (m >>= fun b => m' >>= fun c => pure (f b c))
      (r >>= fun x => r' >>= fun y => pure (f x.1 y.1, x.2 + y.2)) := by
  have hb := h.bind fun b => h'.map (f b)
  cases r with
  | error e => exact hb
  | ok x =>
    cases r' with
    | error e => exact hb
    | ok y => exact hb

/-- Work that counts nothing is done first. -/
theorem Follows.lift {m : Except ConfigError β} {k : β → Sweep γ}
    {l : β → Except ConfigError (γ × Stats)} (hk : ∀ b, (k b).Follows (l b)) :
    Follows (liftM m >>= k) (m >>= l) := by
  cases m with
  | error e =>
      constructor
      · intro c n h
        cases h
      · intro e' h s
        obtain rfl : e = e' := Except.error.inj h
        rfl
  | ok b => exact hk b

theorem follows_count (n : Stats) (b : β) :
    Follows (count n >>= fun _ => pure b) (.ok (b, n)) := by
  constructor
  · intro b' n' h s
    cases h
    rfl
  · intro e h
    cases h

theorem Follows.enabled (o : Options) (as : List Attribute) {m : Sweep β}
    {r : Except ConfigError (β × Stats)} (h : m.Follows r) (b : β) (n : Stats) :
    Follows (do if ← enabled o as then m else do count n; pure b)
      (do if ← enabled o as then r else pure (b, n)) := by
  refine Follows.lift fun holds => ?_
  cases holds with
  | true => exact h
  | false => exact follows_count n b

end Sweep

end Config

/-! ### Sweeping a pattern -/

open Config Config.Sweep

theorem follows_sweepRest (o : Options) (hasRest : Bool) (as : List Attribute) :
    Follows (sweepRest o hasRest as) (configureRest o hasRest as) := by
  cases hasRest with
  | false => exact follows_pure (false, as)
  | true => exact (follows_pure (true, settled as)).enabled o as (false, []) .oneRest

-- One lemma for each function of the sweep: `map` where it goes on below, `pair` where one part
-- comes after another, and `enabled` where conditions decide whether it goes on at all.
mutual

/-- Sweeping a pattern follows configuring it. -/
theorem Pattern.follows_sweep (o : Options) (p : Pattern) : Follows (p.sweep o) (p.configure o) := by
  match p with
  | .literal v m s => exact follows_pure (Pattern.literal v m s)
  | .wildcard s => exact follows_pure (Pattern.wildcard s)
  | .range l u e s => exact follows_pure (Pattern.range l u e s)
  | .ident x r m bind s =>
      exact (Pattern.follows_sweepOption o bind).map fun bind => Pattern.ident x r m bind s
  | .reference inner a m s =>
      exact (Pattern.follows_sweep o inner).map fun inner => Pattern.reference inner a m s
  | .struct path elems =>
      exact (Elements.follows_sweep o elems).map fun elems => Pattern.struct path elems
  | .tupleStruct path items =>
      exact (Items.follows_sweepOption o items).map fun items => Pattern.tupleStruct path items
  | .tuple items s =>
      exact (Items.follows_sweepOption o items).map fun items => Pattern.tuple items s
  | .grouped inner s =>
      exact (Pattern.follows_sweep o inner).map fun inner => Pattern.grouped inner s
  | .slice items s =>
      exact (Pattern.follows_sweepAll o items).map fun items => Pattern.slice items s

theorem Pattern.follows_sweepAll (o : Options) (ps : List Pattern) :
    Follows (Pattern.sweepAll o ps) (Pattern.configureAll o ps) := by
  match ps with
  | [] => exact follows_pure []
  | p :: ps =>
      exact (Pattern.follows_sweep o p).pair (Pattern.follows_sweepAll o ps) fun p ps => p :: ps

theorem Pattern.follows_sweepOption (o : Options) (p : Option Pattern) :
    Follows (Pattern.sweepOption o p) (Pattern.configureOption o p) := by
  match p with
  | none => exact follows_pure none
  | some p => exact (Pattern.follows_sweep o p).map some

theorem Elements.follows_sweep (o : Options) (e : Elements) :
    Follows (e.sweep o) (e.configure o) := by
  match e with
  | ⟨fields, hasRest, restAttrs⟩ =>
      exact (Field.follows_sweepAll o fields).pair (follows_sweepRest o hasRest restAttrs)
        fun fields r => Elements.mk fields r.1 r.2

theorem Field.follows_sweep (o : Options) (f : Field) : Follows (f.sweep o) (f.configure o) := by
  match f with
  | .indexed i none as s => exact follows_pure (Field.indexed i none as s)
  | .indexed i (some p) as s =>
      have hp := (Pattern.follows_sweep o p).map fun p => Field.indexed i (some p) (settled as) s
      exact hp.enabled o as (.indexed i none as s) .oneField
  | .named x none as s => exact follows_pure (Field.named x none as s)
  | .named x (some p) as s =>
      have hp := (Pattern.follows_sweep o p).map fun p => Field.named x (some p) (settled as) s
      exact hp.enabled o as (.named x none as s) .oneField
  | .shorthand x r m as s =>
      rw [Field.sweep, Field.configure]
      cases x.isEmpty with
      | true => exact follows_pure (Field.shorthand x r m as s)
      | false =>
          have hf := follows_pure (Field.shorthand x r m (settled as) s)
          exact hf.enabled o as (.shorthand .empty r m as s) .oneField

theorem Field.follows_sweepAll (o : Options) (fs : List Field) :
    Follows (Field.sweepAll o fs) (Field.configureAll o fs) := by
  match fs with
  | [] => exact follows_pure []
  | f :: fs =>
      exact (Field.follows_sweep o f).pair (Field.follows_sweepAll o fs) fun f fs => f :: fs

theorem Items.follows_sweep (o : Options) (items : Items) :
    Follows (items.sweep o) (items.configure o) := by
  match items with
  | .flat patterns s =>
      exact (Pattern.follows_sweepAll o patterns).map fun patterns => Items.flat patterns s
  | .ranged lower upper s =>
      exact (Pattern.follows_sweepAll o lower).pair (Pattern.follows_sweepAll o upper)
        fun lower upper => Items.ranged lower upper s

theorem Items.follows_sweepOption (o : Options) (items : Option Items) :
    Follows (Items.sweepOption o items) (Items.configureOption o items) := by
  match items with
  | none => exact follows_pure none
  | some items => exact (Items.follows_sweep o items).map some

end

/-! ### A pass -/

/-- What becomes of a pattern that is configured on its own. -/
def Config.Outcome.alone (o : Options) (p : Pattern) : Outcome :=
  match p.configure o with
  | .ok (q, _) => ⟨q, none⟩
  | .error e => ⟨p, some e⟩

/-- What a pattern that is configured on its own loses, if it can be configured. -/
def Pattern.lossAlone? (o : Options) (p : Pattern) : Option Stats :=
  match p.configure o with
  | .ok (_, n) => some n
  | .error _ => none

/-- The counts of the patterns that can be configured on their own. -/
def Config.lossesAlone (o : Options) (ps : List Pattern) : List Stats :=
  ps.filterMap (Pattern.lossAlone? o)

namespace Config.Pass

/-- **One step of a pass**: whatever was counted before, a pattern fares as it does alone. -/
theorem run_eq (pass : Pass) (p : Pattern) :
    pass.run p = (Outcome.alone pass.options p,
      { pass with stats := pass.stats + (lossesAlone pass.options [p]).sum }) := by
  have hf := Pattern.follows_sweep pass.options p
  cases hc : p.configure pass.options with
  | ok x =>
      obtain ⟨q, n⟩ := x
      have hn : (lossesAlone pass.options [p]).sum = n := by
        simp [lossesAlone, Pattern.lossAlone?, hc]
      rw [run, hf.ok hc, Outcome.alone, hc, hn]
  | error e =>
      have hn : (lossesAlone pass.options [p]).sum = 0 := by
        simp [lossesAlone, Pattern.lossAlone?, hc]
      have he := hf.error hc pass.stats
      rw [Outcome.alone, hc, hn, Stats.add_zero, run]
      cases hm : p.sweep pass.options pass.stats with
      | mk x s =>
          rw [hm] at he
          obtain rfl : x = .error e := he
          rfl

theorem lossesAlone_cons (o : Options) (p : Pattern) (ps : List Pattern) :
    (lossesAlone o (p :: ps)).sum = (lossesAlone o [p]).sum + (lossesAlone o ps).sum := by
  have h : lossesAlone o (p :: ps) = lossesAlone o [p] ++ lossesAlone o ps :=
    List.filterMap_append (l := [p])
  rw [h, List.sum_append]

/-- A run of a pass: every pattern fares as it does alone, and the counts of those that can be
configured are added up. -/
theorem runAll_eq (pass : Pass) (ps : List Pattern) :
    pass.runAll ps = (ps.map (Outcome.alone pass.options),
      { pass with stats := pass.stats + (lossesAlone pass.options ps).sum }) := by
  -- every step hands on another count, so the induction is for all passes
  induction ps generalizing pass with
  | nil =>
      have h : (lossesAlone pass.options []).sum = 0 := rfl
      rw [runAll, h, Stats.add_zero, List.map_nil]
  | cons p ps ih =>
      simp only [runAll, run_eq, ih, List.map_cons, lossesAlone_cons pass.options p ps,
        Stats.add_assoc]

end Config.Pass

instance : Std.Commutative (α := Stats) (· + ·) := ⟨Stats.add_comm⟩

/-- A component of a sum of counts, as a number, if that does not need more than 64 bits. -/
theorem Config.Stats.toNat_sum (part : Stats → UInt64) (zero : part 0 = 0)
    (add : ∀ a b, part (a + b) = part a + part b) {ns : List Stats}
    (h : (ns.map fun n => (part n).toNat).sum < 2 ^ 64) :
    (part ns.sum).toNat = (ns.map fun n => (part n).toNat).sum := by
  induction ns with
  | nil => rw [List.sum_nil, zero]; rfl
  | cons n ns ih =>
      rw [List.map_cons, List.sum_cons] at h ⊢
      have hns : (ns.map fun n => (part n).toNat).sum < 2 ^ 64 := by omega
      rw [List.sum_cons, add, UInt64.toNat_add, ih hns]
      exact Nat.mod_eq_of_lt h

/-- **A pass over several patterns.**  Every pattern fares as it does alone, whatever came before it;
the counts at the end are those of the patterns that could be configured; and in another order
every pattern has the same outcome and the counts are the same. -/
theorem Config.Pass.runAll_start (o : Options) (ps : List Pattern) :
    ((start o).runAll ps).1 = ps.map (Outcome.alone o) ∧
    ((start o).runAll ps).2 = ⟨o, (lossesAlone o ps).sum⟩ ∧
    (((lossesAlone o ps).map fun n => n.fields.toNat).sum < 2 ^ 64 →
      ((start o).runAll ps).2.stats.fields.toNat =
        ((lossesAlone o ps).map fun n => n.fields.toNat).sum) ∧
    (((lossesAlone o ps).map fun n => n.rests.toNat).sum < 2 ^ 64 →
      ((start o).runAll ps).2.stats.rests.toNat =
        ((lossesAlone o ps).map fun n => n.rests.toNat).sum) ∧
    ∀ ps', ps.Perm ps' →
      ((start o).runAll ps').2 = ((start o).runAll ps).2 ∧
      (ps'.zip ((start o).runAll ps').1).Perm (ps.zip ((start o).runAll ps).1) := by
  have hrun : ∀ qs, (start o).runAll qs =
      (qs.map (Outcome.alone o), ⟨o, (lossesAlone o qs).sum⟩) := by
    intro qs
    rw [runAll_eq, start, Stats.zero_add]
  rw [hrun ps]
  refine ⟨rfl, rfl, Stats.toNat_sum _ rfl fun _ _ => rfl, Stats.toNat_sum _ rfl fun _ _ => rfl, ?_⟩
  intro ps' hp
  rw [hrun ps']
  constructor
  · have hlosses : (lossesAlone o ps').Perm (lossesAlone o ps) := hp.symm.filterMap _
    have hsum : (lossesAlone o ps').sum = (lossesAlone o ps).sum := by
      rw [List.sum_eq_foldr, List.sum_eq_foldr]
      exact hlosses.foldr_op_eq
    rw [hsum]
  · -- next to its outcome, a pattern is a function of itself
    rw [← List.map_prod_left_eq_zip, ← List.map_prod_left_eq_zip]
    exact hp.symm.map _

/-- A pattern that loses a field before its second field turns out to make no sense. -/
def Pattern.lateDefect : Pattern :=
  .braces ⟨[
    .shorthand ⟨"x"⟩ false false [.condition "windows"] .dummy,
    .shorthand ⟨"y"⟩ false false [.word "cfg"] .dummy], true, []⟩

theorem Config.Pass.runAll_lateDefect :
    [Pattern.sample, .lateDefect].Perm [.lateDefect, .sample] ∧
      ((start ⟨{"unix"}, ∅⟩).runAll [.sample, .lateDefect]).1 =
        [⟨.sampleOnUnix, none⟩, ⟨.lateDefect, some (.malformedAttribute "#[cfg]")⟩] ∧
      ((start ⟨{"unix"}, ∅⟩).runAll [.sample, .lateDefect]).2.stats.fields.toNat = 2 ∧
      ((start ⟨{"unix"}, ∅⟩).runAll [.sample, .lateDefect]).2.stats.rests.toNat = 1 ∧
      ((start ⟨{"unix"}, ∅⟩).runAll [.lateDefect, .sample]).2 = ⟨⟨{"unix"}, ∅⟩, ⟨2, 1⟩⟩ := by
  obtain ⟨houtcomes, hstats, hfields, hrests, hperm⟩ :=
    runAll_start ⟨{"unix"}, ∅⟩ [.sample, .lateDefect]
  have hswap : [Pattern.sample, .lateDefect].Perm [.lateDefect, .sample] := List.Perm.swap ..
  refine ⟨hswap, houtcomes, hfields (by decide), hrests (by decide), ?_⟩
  exact (hperm _ hswap).1.trans hstats

end SurfaceTree
