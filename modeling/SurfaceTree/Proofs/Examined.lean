/-
What a configuration looks at, and what it answers.

`Pattern.configure` reads conditions, changes the tree and counts in one go, and stops as soon as
an attribute makes no sense.  Here the three are taken apart.  What is looked at is a list of
attributes, what is left is a tree and what is lost is a list of counts, each of them a total
function of the pattern; the configuration answers with the first defect in the list, or with the
tree and the sum of the counts.

Main definitions:

* `Config.refutes`, `Config.defect?` — an attribute states a false condition, or makes no sense;
* `Config.examined` — the attributes of a list up to the first that states a false condition;
* `Field.settle`, `Elements.settle`, `Pattern.settle` — **what is to be left** of a field, between
  the braces of a pattern, and of a whole pattern;
* `Pattern.examined`, `Pattern.losses` — what is looked at in a pattern, and what it loses;
* `Config.verdict` — the first defect, or else a result with its counts.

Main results:

* `Config.enabled_bind` — conditions are read up to the first that is false;
* `Pattern.settle_struct`, `Pattern.settle_of_elements?_eq_none`, `Field.settle_mapPattern` — what
  is to be left, from the outside in;
* `Pattern.configure_eq` — **the answer of a configuration**, for every pattern.
-/

import SurfaceTree.Config.Configure
import SurfaceTree.Proofs.Everywhere

set_option relaxedAutoImplicit false
set_option autoImplicit false

namespace SurfaceTree

namespace Config

/-! ### Single attributes -/

/-- An attribute states a condition, and the condition is false. -/
def refutes (o : Options) (a : Attribute) : Bool :=
  match Predicate.ofAttribute a with
  | .ok (some p) => !p.holds o
  | .ok none | .error _ => false

/-- Why an attribute makes no sense, if it does not. -/
def defect? (a : Attribute) : Option ConfigError :=
  match Predicate.ofAttribute a with
  | .error e => some e
  | .ok _ => none

theorem defect?_eq_some_iff {a : Attribute} {e : ConfigError} :
    defect? a = some e ↔ Predicate.ofAttribute a = .error e := by
  unfold defect?
  cases Predicate.ofAttribute a <;> simp

theorem defect?_eq_none_iff {a : Attribute} :
    defect? a = none ↔ ∃ r, Predicate.ofAttribute a = .ok r := by
  unfold defect?
  cases Predicate.ofAttribute a <;> simp

/-! ### Lists of attributes -/

/-- The attributes of a list that are looked at: all up to the first that states a false
condition, and that one too. -/
def examined (o : Options) : List Attribute → List Attribute
  | [] => []
  | a :: as => a :: if refutes o a then [] else examined o as

/-- The first defect among some attributes. -/
def firstDefect? (as : List Attribute) : Option ConfigError := as.findSome? defect?

theorem firstDefect?_append (as bs : List Attribute) :
    firstDefect? (as ++ bs) = (firstDefect? as).or (firstDefect? bs) := List.findSome?_append

theorem firstDefect?_eq_some_iff {as : List Attribute} {e : ConfigError} :
    firstDefect? as = some e ↔
      ∃ before a after, as = before ++ a :: after ∧
        (∀ b ∈ before, ∃ r, Predicate.ofAttribute b = .ok r) ∧
        Predicate.ofAttribute a = .error e := by
  simp only [firstDefect?, List.findSome?_eq_some_iff, defect?_eq_some_iff, defect?_eq_none_iff,
    and_comm]

theorem firstDefect?_eq_none_iff {as : List Attribute} :
    firstDefect? as = none ↔ ∀ a ∈ as, ∃ r, Predicate.ofAttribute a = .ok r := by
  simp only [firstDefect?, List.findSome?_eq_none_iff, defect?_eq_none_iff]

/-- What is to be done after some conditions is done unless one of them makes no sense, and it is
told whether they all hold. -/
theorem enabled_bind {β : Type} (o : Options) (as : List Attribute)
    (next : Bool → Except ConfigError β) :
    enabled o as >>= next =
      (firstDefect? (examined o as)).elim (next !as.any (refutes o)) .error := by
  induction as with
  | nil => rfl
  | cons a as ih =>
      cases ha : Predicate.ofAttribute a with
      | error e => simp [enabled, examined, firstDefect?, defect?, ha, bind, Except.bind]
      | ok p =>
          cases p with
          | none =>
              -- an attribute of another name is looked at and passed over
              have hr : refutes o a = false := by rw [refutes, ha]
              have hd : defect? a = none := by rw [defect?, ha]
              simpa [enabled, examined, firstDefect?, ha, hr, hd, bind, Except.bind] using ih
          | some p =>
              have hr : refutes o a = !p.holds o := by rw [refutes, ha]
              have hd : defect? a = none := by rw [defect?, ha]
              cases hp : p.holds o with
              | true =>
                  simpa [enabled, examined, firstDefect?, ha, hr, hd, hp, bind, Except.bind]
                    using ih
              | false =>
                  -- nothing after a false condition is looked at
                  simp [enabled, examined, firstDefect?, ha, hr, hd, hp, bind, Except.bind]
                  rfl

end Config

open Config

/-! ### What is to be left -/

namespace Field

@[simp] theorem attrs_withAttrs (f : Field) (as : List Attribute) :
    (f.withAttrs as).attrs = as := by
  cases f <;> rfl

@[simp] theorem withAttrs_attrs (f : Field) : f.withAttrs f.attrs = f := by
  cases f <;> rfl

@[simp] theorem pattern?_withAttrs (f : Field) (as : List Attribute) :
    (f.withAttrs as).pattern? = f.pattern? := by
  cases f <;> rfl

@[simp] theorem pattern?_strip (f : Field) : f.strip.pattern? = none := by
  cases f <;> rfl

end Field

/-- **What is to be left of a field**, its pattern apart: a slot stays a slot, a field with a false
condition becomes one, and any other field loses the attributes that state conditions. -/
def Field.settle (o : Options) (f : Field) : Field :=
  if f.isStripped then f
  else if f.attrs.any (refutes o) then f.strip
  else f.withAttrs (settled f.attrs)

/-- **What is to be left between the braces of a pattern**: each field in its place, and the rest
marker unless one of its conditions is false. -/
def Elements.settle (o : Options) (e : Elements) : Elements :=
  let e' := { e with fields := e.fields.map (Field.settle o) }
  if !e.hasRest then e'
  else if e.restAttrs.any (refutes o) then e'.stripRest
  else { e' with restAttrs := settled e.restAttrs }

@[simp] theorem Elements.fields_settle (o : Options) (e : Elements) :
    (e.settle o).fields = e.fields.map (Field.settle o) := by
  unfold Elements.settle
  split
  · rfl
  · split <;> rfl

/-- **What is to be left of a pattern**: the same everywhere, and nothing else changed. -/
def Pattern.settle (o : Options) (p : Pattern) : Pattern := p.mapElements (Elements.settle o)

/-- Between the braces everything is settled by the same rule, further down first. -/
theorem Pattern.settle_struct (o : Options) (path : ExprPath) (e : Elements) :
    (Pattern.struct path e).settle o =
      .struct path ((e.mapPatterns (Pattern.settle o)).settle o) :=
  Pattern.mapElements_eq (Elements.settle o) (.struct path e)

/-- A pattern without braces stays as it is, and its sub-patterns are settled in their places. -/
theorem Pattern.settle_of_elements?_eq_none (o : Options) {p : Pattern} (h : p.elements? = none) :
    p.settle o = p.mapChildren (Pattern.settle o) := by
  rw [settle, Pattern.mapElements_eq]
  cases p with
  | struct path e => cases h
  | _ => rfl

/-- A field whose pattern has been settled is settled by the attributes that it had before: its slot
does not show what was below. -/
theorem Field.settle_mapPattern (o : Options) (g : Pattern → Pattern) (f : Field) :
    (f.mapPattern g).settle o =
      if f.isStripped then f
      else if f.attrs.any (refutes o) then f.strip
      else (f.mapPattern g).withAttrs (settled f.attrs) := by
  have hs : (f.mapPattern g).isStripped = f.isStripped := by
    cases f <;> simp [mapPattern, isStripped]
  have hattrs : (f.mapPattern g).attrs = f.attrs := by cases f <;> rfl
  have hstrip : (f.mapPattern g).strip = f.strip := by cases f <;> rfl
  rw [Field.settle, hs, hattrs, hstrip]
  by_cases h : f.isStripped = true
  · rw [if_pos h, if_pos h]
    -- a slot has no pattern that could have been settled
    refine Field.mapPattern_eq_self fun c hc => ?_
    rw [Field.pattern?_of_isStripped h] at hc
    cases hc
  · rw [if_neg h, if_neg h]

/-! ### What is looked at and what is lost -/

/-- The attributes that are looked at.  A slot is passed over, and nothing below a field with a
false condition is looked at. -/
def Config.examining (o : Options) : Collector Attribute where
  atField f := if f.isStripped then [] else Config.examined o f.attrs
  enters f := !f.attrs.any (refutes o)
  atRest hasRest as := if hasRest then Config.examined o as else []

/-- One count for each field and each rest marker with a false condition.  What stands below such a
field is lost with it and does not count. -/
def Config.losing (o : Options) : Collector Stats where
  atField f := if !f.isStripped && f.attrs.any (refutes o) then [.oneField] else []
  enters f := !f.attrs.any (refutes o)
  atRest hasRest as := if hasRest && as.any (refutes o) then [.oneRest] else []

namespace Config

variable (o : Options) (f : Field)

theorem atField_examining :
    (examining o).atField f = if f.isStripped then [] else examined o f.attrs := rfl

theorem atRest_examining (hasRest : Bool) (as : List Attribute) :
    (examining o).atRest hasRest as = if hasRest then examined o as else [] := rfl

theorem atField_losing :
    (losing o).atField f =
      if !f.isStripped && f.attrs.any (refutes o) then [Stats.oneField] else [] := rfl

theorem atRest_losing (hasRest : Bool) (as : List Attribute) :
    (losing o).atRest hasRest as =
      if hasRest && as.any (refutes o) then [Stats.oneRest] else [] := rfl

theorem enters_examining : (examining o).enters f = !f.attrs.any (refutes o) := rfl

theorem enters_losing : (losing o).enters f = !f.attrs.any (refutes o) := rfl

end Config

/-- **The attributes of a pattern that are looked at**, in the order in which that is done. -/
def Pattern.examined (o : Options) (p : Pattern) : List Attribute := p.collect (examining o)

/-- What a pattern loses. -/
def Pattern.losses (o : Options) (p : Pattern) : List Stats := p.collect (losing o)

/-! ### Answers -/

namespace Config

instance : Std.Associative (α := Stats) (· + ·) := ⟨Stats.add_assoc⟩

instance : Std.LawfulLeftIdentity (α := Stats) (· + ·) 0 where
  left_id := Stats.zero_add

/-- The answer of a configuration that has looked at some attributes: the first defect among them,
or else what is left, with the sum of what is lost. -/
def verdict {β : Type} (seen : List Attribute) (left : β) (lost : List Stats) :
    Except ConfigError (β × Stats) :=
  (firstDefect? seen).elim (.ok (left, lost.sum)) .error

variable {β γ δ : Type}

@[simp] theorem verdict_nil (left : β) : verdict [] left [] = .ok (left, 0) := rfl

/-- Work on what is left is no reason for another answer. -/
theorem verdict_bind_pure (seen : List Attribute) (left : β) (lost : List Stats) (f : β → γ) :
    (verdict seen left lost >>= fun r => pure (f r.1, r.2)) = verdict seen (f left) lost := by
  unfold verdict
  cases firstDefect? seen <;> rfl

/-- One configuration after another looks at what both look at and loses what both lose. -/
theorem verdict_bind_verdict (seen seen' : List Attribute) (left : β) (left' : γ)
    (lost lost' : List Stats) (f : β → γ → δ) :
    (verdict seen left lost >>= fun r => verdict seen' left' lost' >>= fun r' =>
        pure (f r.1 r'.1, r.2 + r'.2)) =
      verdict (seen ++ seen') (f left left') (lost ++ lost') := by
  unfold verdict
  rw [firstDefect?_append, List.sum_append]
  cases firstDefect? seen with
  | some e => rfl
  | none => cases firstDefect? seen' <;> rfl

/-- A configuration under some conditions: if one of them is false, there is a loss instead. -/
theorem enabled_bind_verdict (o : Options) (as seen : List Attribute) (left : β)
    (lost : List Stats) (f : β → γ) (left' : γ) (n : Stats) :
    (enabled o as >>= fun b =>
        if b then verdict seen left lost >>= fun r => pure (f r.1, r.2) else pure (left', n)) =
      verdict (examined o as ++ if as.any (refutes o) then [] else seen)
        (if as.any (refutes o) then left' else f left)
        (if as.any (refutes o) then [n] else lost) := by
  rw [enabled_bind, verdict_bind_pure]
  unfold verdict
  rw [firstDefect?_append]
  cases firstDefect? (examined o as) with
  | some e => rfl
  | none =>
      cases as.any (refutes o) with
      | false => rfl
      | true =>
          change Except.ok (left', n) = Except.ok (left', n + 0)
          rw [Stats.add_zero]

end Config

/-! ### The answer, form by form -/

theorem configureRest_eq (o : Options) (hasRest : Bool) (as : List Attribute) :
    configureRest o hasRest as =
      verdict ((examining o).atRest hasRest as)
        (if !hasRest then (false, as)
          else if as.any (refutes o) then (false, []) else (true, settled as))
        ((losing o).atRest hasRest as) := by
  cases hasRest with
  | false => rfl
  | true =>
      refine (enabled_bind_verdict o as [] as [] (fun as => (true, settled as)) (false, [])
        .oneRest).trans ?_
      rw [ite_self, List.append_nil]
      rfl

/-- A slot is not looked at, stays as it is and loses nothing. -/
theorem Field.verdict_of_isStripped (o : Options) {f : Field} (h : f.isStripped = true) :
    verdict (f.collect (examining o)) (f.settle o) (f.collect (losing o)) = .ok (f, 0) := by
  have hp : f.pattern? = none := Field.pattern?_of_isStripped h
  have he : f.collect (examining o) = [] := by
    simp [Field.collect_eq, examining, h, hp, Pattern.collectOption]
  have hl : f.collect (losing o) = [] := by
    simp [Field.collect_eq, losing, h, hp, Pattern.collectOption]
  rw [he, hl, Field.settle, if_pos h, verdict_nil]

/-- A live field `f`, of which `g` is left when all below it has been done: its conditions decide
between the field and its slot. -/
theorem Field.verdict_of_live (o : Options) (f g : Field) (hf : f.isStripped = false)
    (hg : g.isStripped = false) (hattrs : g.attrs = f.attrs) :
    verdict (f.collect (examining o)) (g.settle o) (f.collect (losing o)) =
      verdict
        (Config.examined o f.attrs ++ if f.attrs.any (refutes o) then []
          else Pattern.collectOption (examining o) f.pattern?)
        (if f.attrs.any (refutes o) then g.strip else g.withAttrs (settled f.attrs))
        (if f.attrs.any (refutes o) then [Stats.oneField]
          else Pattern.collectOption (losing o) f.pattern?) := by
  rw [Field.collect_eq, Field.collect_eq, Field.settle, hattrs, atField_examining, atField_losing,
    enters_examining, enters_losing]
  cases hr : f.attrs.any (refutes o) <;> simp only [hf, hg] <;> rfl

mutual

/-- **The answer of a configuration**: the first defect among the attributes that are looked at, or
else what is to be left of the pattern, with the sum of what it loses. -/
theorem Pattern.configure_eq (o : Options) (p : Pattern) :
    p.configure o = verdict (p.examined o) (p.settle o) (p.losses o) := by
  match p with
  | .literal v m s => rfl
  | .wildcard s => rfl
  | .range l u e s => rfl
  | .ident x r m bind s =>
      rw [Pattern.configure, Pattern.configureOption_eq o bind]
      exact verdict_bind_pure _ _ _ fun bind => Pattern.ident x r m bind s
  | .reference inner a m s =>
      rw [Pattern.configure, Pattern.configure_eq o inner]
      exact verdict_bind_pure _ _ _ fun inner => Pattern.reference inner a m s
  | .struct path elems =>
      rw [Pattern.configure, Elements.configure_eq o elems]
      exact verdict_bind_pure _ _ _ fun elems => Pattern.struct path elems
  | .tupleStruct path items =>
      rw [Pattern.configure, Items.configureOption_eq o items]
      exact verdict_bind_pure _ _ _ fun items => Pattern.tupleStruct path items
  | .tuple items s =>
      rw [Pattern.configure, Items.configureOption_eq o items]
      exact verdict_bind_pure _ _ _ fun items => Pattern.tuple items s
  | .grouped inner s =>
      rw [Pattern.configure, Pattern.configure_eq o inner]
      exact verdict_bind_pure _ _ _ fun inner => Pattern.grouped inner s
  | .slice items s =>
      rw [Pattern.configure, Pattern.configureAll_eq o items]
      exact verdict_bind_pure _ _ _ fun items => Pattern.slice items s

theorem Pattern.configureAll_eq (o : Options) (ps : List Pattern) :
    Pattern.configureAll o ps =
      verdict (Pattern.collectAll (examining o) ps)
        (Pattern.mapElementsAll (Elements.settle o) ps) (Pattern.collectAll (losing o) ps) := by
  match ps with
  | [] => rfl
  | p :: ps =>
      rw [Pattern.configureAll, Pattern.configure_eq o p, Pattern.configureAll_eq o ps]
      exact verdict_bind_verdict _ _ _ _ _ _ fun p ps => p :: ps

theorem Pattern.configureOption_eq (o : Options) (p : Option Pattern) :
    Pattern.configureOption o p =
      verdict (Pattern.collectOption (examining o) p)
        (Pattern.mapElementsOption (Elements.settle o) p)
        (Pattern.collectOption (losing o) p) := by
  match p with
  | none => rfl
  | some p =>
      rw [Pattern.configureOption, Pattern.configure_eq o p]
      exact verdict_bind_pure _ _ _ some

theorem Elements.configure_eq (o : Options) (e : Elements) :
    e.configure o = verdict (e.collect (examining o))
      ((e.mapElements (Elements.settle o)).settle o) (e.collect (losing o)) := by
  match e with
  | ⟨fields, hasRest, restAttrs⟩ =>
      -- the fields come before the rest marker, and neither sees what the other leaves
      rw [Elements.configure, Field.configureAll_eq o fields, configureRest_eq]
      refine (verdict_bind_verdict _ _ _ _ _ _ fun fields (r : Bool × List Attribute) =>
        Elements.mk fields r.1 r.2).trans ?_
      rw [Elements.collect, Elements.collect, Elements.mapElements, Elements.settle]
      cases hasRest <;> cases restAttrs.any (refutes o) <;> rfl

theorem Field.configure_eq (o : Options) (f : Field) :
    f.configure o = verdict (f.collect (examining o))
      ((f.mapElements (Elements.settle o)).settle o) (f.collect (losing o)) := by
  match f with
  | .indexed i none as s => exact (Field.verdict_of_isStripped o rfl).symm
  | .indexed i (some p) as s =>
      rw [Field.configure, Pattern.configure_eq o p]
      refine Eq.trans ?_ (Field.verdict_of_live o (.indexed i (some p) as s)
        (.indexed i (some (p.settle o)) as s) rfl rfl rfl).symm
      exact enabled_bind_verdict o as _ _ _ (fun p => Field.indexed i (some p) (settled as) s) _ _
  | .named x none as s => exact (Field.verdict_of_isStripped o rfl).symm
  | .named x (some p) as s =>
      rw [Field.configure, Pattern.configure_eq o p]
      refine Eq.trans ?_ (Field.verdict_of_live o (.named x (some p) as s)
        (.named x (some (p.settle o)) as s) rfl rfl rfl).symm
      exact enabled_bind_verdict o as _ _ _ (fun p => Field.named x (some p) (settled as) s) _ _
  | .shorthand x r m as s =>
      rw [Field.configure]
      -- the short form has no pattern, and its name tells whether it is a slot
      cases hx : x.isEmpty with
      | true =>
          have hs : (Field.shorthand x r m as s).isStripped = true := hx
          exact (Field.verdict_of_isStripped o hs).symm
      | false =>
          refine Eq.trans ?_ (Field.verdict_of_live o (.shorthand x r m as s)
            (.shorthand x r m as s) hx hx rfl).symm
          exact enabled_bind_verdict o as [] as []
            (fun as => Field.shorthand x r m (settled as) s) _ _

theorem Field.configureAll_eq (o : Options) (fs : List Field) :
    Field.configureAll o fs =
      verdict (Field.collectAll (examining o) fs)
        ((Field.mapElementsAll (Elements.settle o) fs).map (Field.settle o))
        (Field.collectAll (losing o) fs) := by
  match fs with
  | [] => rfl
  | f :: fs =>
      rw [Field.configureAll, Field.configure_eq o f, Field.configureAll_eq o fs]
      exact verdict_bind_verdict _ _ _ _ _ _ fun f fs => f :: fs

theorem Items.configure_eq (o : Options) (items : Items) :
    items.configure o = verdict (items.collect (examining o))
      (items.mapElements (Elements.settle o)) (items.collect (losing o)) := by
  match items with
  | .flat patterns s =>
      rw [Items.configure, Pattern.configureAll_eq o patterns]
      exact verdict_bind_pure _ _ _ fun patterns => Items.flat patterns s
  | .ranged lower upper s =>
      rw [Items.configure, Pattern.configureAll_eq o lower, Pattern.configureAll_eq o upper]
      exact verdict_bind_verdict _ _ _ _ _ _ fun lower upper => Items.ranged lower upper s

theorem Items.configureOption_eq (o : Options) (items : Option Items) :
    Items.configureOption o items =
      verdict (Items.collectOption (examining o) items)
        (Items.mapElementsOption (Elements.settle o) items)
        (Items.collectOption (losing o) items) := by
  match items with
  | none => rfl
  | some items =>
      rw [Items.configureOption, Items.configure_eq o items]
      exact verdict_bind_pure _ _ _ some

end

end SurfaceTree
