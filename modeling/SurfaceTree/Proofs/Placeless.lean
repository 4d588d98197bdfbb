/-
Spans and tags do not bear on what a tree means.

They are not written, no condition reads them, and no bound depends on them.  So what becomes of a
tree without its spans and tags is what becomes of the tree itself, up to spans and tags; and what
becomes of two trees that differ in nothing else differs in nothing else.

Main results:

* `Config.Predicate.ofMeta_unplaced`, `Config.enabled_map_unplaced` — conditions are read alike;
* `Pattern.configure_unplaced` — configuring commutes with taking spans and tags away;
* `Ty.asBound?_unplaced` — so does reading a type as a bound;
* `spans_and_tags_mean_nothing` — **patterns and types that differ in spans and tags only mean the
  same**.
-/

import SurfaceTree.Config.Configure
import SurfaceTree.Proofs.Unplaced
import SurfaceTree.Ty.Bound

set_option relaxedAutoImplicit false
set_option autoImplicit false

namespace SurfaceTree

/-! ### Conditions -/

@[simp] theorem MetaItem.path?_unplaced (m : MetaItem) : m.unplaced.path? = m.path? := by
  cases m <;> rfl

@[simp] theorem Attribute.hasName_unplaced (a : Attribute) (name : String) :
    a.unplaced.hasName name = a.hasName name := by
  rw [hasName, hasName, unplaced, MetaItem.path?_unplaced]

namespace Config

namespace Predicate

mutual

/-- A condition is read alike without spans. -/
@[simp] theorem ofMeta_unplaced (m : MetaItem) : ofMeta m.unplaced = ofMeta m := by
  match m with
  | .word p => rfl
  | .nameValue p v => rfl
  | .list p ms => simp only [MetaItem.unplaced, ofMeta, ofMetas_unplacedAll ms]
  | .literal v => rfl

@[simp] theorem ofMetas_unplacedAll (ms : List MetaItem) :
    ofMetas (MetaItem.unplacedAll ms) = ofMetas ms := by
  match ms with
  | [] => rfl
  | m :: ms =>
      simp only [MetaItem.unplacedAll, ofMetas, ofMeta_unplaced m, ofMetas_unplacedAll ms]

end

@[simp] theorem ofAttribute_unplaced (a : Attribute) :
    ofAttribute a.unplaced = ofAttribute a := by
  obtain ⟨item, span⟩ := a
  have hname : (Attribute.mk item span).unplaced.hasName attributeName =
      (Attribute.mk item span).hasName attributeName := Attribute.hasName_unplaced _ _
  have htext : (Attribute.mk item span).unplaced.render = (Attribute.mk item span).render :=
    Attribute.render_unplaced _
  rw [ofAttribute, ofAttribute, hname, htext]
  match item with
  | .list p [m] => simp only [Attribute.unplaced, MetaItem.unplaced, MetaItem.unplacedAll,
      ofMeta_unplaced]
  | .list p [] | .list p (_ :: _ :: _) | .word p | .nameValue p v | .literal v => rfl

end Predicate

@[simp] theorem enabled_map_unplaced (o : Options) (as : List Attribute) :
    enabled o (as.map Attribute.unplaced) = enabled o as := by
  induction as with
  | nil => rfl
  | cons a as ih => simp only [List.map_cons, enabled, Predicate.ofAttribute_unplaced, ih]

@[simp] theorem settled_map_unplaced (as : List Attribute) :
    settled (as.map Attribute.unplaced) = (settled as).map Attribute.unplaced := by
  have hname : ((fun a => !a.hasName Predicate.attributeName) ∘ Attribute.unplaced) =
      fun a => !a.hasName Predicate.attributeName := by
    funext a
    rw [Function.comp_apply, Attribute.hasName_unplaced]
  rw [settled, settled, List.filter_map, hname]

theorem configureRest_map_unplaced (o : Options) (hasRest : Bool) (as : List Attribute) :
    configureRest o hasRest (as.map Attribute.unplaced) =
      (configureRest o hasRest as).map fun r => ((r.1.1, r.1.2.map Attribute.unplaced), r.2) := by
  cases hasRest with
  | false => rfl
  | true =>
      rw [configureRest, configureRest, enabled_map_unplaced, settled_map_unplaced]
      cases enabled o as with
      | error e => rfl
      | ok b => cases b <;> rfl

end Config

/-! ### Configuring -/

open Config

mutual

/-- **Configuring commutes with taking spans and tags away.** -/
theorem Pattern.configure_unplaced (o : Options) (p : Pattern) :
    p.unplaced.configure o = (p.configure o).map fun r => (r.1.unplaced, r.2) := by
  match p with
  | .literal v m s => rfl
  | .ident x r m bind s =>
      rw [Pattern.unplaced, Pattern.configure, Pattern.configure,
        Pattern.configureOption_unplacedOption o bind]
      cases Pattern.configureOption o bind <;> rfl
  | .wildcard s => rfl
  | .range l u e s => rfl
  | .reference inner a m s =>
      rw [Pattern.unplaced, Pattern.configure, Pattern.configure,
        Pattern.configure_unplaced o inner]
      cases inner.configure o <;> rfl
  | .struct path elems =>
      rw [Pattern.unplaced, Pattern.configure, Pattern.configure,
        Elements.configure_unplaced o elems]
      cases elems.configure o <;> rfl
  | .tupleStruct path items =>
      rw [Pattern.unplaced, Pattern.configure, Pattern.configure,
        Items.configureOption_unplacedOption o items]
      cases Items.configureOption o items <;> rfl
  | .tuple items s =>
      rw [Pattern.unplaced, Pattern.configure, Pattern.configure,
        Items.configureOption_unplacedOption o items]
      cases Items.configureOption o items <;> rfl
  | .grouped inner s =>
      rw [Pattern.unplaced, Pattern.configure, Pattern.configure,
        Pattern.configure_unplaced o inner]
      cases inner.configure o <;> rfl
  | .slice items s =>
      rw [Pattern.unplaced, Pattern.configure, Pattern.configure,
        Pattern.configureAll_unplacedAll o items]
      cases Pattern.configureAll o items <;> rfl

theorem Pattern.configureAll_unplacedAll (o : Options) (ps : List Pattern) :
    Pattern.configureAll o (Pattern.unplacedAll ps) =
      (Pattern.configureAll o ps).map fun r => (Pattern.unplacedAll r.1, r.2) := by
  match ps with
  | [] => rfl
  | p :: ps =>
      rw [Pattern.unplacedAll, Pattern.configureAll, Pattern.configureAll,
        Pattern.configure_unplaced o p, Pattern.configureAll_unplacedAll o ps]
      cases p.configure o with
      | error e => rfl
      | ok r => cases Pattern.configureAll o ps <;> rfl

theorem Pattern.configureOption_unplacedOption (o : Options) (p : Option Pattern) :
    Pattern.configureOption o (Pattern.unplacedOption p) =
      (Pattern.configureOption o p).map fun r => (Pattern.unplacedOption r.1, r.2) := by
  match p with
  | none => rfl
  | some p =>
      rw [Pattern.unplacedOption, Pattern.configureOption, Pattern.configureOption,
        Pattern.configure_unplaced o p]
      cases p.configure o <;> rfl

theorem Elements.configure_unplaced (o : Options) (e : Elements) :
    e.unplaced.configure o = (e.configure o).map fun r => (r.1.unplaced, r.2) := by
  match e with
  | ⟨fields, hasRest, restAttrs⟩ =>
      rw [Elements.unplaced, Elements.configure, Elements.configure,
        Field.configureAll_unplacedAll o fields, configureRest_map_unplaced]
      cases Field.configureAll o fields with
      | error e => rfl
      | ok r => cases configureRest o hasRest restAttrs <;> rfl

theorem Field.configure_unplaced (o : Options) (f : Field) :
    f.unplaced.configure o = (f.configure o).map fun r => (r.1.unplaced, r.2) := by
  match f with
  | .indexed i none as s => rfl
  | .indexed i (some p) as s =>
      rw [Field.unplaced, Pattern.unplacedOption, Field.configure, Field.configure,
        enabled_map_unplaced, settled_map_unplaced, Pattern.configure_unplaced o p]
      cases enabled o as with
      | error e => rfl
      | ok b =>
          cases b with
          | false => rfl
          | true => cases p.configure o <;> rfl
  | .named x none as s => rfl
  | .named x (some p) as s =>
      rw [Field.unplaced, Pattern.unplacedOption, Field.configure, Field.configure,
        enabled_map_unplaced, settled_map_unplaced, Pattern.configure_unplaced o p]
      cases enabled o as with
      | error e => rfl
      | ok b =>
          cases b with
          | false => rfl
          | true => cases p.configure o <;> rfl
  | .shorthand x r m as s =>
      rw [Field.unplaced, Field.configure, Field.configure, enabled_map_unplaced,
        settled_map_unplaced]
      cases x.isEmpty with
      | true => rfl
      | false =>
          cases enabled o as with
          | error e => rfl
          | ok b => cases b <;> rfl

theorem Field.configureAll_unplacedAll (o : Options) (fs : List Field) :
    Field.configureAll o (Field.unplacedAll fs) =
      (Field.configureAll o fs).map fun r => (Field.unplacedAll r.1, r.2) := by
  match fs with
  | [] => rfl
  | f :: fs =>
      rw [Field.unplacedAll, Field.configureAll, Field.configureAll,
        Field.configure_unplaced o f, Field.configureAll_unplacedAll o fs]
      cases f.configure o with
      | error e => rfl
      | ok r => cases Field.configureAll o fs <;> rfl

theorem Items.configure_unplaced (o : Options) (items : Items) :
    items.unplaced.configure o = (items.configure o).map fun r => (r.1.unplaced, r.2) := by
  match items with
  | .flat ps s =>
      rw [Items.unplaced, Items.configure, Items.configure, Pattern.configureAll_unplacedAll o ps]
      cases Pattern.configureAll o ps <;> rfl
  | .ranged ls us s =>
      rw [Items.unplaced, Items.configure, Items.configure, Pattern.configureAll_unplacedAll o ls,
        Pattern.configureAll_unplacedAll o us]
      cases Pattern.configureAll o ls with
      | error e => rfl
      | ok r => cases Pattern.configureAll o us <;> rfl

theorem Items.configureOption_unplacedOption (o : Options) (items : Option Items) :
    Items.configureOption o (Items.unplacedOption items) =
      (Items.configureOption o items).map fun r => (Items.unplacedOption r.1, r.2) := by
  match items with
  | none => rfl
  | some items =>
      rw [Items.unplacedOption, Items.configureOption, Items.configureOption,
        Items.configure_unplaced o items]
      cases items.configure o <;> rfl

end

/-! ### Bounds -/

theorem TypePath.asBound_unplaced (p : TypePath) (inParens : Bool) :
    p.unplaced.asBound inParens = (p.asBound inParens).unplaced := by
  cases p
  rfl

mutual

theorem OperandTy.asBound?_unplaced (t : OperandTy) (inParens : Bool) :
    t.unplaced.asBound? inParens = (t.asBound? inParens).map TraitBound.unplaced := by
  match t with
  | .paren inner s =>
      rw [OperandTy.unplaced, OperandTy.asBound?, OperandTy.asBound?, Ty.asBound?_unplaced inner]
  | .objectOne bound hasDyn s =>
      cases bound
      rfl
  | .path p =>
      rw [OperandTy.unplaced, OperandTy.asBound?, OperandTy.asBound?, TypePath.asBound_unplaced,
        Option.map_some]
  | .implOne _ _ | .qualified _ | .tuple _ _ | .never _ | .pointer _ _ _ | .reference _ _ _ _
  | .array _ _ _ | .slice _ _ | .inferred _ | .function _ _ _ _ _ _ => rfl

/-- **Reading a type as a bound commutes with taking spans and tags away.** -/
theorem Ty.asBound?_unplaced (t : Ty) (inParens : Bool) :
    t.unplaced.asBound? inParens = (t.asBound? inParens).map TraitBound.unplaced := by
  match t with
  | .operand t => exact OperandTy.asBound?_unplaced t inParens
  | .implTrait _ _ | .traitObject _ _ _ => rfl

end

/-! ### Trees that differ in spans and tags only -/

theorem Pattern.Alike.render_eq {p q : Pattern} (h : p.Alike q) : p.render = q.render :=
  calc
    p.render = p.unplaced.render := p.render_unplaced.symm
    _ = q.unplaced.render := by rw [h]
    _ = q.render := q.render_unplaced

theorem Ty.Alike.render_eq {t u : Ty} (h : t.Alike u) : t.render = u.render :=
  calc
    t.render = t.unplaced.render := t.render_unplaced.symm
    _ = u.unplaced.render := by rw [h]
    _ = u.render := u.render_unplaced

/-- Two patterns that are alike are configured alike: both fail for the same reason, or the same is
stripped from both and what they become is alike. -/
theorem Pattern.Alike.configure {p q : Pattern} (h : p.Alike q) (o : Options) :
    (∃ e, p.configure o = .error e ∧ q.configure o = .error e) ∨
      ∃ p' q' n, p.configure o = .ok (p', n) ∧ q.configure o = .ok (q', n) ∧ p'.Alike q' := by
  have hmap : (p.configure o).map (fun r => (r.1.unplaced, r.2)) =
      (q.configure o).map fun r => (r.1.unplaced, r.2) := by
    rw [← Pattern.configure_unplaced, ← Pattern.configure_unplaced, h]
  cases hp : p.configure o with
  | error e =>
      cases hq : q.configure o with
      | error e' =>
          rw [hp, hq] at hmap
          cases hmap
          exact .inl ⟨e, rfl, rfl⟩
      | ok r => simp [hp, hq, Except.map] at hmap
  | ok r =>
      obtain ⟨p', n⟩ := r
      cases hq : q.configure o with
      | error e => simp [hp, hq, Except.map] at hmap
      | ok r' =>
          obtain ⟨q', k⟩ := r'
          obtain ⟨halike, hn⟩ : p'.unplaced = q'.unplaced ∧ n = k := by
            simpa [hp, hq, Except.map] using hmap
          subst hn
          exact .inr ⟨p', q', n, rfl, rfl, halike⟩

/-- Two types that are alike stand for no bound, or for two bounds that are alike. -/
theorem Ty.Alike.asBound? {t u : Ty} (h : t.Alike u) (inParens : Bool) :
    (t.asBound? inParens = none ∧ u.asBound? inParens = none) ∨
      ∃ b c, t.asBound? inParens = some b ∧ u.asBound? inParens = some c ∧ b.Alike c := by
  have hmap : (t.asBound? inParens).map TraitBound.unplaced =
      (u.asBound? inParens).map TraitBound.unplaced := by
    rw [← Ty.asBound?_unplaced, ← Ty.asBound?_unplaced, h]
  cases ht : t.asBound? inParens with
  | none =>
      cases hu : u.asBound? inParens with
      | none => exact .inl ⟨rfl, rfl⟩
      | some c => simp [ht, hu] at hmap
  | some b =>
      cases hu : u.asBound? inParens with
      | none => simp [ht, hu] at hmap
      | some c =>
          have halike : b.unplaced = c.unplaced := by simpa [ht, hu] using hmap
          exact .inr ⟨b, c, rfl, rfl, halike⟩

/-- **Patterns and types that differ in spans and tags only mean the same**: they are written alike,
the patterns are configured alike under all options, and the types stand for the same bound, where
what comes out differs in spans and tags only, too. -/
theorem spans_and_tags_mean_nothing :
    (∀ p q : Pattern, p.Alike q → p.render = q.render ∧
      ∀ o : Options, (∃ e, p.configure o = .error e ∧ q.configure o = .error e) ∨
        ∃ p' q' n, p.configure o = .ok (p', n) ∧ q.configure o = .ok (q', n) ∧ p'.Alike q') ∧
    ∀ t u : Ty, t.Alike u → t.render = u.render ∧
      ∀ inParens, (t.asBound? inParens = none ∧ u.asBound? inParens = none) ∨
        ∃ b c, t.asBound? inParens = some b ∧ u.asBound? inParens = some c ∧ b.Alike c :=
  ⟨fun _ _ h => ⟨h.render_eq, h.configure⟩, fun _ _ h => ⟨h.render_eq, h.asBound?⟩⟩

/-- The pattern `P { #[cfg(unix)] x: y, .. }`, all of it at one place. -/
def Pattern.fieldAt (s : Span) : Pattern :=
  .struct (.ofIdent ⟨"P"⟩ s)
    ⟨[.named ⟨"x"⟩ (some (.simple ⟨"y"⟩ s))
      [⟨.list (.single Predicate.attributeName) [.word (.single "unix")], s⟩] s], true, []⟩

/-- The type `(T)`, all of it at one place. -/
def Ty.groupedAt (s : Site) : Ty := .operand (.paren (.ofIdent ⟨"T"⟩ s) s)

theorem spans_and_tags_mean_nothing_moved :
    (Pattern.fieldAt .dummy).Alike (.fieldAt ⟨3, 9⟩) ∧
      (Ty.groupedAt .dummy).Alike (.groupedAt ⟨⟨⟨1⟩, ⟨2⟩, ⟨3⟩, ⟨4⟩⟩, ⟨3, 9⟩⟩) ∧
      (Pattern.fieldAt .dummy).render = (Pattern.fieldAt ⟨3, 9⟩).render ∧
      (∃ p q n, (Pattern.fieldAt .dummy).configure ⟨{"unix"}, ∅⟩ = .ok (p, n) ∧
        (Pattern.fieldAt ⟨3, 9⟩).configure ⟨{"unix"}, ∅⟩ = .ok (q, n) ∧ p.Alike q) ∧
      ∃ b c, (Ty.groupedAt .dummy).asBound? false = some b ∧
        (Ty.groupedAt ⟨⟨⟨1⟩, ⟨2⟩, ⟨3⟩, ⟨4⟩⟩, ⟨3, 9⟩⟩).asBound? false = some c ∧ b.Alike c := by
  have hpattern : (Pattern.fieldAt .dummy).Alike (.fieldAt ⟨3, 9⟩) := rfl
  have htype : (Ty.groupedAt .dummy).Alike
      (.groupedAt ⟨⟨⟨1⟩, ⟨2⟩, ⟨3⟩, ⟨4⟩⟩, ⟨3, 9⟩⟩) := rfl
  obtain ⟨hrender, hconfigure⟩ := spans_and_tags_mean_nothing.1 _ _ hpattern
  obtain ⟨-, hbound⟩ := spans_and_tags_mean_nothing.2 _ _ htype
  refine ⟨hpattern, htype, hrender, (hconfigure _).resolve_left ?_, (hbound _).resolve_left ?_⟩
  · rintro ⟨e, he, -⟩
    cases he
  · rintro ⟨hnone, -⟩
    cases hnone

end SurfaceTree
