/-
The bound that a type stands for, through all parentheses around it.

Parentheses may be laid around a type any number of times.  A type in parentheses stands for the
bound that the type inside of them stands for, and the bound remembers that there were any.  The
parentheses themselves are gone: a bound is written as the type in the middle is, less the word
`dyn`.

Main definitions:

* `Ty.IsParen` — a type in parentheses;
* `Ty.enclosed` — a type with layers of parentheses around it;
* `Ty.dynWord` — the word in front of a trait object with one bound.

Main results:

* `Ty.exists_enclosed`, `Ty.enclosed_inj` — every type is layers of parentheses around a type that
  is not in parentheses, in one way only;
* `Ty.asBound?_enclosed` — **one layer is as good as many**, and as good as a bound expected in
  parentheses;
* `Ty.render_enclosed`, `Ty.render_eq_of_asBound?` — the parentheses are written around the type,
  and not around the bound;
* `Ty.asBound?_through_parens` — the bound that a type stands for, whatever stands around it.
-/

import SurfaceTree.Ty.Bound
import SurfaceTree.Ty.Render

set_option relaxedAutoImplicit false
set_option autoImplicit false

namespace SurfaceTree

/-- That a bound has been in parentheses is not written. -/
theorem TraitBound.render_inParens (bound : TraitBound) (inParens : Bool) :
    { bound with inParens }.render = bound.render := by
  cases bound
  simp only [TraitBound.render]

/-- A path is written as the bound it stands for. -/
theorem TypePath.render_asBound (p : TypePath) (inParens : Bool) :
    (p.asBound inParens).render = p.render := by
  simp [TypePath.asBound, TraitBound.render, LifetimeParam.renderBinder]

namespace Ty

/-- A type in parentheses. -/
def IsParen (t : Ty) : Prop := ∃ inner site, t = .operand (.paren inner site)

/-- A type with a layer of parentheses around it for each of some places, the outermost first. -/
def enclosed (t : Ty) : List Site → Ty
  | [] => t
  | site :: sites => .operand (.paren (t.enclosed sites) site)

/-- The word in front of a trait object with one bound, if it has one. -/
def dynWord : Ty → String
  | .operand (.objectOne _ true _) => "dyn "
  | _ => ""

/-! ### Layers -/

/-- Every type is layers of parentheses around a type that is not in parentheses. -/
theorem exists_enclosed (t : Ty) : ∃ (sites : List Site) (core : Ty),
    ¬core.IsParen ∧ t = core.enclosed sites := by
  by_cases h : t.IsParen
  · obtain ⟨inner, site, rfl⟩ := h
    obtain ⟨sites, core, hcore, hinner⟩ := exists_enclosed inner
    exact ⟨site :: sites, core, hcore, congrArg (fun t => operand (.paren t site)) hinner⟩
  · exact ⟨[], t, h, rfl⟩
termination_by sizeOf t

/-- There is one way only to take the layers off. -/
theorem enclosed_inj {core core' : Ty} (hcore : ¬core.IsParen) (hcore' : ¬core'.IsParen) :
    ∀ {sites sites' : List Site}, core.enclosed sites = core'.enclosed sites' →
      sites = sites' ∧ core = core'
  | [], [], h => ⟨rfl, h⟩
  | [], site :: sites, h => absurd ⟨_, site, h⟩ hcore
  | site :: sites, [], h => absurd ⟨_, site, h.symm⟩ hcore'
  | site :: sites, site' :: sites', h => by
      obtain ⟨hinner, rfl⟩ := OperandTy.paren.inj (Ty.operand.inj h)
      obtain ⟨rfl, rfl⟩ := enclosed_inj hcore hcore' hinner
      exact ⟨rfl, rfl⟩

/-- **One layer is as good as many**: a bound has been in parentheses if one was expected there, or
if there is a layer. -/
theorem asBound?_enclosed (t : Ty) (sites : List Site) (inParens : Bool) :
    (t.enclosed sites).asBound? inParens = t.asBound? (inParens || decide (0 < sites.length)) := by
  induction sites generalizing inParens with
  | nil => simp [enclosed]
  | cons site sites ih =>
      change (t.enclosed sites).asBound? true = _
      rw [ih]
      simp

/-! ### Texts -/

/-- Every layer is written around what is inside of it. -/
theorem render_enclosed (t : Ty) (sites : List Site) :
    (t.enclosed sites).render = sites.foldr (fun _ text => "(" ++ text ++ ")") t.render := by
  induction sites with
  | nil => rfl
  | cons site sites ih =>
      rw [List.foldr_cons, ← ih]
      rfl

/-- A type that is not in parentheses is written as the bound it stands for, behind its word. -/
theorem render_eq_of_asBound? {t : Ty} (h : ¬t.IsParen) {inParens : Bool} {bound : TraitBound}
    (hbound : t.asBound? inParens = some bound) : t.render = t.dynWord ++ bound.render := by
  cases t with
  | implTrait bounds site => cases hbound
  | traitObject bounds hasDyn site => cases hbound
  | operand t =>
      cases t with
      | paren inner site => exact absurd ⟨inner, site, rfl⟩ h
      | objectOne own hasDyn site =>
          obtain rfl := Option.some.inj hbound
          rw [TraitBound.render_inParens, Ty.render, OperandTy.render]
          cases hasDyn <;> rfl
      | path p =>
          obtain rfl := Option.some.inj hbound
          rw [TypePath.render_asBound, Ty.render, OperandTy.render]
          exact String.empty_append.symm
      | _ => cases hbound

/-- **The bound that a type stands for, whatever stands around it.**  In the middle of all layers of
parentheses there is one type that is not in parentheses.  If it is a trait object with one bound,
the type stands for this bound, and if it is a path, for the path as a bound; only in the mark of
parentheses it is told whether the bound had it before, whether it was asked for, or whether there
are layers.  No other type stands for a bound.  The bound is written as what is in the middle, less
the word `dyn`, and so without the layers. -/
theorem asBound?_through_parens (t : Ty) (inParens : Bool) :
    ∃ (sites : List Site) (core : Ty), ¬core.IsParen ∧ t = core.enclosed sites ∧
      (∀ (sites' : List Site) (core' : Ty), ¬core'.IsParen → t = core'.enclosed sites' →
        sites' = sites ∧ core' = core) ∧
      (∀ bound hasDyn site, core = .operand (.objectOne bound hasDyn site) →
        t.asBound? inParens = some
          { bound with
            inParens := bound.inParens || inParens || decide (0 < sites.length) }) ∧
      (∀ path, core = .operand (.path path) →
        t.asBound? inParens = some
          { path
            inParens := inParens || decide (0 < sites.length)
            maybe := false
            binder := []
            span := path.site.span }) ∧
      ((∀ bound hasDyn site, core ≠ .operand (.objectOne bound hasDyn site)) →
        (∀ path, core ≠ .operand (.path path)) → t.asBound? inParens = none) ∧
      ∀ bound, t.asBound? inParens = some bound →
        core.render = core.dynWord ++ bound.render ∧
        t.render =
          sites.foldr (fun _ text => "(" ++ text ++ ")") (core.dynWord ++ bound.render) := by
  obtain ⟨sites, core, hcore, rfl⟩ := exists_enclosed t
  have hlayers := asBound?_enclosed core sites inParens
  refine ⟨sites, core, hcore, rfl, ?_, ?_, ?_, ?_, ?_⟩
  · intro sites' core' hcore' h
    exact enclosed_inj hcore' hcore h.symm
  · rintro bound hasDyn site rfl
    rw [hlayers, Bool.or_assoc]
    rfl
  · rintro path rfl
    rw [hlayers]
    rfl
  · intro hobject hpath
    rw [hlayers]
    cases core with
    | implTrait bounds site => rfl
    | traitObject bounds hasDyn site => rfl
    | operand t =>
        cases t with
        | paren inner site => exact absurd ⟨inner, site, rfl⟩ hcore
        | objectOne bound hasDyn site => exact absurd rfl (hobject bound hasDyn site)
        | path path => exact absurd rfl (hpath path)
        | _ => rfl
  · intro bound hbound
    have hrender := render_eq_of_asBound? hcore (hlayers.symm.trans hbound)
    exact ⟨hrender, by rw [render_enclosed, hrender]⟩

/-- The type `((dyn ?Sized))`. -/
def sizedInParens : Ty :=
  enclosed
    (.operand (.objectOne ⟨.ofIdent ⟨"Sized"⟩ default, false, true, [], ⟨7, 13⟩⟩ true default))
    [default, default]

/-- Both layers are gone from the bound, and the bound remembers them. -/
theorem asBound?_through_parens_sized :
    sizedInParens.asBound? false =
        some ⟨.ofIdent ⟨"Sized"⟩ default, true, true, [], ⟨7, 13⟩⟩ ∧
      sizedInParens.render = "((dyn ?Sized))" := by
  obtain ⟨sites, core, -, -, hone, hobject, -, -, hwritten⟩ :=
    asBound?_through_parens sizedInParens false
  have hcore : ¬IsParen (.operand
      (.objectOne ⟨.ofIdent ⟨"Sized"⟩ default, false, true, [], ⟨7, 13⟩⟩ true default)) := by
    rintro ⟨inner, site, h⟩
    cases h
  obtain ⟨rfl, rfl⟩ := hone [default, default] _ hcore rfl
  have hbound := hobject _ _ _ rfl
  refine ⟨hbound, (hwritten _ hbound).2.trans ?_⟩
  rfl

end Ty

end SurfaceTree
