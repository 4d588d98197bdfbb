/-
Types that read as lists of bounds.

After `&` and `*` no list of two or more bounds may stand, since a reader would take the bounds
after the first for something else.  The output of a function is under no such restriction, so that
`Fn() -> impl A + B` may stand there.  It is written like the list of the two bounds
`Fn() -> impl A` and `B`.

Nothing else goes wrong.  A list of two or more bounds shows a plus sign outside all brackets, and a
type that may stand after `&` shows none, unless a function in it returns such a list.  Even then a
reference, a pointer and a qualified path start like no list of bounds, and a function type goes on
like none if it has a word in front of `fn`, dots behind its parameters, or a parameter that is more
than a type or less.  What is left can be cut behind the first of its last bounds, and reads as a
list, as long as no path goes on behind the output.

Main definitions:

* `OperandTy.readsAsBounds` — a list of bounds outside all brackets, and no sign that tells the type
  from such a list;
* `Part.EndsInOutputs` — nothing is written behind an output that is a list of bounds;
* `Part.IsCut` — a part is written like another of its family with more bounds behind it.

Main results:

* `Part.Worded.cuts` — **a type that ends in a list of bounds is cut behind the first of them**, for
  every family;
* `OperandTy.reads_as_bounds` — **which types read as a list of bounds**.
-/

import SurfaceTree.Proofs.Enclosed
import SurfaceTree.Proofs.Started

set_option relaxedAutoImplicit false
set_option autoImplicit false

namespace SurfaceTree

open Text

/-! ### More bounds behind a text -/

/-- More bounds, each behind a plus sign. -/
def TypeBound.renderMore (bs : List TypeBound) : String :=
  String.join ((bs.map TypeBound.render).map (" + " ++ ·))

theorem TypeBound.joined_render_cons (b : TypeBound) (bs : List TypeBound) :
    joined " + " ((b :: bs).map TypeBound.render) = b.render ++ renderMore bs :=
  joined_cons " + " b.render (bs.map TypeBound.render)

theorem Ty.render_implTrait_cons (b : TypeBound) (bs : List TypeBound) (site : Site) :
    (Ty.implTrait (b :: bs) site).render = "impl " ++ (b.render ++ TypeBound.renderMore bs) := by
  rw [render_implTrait_eq_joined, TypeBound.joined_render_cons]

theorem Ty.render_traitObject_cons (b : TypeBound) (bs : List TypeBound) (hasDyn : Bool)
    (site : Site) :
    (Ty.traitObject (b :: bs) hasDyn site).render =
      (if hasDyn then "dyn " else "") ++ (b.render ++ TypeBound.renderMore bs) := by
  rw [render_traitObject_eq_joined, TypeBound.joined_render_cons]

/-- The last segment of a path has the others and their colons before it. -/
theorem TypeSegment.separated_renderAll_concat (before : List TypeSegment) (s : TypeSegment) :
    separated "::" (TypeSegment.renderAll (before ++ [s])) =
      String.join ((before.map TypeSegment.render).map (· ++ "::")) ++ s.render := by
  rw [separated_eq_joined, renderAll_eq_map, List.map_append, List.map_singleton,
    joined_append_cons]
  exact String.append_empty

namespace Part

/-- **A part is written like another of its family with more bounds behind it.** -/
def IsCut {α : Type} (part : α → Part) (render : α → String) (x : α) : Prop :=
  ∃ y b bs, (part y).Worded ∧ (∀ c ∈ b :: bs, (typeBound c).Worded) ∧
    render x = render y ++ TypeBound.renderMore (b :: bs)

/-- **A part is cut where what is written last in it is cut.** -/
theorem IsCut.map {α β : Type} {part : α → Part} {render : α → String} {part' : β → Part}
    {render' : β → String} {x : α} (h : IsCut part render x) (f : α → β) (others : List Part)
    (before : String) (hworded : (part' (f x)).Worded)
    (hown : ∀ y, (part' (f y)).ownWords = (part' (f x)).ownWords)
    (hchildren : ∀ y, (part' (f y)).children = others ++ [part y])
    (hrender : ∀ y, render' (f y) = before ++ render y) : IsCut part' render' (f x) := by
  obtain ⟨y, b, bs, hy, hbs, htext⟩ := h
  obtain ⟨hwords, hbelow⟩ := worded_iff.1 hworded
  rw [hchildren, List.forall_mem_append] at hbelow
  have hcut : (part' (f y)).Worded := by
    refine .of (hown y ▸ hwords) ?_
    rw [hchildren, List.forall_mem_append]
    exact ⟨hbelow.1, List.forall_mem_singleton.2 hy⟩
  refine ⟨f y, b, bs, hcut, hbs, ?_⟩
  rw [hrender, hrender, htext, String.append_assoc]

/-! ### Where a list of bounds stands -/

/-- The segments of a path in a type but the last. -/
def earlierSegments : Part → List TypeSegment
  | typePath ⟨segments, _, _⟩ | qualifiedPath ⟨_, segments, _⟩ => segments.dropLast
  | _ => []

/-- **Nothing is written behind an output that is a list of bounds**, in any path in a part. -/
inductive EndsInOutputs : Part → Prop
  | of {p : Part} (own : ∀ s ∈ p.earlierSegments, s.isLoose = false)
      (below : ∀ c ∈ p.children, EndsInOutputs c) : EndsInOutputs p

theorem endsInOutputs_iff {p : Part} :
    p.EndsInOutputs ↔ (∀ s ∈ p.earlierSegments, s.isLoose = false) ∧
      ∀ c ∈ p.children, c.EndsInOutputs := by
  constructor
  · rintro ⟨own, below⟩
    exact ⟨own, below⟩
  · rintro ⟨own, below⟩
    exact ⟨own, below⟩

/-- A loose path of which no segment but the last is loose ends in a loose segment. -/
theorem exists_last_of_anyLoose {segments : List TypeSegment}
    (hloose : TypeSegment.anyLoose segments = true)
    (hearlier : ∀ s ∈ segments.dropLast, s.isLoose = false) :
    ∃ before s, segments = before ++ [s] ∧ s.isLoose = true := by
  rw [TypeSegment.anyLoose_eq_any, List.any_eq_true] at hloose
  obtain ⟨s, hs, hloose⟩ := hloose
  have hsplit := List.dropLast_concat_getLast (List.ne_nil_of_mem hs)
  refine ⟨_, _, hsplit.symm, ?_⟩
  rw [← hsplit, List.mem_append, List.mem_singleton] at hs
  rcases hs with hs | hs
  · rw [hearlier s hs] at hloose
    cases hloose
  · exact hs ▸ hloose

/-! ### Cutting -/

/-- Every family of types and of their parts is cut if it is loose. -/
def Cuts : Part → Prop
  | ty t => t.isLoose = true → IsCut ty Ty.render t
  | operand t => t.isLoose = true → IsCut operand OperandTy.render t
  | traitBound b => b.isLoose = true → IsCut traitBound TraitBound.render b
  | typeBound b => b.isLoose = true → IsCut typeBound TypeBound.render b
  | typePath p => p.isLoose = true → IsCut typePath TypePath.render p
  | qualifiedPath p => p.isLoose = true → IsCut qualifiedPath QualifiedTypePath.render p
  | typeSegment s => s.isLoose = true → IsCut typeSegment TypeSegment.render s
  | pattern _ | rangeBound _ | elements _ | field _ | items _ _ | qualifiedExprPath _
  | exprPath _ | exprSegment _ | args _ | binding _ | qself _ | param _ | arraySize _
  | lifetime _ | introduced _ => True

theorem cuts_typeSegment {s : TypeSegment} (hworded : (typeSegment s).Worded)
    (below : ∀ c ∈ (typeSegment s).children, c.Cuts) : (typeSegment s).Cuts := by
  intro hloose
  cases s with
  | plain name span => cases hloose
  | generic name args span => cases hloose
  | function name inputs output span =>
      cases output with
      | none => cases hloose
      | some t =>
          have ht : IsCut ty Ty.render t :=
            below (ty t) (List.mem_append_right _ List.mem_cons_self) hloose
          exact ht.map (fun t => TypeSegment.function name inputs (some t) span) (inputs.map ty) _
            hworded (fun _ => rfl) (fun _ => rfl) fun _ => String.append_assoc.symm

theorem cuts_typePath {p : TypePath} (hworded : (typePath p).Worded)
    (hends : ∀ s ∈ (typePath p).earlierSegments, s.isLoose = false)
    (below : ∀ c ∈ (typePath p).children, c.Cuts) : (typePath p).Cuts := by
  intro hloose
  obtain ⟨segments, rooted, site⟩ := p
  obtain ⟨before, s, rfl, hs⟩ := exists_last_of_anyLoose hloose hends
  have hcut : IsCut typeSegment TypeSegment.render s :=
    below (typeSegment s) (by simp [children]) hs
  have hrender : ∀ s, (TypePath.mk (before ++ [s]) rooted site).render =
      rootMark rooted ++ String.join ((before.map TypeSegment.render).map (· ++ "::")) ++
        s.render := fun s => by
    rw [TypePath.render, TypeSegment.separated_renderAll_concat, String.append_assoc]
  exact hcut.map (fun s => TypePath.mk (before ++ [s]) rooted site) (before.map typeSegment) _
    hworded (fun _ => rfl) (fun s => by simp [children]) hrender

theorem cuts_qualifiedPath {p : QualifiedTypePath} (hworded : (qualifiedPath p).Worded)
    (hends : ∀ s ∈ (qualifiedPath p).earlierSegments, s.isLoose = false)
    (below : ∀ c ∈ (qualifiedPath p).children, c.Cuts) : (qualifiedPath p).Cuts := by
  intro hloose
  obtain ⟨q, segments, site⟩ := p
  obtain ⟨before, s, rfl, hs⟩ := exists_last_of_anyLoose hloose hends
  have hcut : IsCut typeSegment TypeSegment.render s :=
    below (typeSegment s) (by simp [children]) hs
  have hrender : ∀ s, (QualifiedTypePath.mk q (before ++ [s]) site).render =
      q.render ++ "::" ++ String.join ((before.map TypeSegment.render).map (· ++ "::")) ++
        s.render := fun s => by
    rw [QualifiedTypePath.render, TypeSegment.separated_renderAll_concat, ← String.append_assoc]
  exact hcut.map (fun s => QualifiedTypePath.mk q (before ++ [s]) site)
    (qself q :: before.map typeSegment) _ hworded (fun _ => rfl) (fun s => by simp [children])
    hrender

theorem cuts_traitBound {b : TraitBound} (hworded : (traitBound b).Worded)
    (below : ∀ c ∈ (traitBound b).children, c.Cuts) : (traitBound b).Cuts := by
  intro hloose
  obtain ⟨path, inParens, maybe, binder, span⟩ := b
  have hpath : IsCut typePath TypePath.render path :=
    below (typePath path) (List.mem_append_right _ List.mem_cons_self) hloose
  exact hpath.map (fun p => TraitBound.mk p inParens maybe binder span) (binder.map introduced) _
    hworded (fun _ => rfl) (fun _ => rfl) fun _ => rfl

theorem cuts_typeBound {b : TypeBound} (hworded : (typeBound b).Worded)
    (below : ∀ c ∈ (typeBound b).children, c.Cuts) : (typeBound b).Cuts := by
  intro hloose
  cases b with
  | lifetime l => cases hloose
  | trait b =>
      have hb : IsCut traitBound TraitBound.render b := below _ List.mem_cons_self hloose
      exact hb.map TypeBound.trait [] "" hworded (fun _ => rfl) (fun _ => rfl)
        fun _ => String.empty_append.symm

theorem cuts_operand {t : OperandTy} (hworded : (operand t).Worded)
    (below : ∀ c ∈ (operand t).children, c.Cuts) : (operand t).Cuts := by
  intro hloose
  cases t with
  | paren _ _ | tuple _ _ | never _ | array _ _ _ | slice _ _ | inferred _ => cases hloose
  | implOne bound site =>
      have hbound : IsCut traitBound TraitBound.render bound :=
        below (traitBound bound) List.mem_cons_self hloose
      exact hbound.map (fun b => OperandTy.implOne b site) [] _ hworded (fun _ => rfl)
        (fun _ => rfl) fun _ => rfl
  | objectOne bound hasDyn site =>
      have hbound : IsCut traitBound TraitBound.render bound :=
        below (traitBound bound) List.mem_cons_self hloose
      exact hbound.map (fun b => OperandTy.objectOne b hasDyn site) [] _ hworded (fun _ => rfl)
        (fun _ => rfl) fun _ => rfl
  | path p =>
      have hp : IsCut typePath TypePath.render p := below (typePath p) List.mem_cons_self hloose
      exact hp.map OperandTy.path [] "" hworded (fun _ => rfl) (fun _ => rfl)
        fun _ => String.empty_append.symm
  | qualified p =>
      have hp : IsCut qualifiedPath QualifiedTypePath.render p :=
        below (qualifiedPath p) List.mem_cons_self hloose
      exact hp.map OperandTy.qualified [] "" hworded (fun _ => rfl) (fun _ => rfl)
        fun _ => String.empty_append.symm
  | pointer isMut pointee site =>
      have hpointee : IsCut operand OperandTy.render pointee :=
        below (operand pointee) List.mem_cons_self hloose
      exact hpointee.map (fun t => OperandTy.pointer isMut t site) [] _ hworded (fun _ => rfl)
        (fun _ => rfl) fun _ => rfl
  | reference l isMut referent site =>
      have hreferent : IsCut operand OperandTy.render referent :=
        below (operand referent) (List.mem_append_right _ List.mem_cons_self) hloose
      exact hreferent.map (fun t => OperandTy.reference l isMut t site) (l.toList.map lifetime) _
        hworded (fun _ => rfl) (fun _ => rfl) fun _ => rfl
  | function binder quals params variadic output site =>
      cases output with
      | none => cases hloose
      | some t =>
          have ht : IsCut ty Ty.render t :=
            below (ty t) (List.mem_append_right _ List.mem_cons_self) hloose
          exact ht.map (fun t => OperandTy.function binder quals params variadic (some t) site)
            (binder.map introduced ++ params.map param) _ hworded (fun _ => rfl) (fun _ => rfl)
            fun _ => String.append_assoc.symm

/-- A list of bounds is cut behind the first, and a single bound where it is cut itself. -/
theorem isCut_bounds (f : List TypeBound → Ty) (before : String) {bounds : List TypeBound}
    (hown : ∀ bs, (ty (f bs)).ownWords = [])
    (hchildren : ∀ bs, (ty (f bs)).children = bs.map typeBound)
    (hrender : ∀ bs, (f bs).render = before ++ joined " + " (bs.map TypeBound.render))
    (hworded : (ty (f bounds)).Worded) (below : ∀ c ∈ (ty (f bounds)).children, c.Cuts)
    (hloose : (decide (2 ≤ bounds.length) || TypeBound.anyLoose bounds) = true) :
    IsCut ty Ty.render (f bounds) := by
  have hbounds : ∀ b ∈ bounds, (typeBound b).Worded := fun b hb =>
    (worded_iff.1 hworded).2 _ (hchildren bounds ▸ List.mem_map_of_mem hb)
  match bounds, hbounds with
  | [], _ => cases hloose
  | [b], _ =>
      have hb : b.isLoose = true := by simpa [TypeBound.anyLoose] using hloose
      have hcut : IsCut typeBound TypeBound.render b :=
        below (typeBound b) (by simp [hchildren]) hb
      exact hcut.map (fun b => f [b]) [] before hworded (fun y => (hown [y]).trans (hown [b]).symm)
        (fun y => hchildren [y]) fun y => by rw [hrender, List.map_singleton, joined_singleton]
  | b :: c :: bs, hbounds =>
      obtain ⟨hb, hothers⟩ := List.forall_mem_cons.1 hbounds
      have hfirst : (ty (f [b])).Worded := by
        refine .of (by simp [hown]) ?_
        rw [hchildren]
        exact List.forall_mem_singleton.2 hb
      refine ⟨f [b], c, bs, hfirst, hothers, ?_⟩
      rw [hrender, hrender, TypeBound.joined_render_cons, List.map_singleton, joined_singleton,
        String.append_assoc]

theorem cuts_ty {t : Ty} (hworded : (ty t).Worded) (below : ∀ c ∈ (ty t).children, c.Cuts) :
    (ty t).Cuts := by
  intro hloose
  cases t with
  | operand t =>
      have ht : IsCut operand OperandTy.render t := below (operand t) List.mem_cons_self hloose
      exact ht.map Ty.operand [] "" hworded (fun _ => rfl) (fun _ => rfl)
        fun _ => String.empty_append.symm
  | implTrait bounds site =>
      exact isCut_bounds (Ty.implTrait · site) "impl " (fun _ => rfl) (fun _ => rfl)
        (fun bs => Ty.render_implTrait_eq_joined bs site) hworded below hloose
  | traitObject bounds hasDyn site =>
      exact isCut_bounds (Ty.traitObject · hasDyn site) _ (fun _ => rfl) (fun _ => rfl)
        (fun bs => Ty.render_traitObject_eq_joined bs hasDyn site) hworded below hloose

/-- **A type that ends in a list of bounds is cut behind the first of them**, for every family. -/
theorem Worded.cuts {p : Part} (h : p.Worded) (hends : p.EndsInOutputs) : p.Cuts := by
  induction h with
  | @of p own hbelow ih =>
      obtain ⟨hearlier, hchildren⟩ := endsInOutputs_iff.1 hends
      have below : ∀ c ∈ p.children, c.Cuts := fun c hc => ih c hc (hchildren c hc)
      have hworded : p.Worded := .of own hbelow
      cases p with
      | ty t => exact cuts_ty hworded below
      | operand t => exact cuts_operand hworded below
      | traitBound b => exact cuts_traitBound hworded below
      | typeBound b => exact cuts_typeBound hworded below
      | typePath p => exact cuts_typePath hworded hearlier below
      | qualifiedPath p => exact cuts_qualifiedPath hworded hearlier below
      | typeSegment s => exact cuts_typeSegment hworded below
      | pattern _ | rangeBound _ | elements _ | field _ | items _ _ | qualifiedExprPath _
      | exprPath _ | exprSegment _ | args _ | binding _ | qself _ | param _ | arraySize _
      | lifetime _ | introduced _ => trivial

end Part

/-! ### Types that read as a list of bounds -/

/-- **A list of bounds stands outside all brackets**, and nothing tells the type from such a list.
It is no reference, no pointer and no qualified path, and if it is a function type, then one of
types only. -/
def OperandTy.readsAsBounds : OperandTy → Bool
  | .reference _ _ _ _ | .pointer _ _ _ | .qualified _ => false
  | .function _ quals params variadic output _ =>
      quals.isBare && !variadic && params.all Param.isBare && Ty.isLooseOutput output
  | t => t.isLoose

/-- **No other type reads as a list of two or more bounds.** -/
theorem OperandTy.render_ne_bounds {t : OperandTy} {u : Ty} (ht : (Part.operand t).Worded)
    (hu : (Part.ty u).Worded) (hbounds : 2 ≤ u.bounds.length) (h : t.readsAsBounds = false) :
    t.render ≠ u.render := by
  intro heq
  have htext : Shows t.render t.isLoose := ht.nests
  have hutext : Shows u.render u.isLoose := hu.nests
  have hloose : t.isLoose = true :=
    calc
      t.isLoose = (outside 0 t.render.toList).contains '+' := htext.outside_eq.2.symm
      _ = (outside 0 u.render.toList).contains '+' := by rw [heq]
      _ = u.isLoose := hutext.outside_eq.2
      _ = true := Ty.isLoose_of_bounds hbounds
  have hmark : Avoids IsOperandMark t.render := by
    rw [heq]
    refine Ty.avoids_render_bounds hu fun t hoperand => ?_
    simp [hoperand, Ty.bounds] at hbounds
  cases t with
  | reference l isMut referent site =>
      exact hmark '&' (by simp [render]) (by decide)
  | pointer isMut pointee site =>
      exact hmark '*' (by simp [render]) (by decide)
  | qualified p =>
      obtain ⟨⟨t, asTrait, span⟩, segments, site⟩ := p
      exact hmark '<' (by simp [render, QualifiedTypePath.render, QualifiedSelf.render]) (by decide)
  | function binder quals params variadic output site =>
      have houtput : Ty.isLooseOutput output = true := hloose
      obtain ⟨hquals, rfl, hparams⟩ := bare_of_function_eq_bounds ht hu hbounds heq
      have hall : params.all Param.isBare = true := List.all_eq_true.2 hparams
      simp [readsAsBounds, hquals, hall, houtput] at h
  | _ => exact absurd hloose (Bool.eq_false_iff.1 h)

/-! ### Lists of bounds to read -/

theorem Ty.worded_implTrait {bs : List TypeBound} (h : ∀ b ∈ bs, (Part.typeBound b).Worded)
    (site : Site) : (Part.ty (.implTrait bs site)).Worded :=
  .of (by simp [Part.ownWords]) (List.forall_mem_map.2 h)

theorem Ty.worded_traitObject {bs : List TypeBound} (h : ∀ b ∈ bs, (Part.typeBound b).Worded)
    (hasDyn : Bool) (site : Site) : (Part.ty (.traitObject bs hasDyn site)).Worded :=
  .of (by simp [Part.ownWords]) (List.forall_mem_map.2 h)

theorem TypePath.worded_asBound {p : TypePath} (h : (Part.typePath p).Worded) :
    (Part.traitBound (p.asBound false)).Worded :=
  .of (by simp [Part.ownWords]) (by simpa [Part.children, asBound] using h)

/-- A path with a binder, named `fn`: it is written like a function type. -/
def TraitBound.ofFunction (binder : List LifetimeParam) (inputs : List Ty) (output : Ty)
    (site : Site) : TraitBound :=
  ⟨⟨[.function ⟨"fn"⟩ inputs (some output) site.span], false, site⟩, false, false, binder,
    site.span⟩

theorem TraitBound.render_ofFunction (binder : List LifetimeParam) (inputs : List Ty) (output : Ty)
    (site : Site) :
    (ofFunction binder inputs output site).render =
      LifetimeParam.renderBinder binder ++ "fn(" ++ joined ", " (inputs.map Ty.render) ++ ")" ++
        " -> " ++ output.render := by
  have hfn : "fn" ++ "(" = "fn(" := rfl
  have hpath : TypePath.render ⟨[.function ⟨"fn"⟩ inputs (some output) site.span], false, site⟩ =
      "fn(" ++ joined ", " (inputs.map Ty.render) ++ ")" ++ (" -> " ++ output.render) := by
    rw [TypePath.render, TypeSegment.renderAll_eq_map, separated_eq_joined, List.map_singleton,
      joined_singleton, TypeSegment.render, hfn, separated_eq_joined, Ty.renderAll_eq_map]
    exact String.empty_append
  rw [ofFunction, render, hpath]
  simp only [Bool.false_eq_true, if_false, String.empty_append, String.append_assoc]

theorem TraitBound.worded_ofFunction {binder : List LifetimeParam} {inputs : List Ty} {output : Ty}
    (hbinder : ∀ l ∈ binder, (Part.introduced l).Worded)
    (hinputs : ∀ t ∈ inputs, (Part.ty t).Worded) (houtput : (Part.ty output).Worded) (site : Site) :
    (Part.traitBound (ofFunction binder inputs output site)).Worded := by
  have hsegment : (Part.typeSegment (.function ⟨"fn"⟩ inputs (some output) site.span)).Worded := by
    refine .of (List.forall_mem_singleton.2 (by decide)) (List.forall_mem_append.2 ?_)
    exact ⟨List.forall_mem_map.2 hinputs, List.forall_mem_singleton.2 houtput⟩
  have hpath : (Part.typePath
      ⟨[.function ⟨"fn"⟩ inputs (some output) site.span], false, site⟩).Worded :=
    .of (by simp [Part.ownWords]) (List.forall_mem_singleton.2 hsegment)
  refine .of (by simp [Part.ownWords]) (List.forall_mem_append.2 ?_)
  exact ⟨List.forall_mem_map.2 hbinder, List.forall_mem_singleton.2 hpath⟩

/-- Parameters without names are written like their types. -/
theorem Param.map_render_of_isBare {params : List Param} (h : ∀ p ∈ params, p.isBare = true) :
    params.map Param.render = (params.filterMap Param.ty).map Ty.render := by
  induction params with
  | nil => rfl
  | cons p ps ih =>
      obtain ⟨hp, hps⟩ := List.forall_mem_cons.1 h
      obtain ⟨name, kind, ty, span⟩ := p
      cases ty with
      | none => simp [isBare] at hp
      | some t =>
          cases kind with
          | unnamed => simp [ih hps, render]
          | identifier => cases hp
          | wildcard => cases hp

/-- **A function type of types only is written like a path.** -/
theorem OperandTy.render_function_of_isBare {quals : FnQualifiers} {params : List Param}
    (hquals : quals.isBare = true) (hparams : ∀ p ∈ params, p.isBare = true)
    (binder : List LifetimeParam) (output : Ty) (site : Site) :
    (function binder quals params false (some output) site).render =
      (TraitBound.ofFunction binder (params.filterMap Param.ty) output site).render := by
  rw [render_function_eq_joined, FnQualifiers.render_of_isBare hquals,
    TraitBound.render_ofFunction, ← Param.map_render_of_isBare hparams, Ty.renderOutput]
  simp only [Bool.false_eq_true, if_false, List.append_nil, String.append_empty,
    String.append_assoc]

/-- **A type that reads as a list of bounds is written like one**, if nothing is written behind the
outputs in it. -/
theorem OperandTy.exists_bounds {t : OperandTy} (ht : (Part.operand t).Worded)
    (hends : (Part.operand t).EndsInOutputs) (h : t.readsAsBounds = true) :
    ∃ u : Ty, (Part.ty u).Worded ∧ 2 ≤ u.bounds.length ∧ t.render = u.render := by
  obtain ⟨-, hbelow⟩ := Part.worded_iff.1 ht
  have hcuts : ∀ c ∈ (Part.operand t).children, c.Cuts := fun c hc =>
    (hbelow c hc).cuts ((Part.endsInOutputs_iff.1 hends).2 c hc)
  -- the first bound is the type itself, cut behind the first of its last bounds
  have hlist : ∀ {b : TraitBound} {bs : List TypeBound}, (Part.traitBound b).Worded →
      (∀ c ∈ bs, (Part.typeBound c).Worded) → ∀ c ∈ .trait b :: bs, (Part.typeBound c).Worded :=
    fun hb hbs => List.forall_mem_cons.2 ⟨TypeBound.worded_trait hb, hbs⟩
  cases t with
  | paren _ _ | tuple _ _ | never _ | array _ _ _ | slice _ _ | inferred _ => cases h
  | reference _ _ _ _ | pointer _ _ _ | qualified _ => cases h
  | implOne bound site =>
      obtain ⟨first, b, bs, hfirst, hbs, htext⟩ :=
        hcuts (.traitBound bound) List.mem_cons_self h
      refine ⟨.implTrait (.trait first :: b :: bs) site,
        Ty.worded_implTrait (hlist hfirst hbs) site, by simp [Ty.bounds], ?_⟩
      rw [Ty.render_implTrait_cons, render, htext]
      rfl
  | objectOne bound hasDyn site =>
      obtain ⟨first, b, bs, hfirst, hbs, htext⟩ :=
        hcuts (.traitBound bound) List.mem_cons_self h
      refine ⟨.traitObject (.trait first :: b :: bs) hasDyn site,
        Ty.worded_traitObject (hlist hfirst hbs) hasDyn site, by simp [Ty.bounds], ?_⟩
      rw [Ty.render_traitObject_cons, render, htext]
      rfl
  | path p =>
      obtain ⟨first, b, bs, hfirst, hbs, htext⟩ := hcuts (.typePath p) List.mem_cons_self h
      refine ⟨.traitObject (.trait (first.asBound false) :: b :: bs) false p.site,
        Ty.worded_traitObject (hlist (TypePath.worded_asBound hfirst) hbs) false p.site,
        by simp [Ty.bounds], ?_⟩
      rw [Ty.render_traitObject_cons, render, htext, TypeBound.render, TypePath.render_asBound]
      exact String.empty_append.symm
  | function binder quals params variadic output site =>
      simp only [readsAsBounds, Bool.and_eq_true, Bool.not_eq_true', List.all_eq_true] at h
      obtain ⟨⟨⟨hquals, rfl⟩, hparams⟩, hloose⟩ := h
      cases output with
      | none => cases hloose
      | some output =>
          obtain ⟨first, b, bs, hfirst, hbs, htext⟩ :=
            hcuts (.ty output) (List.mem_append_right _ List.mem_cons_self) hloose
          have hbinder : ∀ l ∈ binder, (Part.introduced l).Worded := fun l hl =>
            hbelow _ (by simp [Part.children, hl])
          have hinputs : ∀ t ∈ params.filterMap Param.ty, (Part.ty t).Worded := fun t ht => by
            obtain ⟨⟨name, kind, ty, span⟩, hp, rfl⟩ := List.mem_filterMap.1 ht
            have hparam := hbelow (.param ⟨name, kind, some t, span⟩) (by simp [Part.children, hp])
            exact (Part.worded_iff.1 hparam).2 _ List.mem_cons_self
          have hbound := TraitBound.worded_ofFunction hbinder hinputs hfirst site
          refine ⟨.traitObject (.trait (.ofFunction binder (params.filterMap Param.ty) first site)
            :: b :: bs) false site, Ty.worded_traitObject (hlist hbound hbs) false site,
            by simp [Ty.bounds], ?_⟩
          rw [Ty.render_traitObject_cons, render_function_of_isBare hquals hparams,
            TypeBound.render, TraitBound.render_ofFunction, TraitBound.render_ofFunction, htext]
          simp [String.append_assoc]

/-- **Which types read as a list of two or more bounds**: those for which `readsAsBounds` is false
do not, and all others do, if nothing is written behind the outputs in them. -/
theorem OperandTy.reads_as_bounds {t : OperandTy} (ht : (Part.operand t).Worded) :
    (t.readsAsBounds = false → ∀ u : Ty, (Part.ty u).Worded → 2 ≤ u.bounds.length →
      t.render ≠ u.render) ∧
    (t.readsAsBounds = true → (Part.operand t).EndsInOutputs →
      ∃ u : Ty, (Part.ty u).Worded ∧ 2 ≤ u.bounds.length ∧ t.render = u.render) :=
  ⟨fun h _ hu hbounds => render_ne_bounds ht hu hbounds h, fun h hends => exists_bounds ht hends h⟩

/-! ### Functions that return two bounds -/

/-- The bound of one name. -/
def TraitBound.named (name : String) : TraitBound :=
  (TypePath.ofIdent ⟨name⟩ default).asBound false

/-- The path `Fn() -> T`. -/
def TypePath.callback (output : Ty) : TypePath :=
  ⟨[.function ⟨"Fn"⟩ [] (some output) default], false, default⟩

/-- The hidden type `impl A + B`. -/
def Ty.implBoth : Ty := .implTrait [.trait (.named "A"), .trait (.named "B")] default

/-- The list of the bounds `Fn() -> impl A` and `B`. -/
def Ty.callbackAndB : Ty :=
  .traitObject [.trait ((TypePath.callback (.operand (.implOne (.named "A") default))).asBound
    false), .trait (.named "B")] false default

/-- The function type `unsafe fn() -> impl A + B`. -/
def OperandTy.unsafeFunction : OperandTy :=
  .function [] ⟨false, false, true, false, none⟩ [] false (some .implBoth) default

theorem TraitBound.worded_named {name : String} (h : IsWord name) :
    (Part.traitBound (.named name)).Worded := by
  have hsegment : (Part.typeSegment (.plain ⟨name⟩ (default : Site).span)).Worded :=
    .of (by simpa [Part.ownWords] using h) (by simp [Part.children])
  exact TypePath.worded_asBound (.of (by simp [Part.ownWords])
    (by simpa [Part.children, TypePath.ofIdent] using hsegment))

theorem TypePath.worded_callback {output : Ty} (h : (Part.ty output).Worded) :
    (Part.typePath (.callback output)).Worded := by
  have hsegment : (Part.typeSegment (.function ⟨"Fn"⟩ [] (some output) default)).Worded :=
    .of (List.forall_mem_singleton.2 (by decide)) (List.forall_mem_singleton.2 h)
  exact .of (by simp [Part.ownWords]) (List.forall_mem_singleton.2 hsegment)

theorem OperandTy.worded_callback {output : Ty} (h : (Part.ty output).Worded) :
    (Part.operand (.path (.callback output))).Worded :=
  .of (by simp [Part.ownWords]) (List.forall_mem_singleton.2 (TypePath.worded_callback h))

theorem Ty.worded_implBoth : (Part.ty .implBoth).Worded := by
  have hA := TypeBound.worded_trait (TraitBound.worded_named (by decide : IsWord "A"))
  have hB := TypeBound.worded_trait (TraitBound.worded_named (by decide : IsWord "B"))
  exact Ty.worded_implTrait (by simpa using ⟨hA, hB⟩) default

theorem Ty.worded_callbackAndB : (Part.ty .callbackAndB).Worded := by
  have himpl : (Part.operand (.implOne (.named "A") default)).Worded :=
    .of (by simp [Part.ownWords])
      (List.forall_mem_singleton.2 (TraitBound.worded_named (by decide)))
  have hpath := TypePath.worded_callback (Ty.worded_operand himpl)
  have hfirst := TypeBound.worded_trait (TypePath.worded_asBound hpath)
  have hB := TypeBound.worded_trait (TraitBound.worded_named (by decide : IsWord "B"))
  exact Ty.worded_traitObject (by simpa using ⟨hfirst, hB⟩) false default

theorem OperandTy.worded_unsafeFunction : (Part.operand unsafeFunction).Worded :=
  .of (by simp [Part.ownWords, unsafeFunction]) (List.forall_mem_singleton.2 Ty.worded_implBoth)

theorem TypeBound.endsInOutputs_named (name : String) :
    (Part.typeBound (.trait (.named name))).EndsInOutputs := by
  have hsegment : (Part.typeSegment (.plain ⟨name⟩ (default : Site).span)).EndsInOutputs :=
    .of (by simp [Part.earlierSegments]) (by simp [Part.children])
  have hpath : (Part.typePath (.ofIdent ⟨name⟩ default)).EndsInOutputs :=
    .of (by simp [Part.earlierSegments, TypePath.ofIdent]) (List.forall_mem_singleton.2 hsegment)
  have hbound : (Part.traitBound (.named name)).EndsInOutputs :=
    .of (by simp [Part.earlierSegments]) (List.forall_mem_singleton.2 hpath)
  exact .of (by simp [Part.earlierSegments]) (List.forall_mem_singleton.2 hbound)

theorem OperandTy.endsInOutputs_callback :
    (Part.operand (.path (.callback .implBoth))).EndsInOutputs := by
  have hboth : (Part.ty .implBoth).EndsInOutputs :=
    .of (by simp [Part.earlierSegments]) (List.forall_mem_cons.2
      ⟨TypeBound.endsInOutputs_named "A",
        List.forall_mem_singleton.2 (TypeBound.endsInOutputs_named "B")⟩)
  have hsegment : (Part.typeSegment (.function ⟨"Fn"⟩ [] (some .implBoth) default)).EndsInOutputs :=
    .of (by simp [Part.earlierSegments]) (List.forall_mem_singleton.2 hboth)
  have hpath : (Part.typePath (.callback .implBoth)).EndsInOutputs :=
    .of (by simp [Part.earlierSegments, TypePath.callback]) (List.forall_mem_singleton.2 hsegment)
  exact .of (by simp [Part.earlierSegments]) (List.forall_mem_singleton.2 hpath)

/-- `Fn() -> (impl A + B)` and `unsafe fn() -> impl A + B` are not the list of `Fn() -> impl A` and
`B`, but without the parentheses the first is such a list. -/
theorem OperandTy.reads_as_bounds_callback :
    ((Part.operand (.path (.callback (.operand (.paren .implBoth default))))).Worded ∧
      (OperandTy.path (.callback (.operand (.paren .implBoth default)))).readsAsBounds = false ∧
      (Part.ty .callbackAndB).Worded ∧ 2 ≤ Ty.callbackAndB.bounds.length ∧
      (OperandTy.path (.callback (.operand (.paren .implBoth default)))).render ≠
        Ty.callbackAndB.render) ∧
    ((Part.operand unsafeFunction).Worded ∧ unsafeFunction.readsAsBounds = false ∧
      unsafeFunction.render ≠ Ty.callbackAndB.render) ∧
    (Part.operand (.path (.callback .implBoth))).Worded ∧
      (OperandTy.path (.callback .implBoth)).readsAsBounds = true ∧
      (Part.operand (.path (.callback .implBoth))).EndsInOutputs ∧
      ∃ u : Ty, (Part.ty u).Worded ∧ 2 ≤ u.bounds.length ∧
        (OperandTy.path (.callback .implBoth)).render = u.render := by
  have hparen : (Part.operand (.paren .implBoth default)).Worded :=
    .of (by simp [Part.ownWords]) (List.forall_mem_singleton.2 Ty.worded_implBoth)
  have hcallback := worded_callback (Ty.worded_operand hparen)
  have hboth := worded_callback Ty.worded_implBoth
  have hlength : 2 ≤ Ty.callbackAndB.bounds.length := by decide
  exact ⟨⟨hcallback, rfl, Ty.worded_callbackAndB, hlength,
      (reads_as_bounds hcallback).1 rfl _ Ty.worded_callbackAndB hlength⟩,
    ⟨worded_unsafeFunction, rfl,
      (reads_as_bounds worded_unsafeFunction).1 rfl _ Ty.worded_callbackAndB hlength⟩,
    hboth, rfl, endsInOutputs_callback, (reads_as_bounds hboth).2 rfl endsInOutputs_callback⟩

/-- `Fn() -> impl A + B` is written like the list of `Fn() -> impl A` and `B`. -/
theorem OperandTy.callback_eq_bounds :
    (Part.operand (.path (.callback .implBoth))).Worded ∧ (Part.ty .callbackAndB).Worded ∧
      2 ≤ Ty.callbackAndB.bounds.length ∧
      (OperandTy.path (.callback .implBoth)).render = Ty.callbackAndB.render :=
  ⟨OperandTy.worded_callback Ty.worded_implBoth, Ty.worded_callbackAndB, by decide, by decide⟩

end SurfaceTree
