/-
What is seen of types outside all brackets.

After `&` and `*` no list of two or more bounds may stand, since a reader would take the bounds
after the first for something else.  Such a list still gets there if it is returned by a function,
as in `&Fn() -> impl A + B`.  Whether that has happened is told by the plus signs outside all
brackets, and by nothing but the structure of the type.

Main definitions:

* `Text.IsWord` — letters, digits and underscores, at least one of them;
* `Part.Worded` — all names, values and calling conventions in a part of a type are words;
* `Ty.isLoose`, `OperandTy.isLoose` — **a list of two or more bounds stands outside all brackets**;
* `Part.Nests` — what a part of each family shows outside all brackets.

Main results:

* `Ty.isLoose_of_bounds` — a list of two or more bounds stands outside all brackets itself;
* `Part.Worded.nests` — **a plus sign is seen of a type exactly if it is loose**, and no comma is.
-/

import SurfaceTree.Proofs.Nesting
import SurfaceTree.Proofs.Parts

set_option relaxedAutoImplicit false
set_option autoImplicit false

namespace SurfaceTree

open Text

/-! ### Words -/

/-- Letters, digits and underscores, at least one of them. -/
def Text.IsWord (s : String) : Prop := s ≠ "" ∧ ∀ c ∈ s.toList, Config.IsNamePart c

instance : DecidablePred IsWord := fun s =>
  @instDecidableAnd _ _ inferInstance (List.decidableBAll Config.IsNamePart s.toList)

theorem Text.IsWord.shows {s : String} (h : IsWord s) : Shows s false := shows_of_isNamePart h.2

namespace Part

/-- The names, values and calling conventions that are written at a part of a type itself.  The
suffix of a literal is part of its value here. -/
def ownWords : Part → List String
  | binding b => [b.name.text]
  | exprSegment s => [s.name.text]
  | typeSegment (.plain name _) | typeSegment (.generic name _ _)
  | typeSegment (.function name _ _ _) => [name.text]
  | lifetime l => [l.name.text]
  | param ⟨name, .identifier, some _, _⟩ => [name.text]
  | arraySize (.literal v) => v.value :: v.suffix.toList
  | operand (.function _ quals _ _ _ _) => if quals.isExtern then quals.abi.toList else []
  | _ => []

/-- **All names, values and calling conventions in a part of a type are words.** -/
inductive Worded : Part → Prop
  | of {p : Part} (own : ∀ s ∈ p.ownWords, IsWord s) (below : ∀ c ∈ p.children, Worded c) : Worded p

theorem worded_iff {p : Part} :
    p.Worded ↔ (∀ s ∈ p.ownWords, IsWord s) ∧ ∀ c ∈ p.children, c.Worded := by
  constructor
  · rintro ⟨own, below⟩
    exact ⟨own, below⟩
  · rintro ⟨own, below⟩
    exact ⟨own, below⟩

end Part

theorem TypeBound.worded_trait {b : TraitBound} (h : (Part.traitBound b).Worded) :
    (Part.typeBound (.trait b)).Worded :=
  .of (by simp [Part.ownWords]) (by simpa [Part.children] using h)

theorem Ty.worded_operand {t : OperandTy} (h : (Part.operand t).Worded) :
    (Part.ty (.operand t)).Worded :=
  .of (by simp [Part.ownWords]) (by simpa [Part.children] using h)

/-! ### Lists of bounds outside all brackets -/

mutual

/-- The output of the function that a segment names is loose. -/
def TypeSegment.isLoose : TypeSegment → Bool
  | .plain _ _ | .generic _ _ _ => false
  | .function _ _ output _ => Ty.isLooseOutput output

/-- One of some segments is loose. -/
def TypeSegment.anyLoose : List TypeSegment → Bool
  | [] => false
  | s :: ss => s.isLoose || TypeSegment.anyLoose ss

/-- One of the segments of a path is loose. -/
def TypePath.isLoose : TypePath → Bool
  | ⟨segments, _, _⟩ => TypeSegment.anyLoose segments

/-- What the path starts from is in brackets. -/
def QualifiedTypePath.isLoose : QualifiedTypePath → Bool
  | ⟨_, segments, _⟩ => TypeSegment.anyLoose segments

/-- The path of a trait is loose.  The lifetimes of its binder are in brackets. -/
def TraitBound.isLoose : TraitBound → Bool
  | ⟨path, _, _, _, _⟩ => path.isLoose

/-- The trait that a bound consists of is loose. -/
def TypeBound.isLoose : TypeBound → Bool
  | .trait b => b.isLoose
  | .lifetime _ => false

/-- One of some bounds is loose. -/
def TypeBound.anyLoose : List TypeBound → Bool
  | [] => false
  | b :: bs => b.isLoose || TypeBound.anyLoose bs

/-- **A list of two or more bounds stands outside all brackets**: it was returned, or pointed to. -/
def OperandTy.isLoose : OperandTy → Bool
  | .implOne bound _ | .objectOne bound _ _ => bound.isLoose
  | .path p => p.isLoose
  | .qualified p => p.isLoose
  | .pointer _ pointee _ => pointee.isLoose
  | .reference _ _ referent _ => referent.isLoose
  | .function _ _ _ _ output _ => Ty.isLooseOutput output
  | .paren _ _ | .tuple _ _ | .never _ | .array _ _ _ | .slice _ _ | .inferred _ => false

/-- **A list of two or more bounds stands outside all brackets.** -/
def Ty.isLoose : Ty → Bool
  | .implTrait bounds _ | .traitObject bounds _ _ =>
      decide (2 ≤ bounds.length) || TypeBound.anyLoose bounds
  | .operand t => t.isLoose

/-- There is an output, and it is loose. -/
def Ty.isLooseOutput : Option Ty → Bool
  | none => false
  | some t => t.isLoose

end

theorem TypeSegment.anyLoose_eq_any (ss : List TypeSegment) :
    TypeSegment.anyLoose ss = ss.any TypeSegment.isLoose := by
  induction ss with
  | nil => rfl
  | cons s ss ih => rw [TypeSegment.anyLoose, ih, List.any_cons]

theorem TypeBound.anyLoose_eq_any (bs : List TypeBound) :
    TypeBound.anyLoose bs = bs.any TypeBound.isLoose := by
  induction bs with
  | nil => rfl
  | cons b bs ih => rw [TypeBound.anyLoose, ih, List.any_cons]

/-- The bounds of a list of bounds. -/
def Ty.bounds : Ty → List TypeBound
  | .implTrait bounds _ | .traitObject bounds _ _ => bounds
  | .operand _ => []

theorem Ty.isLoose_of_bounds {u : Ty} (h : 2 ≤ u.bounds.length) : u.isLoose = true := by
  cases u with
  | implTrait bounds site => simpa [isLoose] using .inl h
  | traitObject bounds hasDyn site => simpa [isLoose] using .inl h
  | operand t => simp [bounds] at h

/-! ### What each family shows -/

/-- What every family of types and of their parts shows.  What stands in brackets only may show
anything. -/
def Part.Nests : Part → Prop
  | ty t => Shows t.render t.isLoose
  | operand t => Shows t.render t.isLoose
  | traitBound b => Shows b.render b.isLoose
  | typeBound b => Shows b.render b.isLoose
  | typePath p => Shows p.render p.isLoose
  | typeSegment s => Shows s.render s.isLoose
  | qualifiedPath p => Shows p.render p.isLoose
  | args a => Shows a.render false
  | qself q => Shows q.render false
  | lifetime l => Shows l.render false
  | binding b => Balanced b.render
  | exprPath p => Balanced p.render
  | exprSegment s => Balanced s.render
  | param p => Uncut p.render
  | arraySize s => Balanced s.render
  | introduced l => Balanced l.render
  | pattern _ | rangeBound _ | elements _ | field _ | items _ _ | qualifiedExprPath _ => True

theorem Text.shows_ite {s : String} (b : Bool) (h : Shows s false) :
    Shows (if b then s else "") false := by
  cases b with
  | false => exact shows_empty
  | true => exact h

theorem Lifetime.shows_render {l : Lifetime} (h : IsWord l.name.text) : Shows l.render false :=
  (shows_of_plain (by decide) : Shows "'" false).append h.shows

theorem LifetimeParam.balanced_render {l : LifetimeParam} (hl : Shows l.lifetime.render false)
    (hbounds : ∀ b ∈ l.bounds, Shows b.render false) : Balanced l.render := by
  have hcolon : Balanced (if l.bounds.isEmpty then "" else ": ") := by
    split
    · exact Balanced.empty
    · exact IsPlain.balanced (by decide)
  rw [LifetimeParam.render_eq_joined, ← separated_eq_joined]
  exact (hl.balanced.append hcolon).append (shows_plus.separated hbounds).balanced

theorem LifetimeParam.shows_renderBinder {ls : List LifetimeParam}
    (h : ∀ l ∈ ls, Balanced l.render) : Shows (renderBinder ls) false := by
  cases ls with
  | nil => exact shows_empty
  | cons l ls =>
      have hopen : Crosses "for<" 0 1 false :=
        ⟨['f', 'o', 'r'], fun depth _ => by cases depth <;> rfl, by decide, rfl⟩
      have hclose : Crosses "> " 1 0 false :=
        ⟨[' '], fun depth _ => by cases depth <;> rfl, by decide, rfl⟩
      have hall := balanced_comma.separated (List.forall_mem_map.2 h)
      exact (hopen.append hall.inside).append hclose

theorem Literal.balanced_render {v : Literal} (hvalue : IsWord v.value)
    (hsuffix : ∀ s ∈ v.suffix, IsWord s) : Balanced v.render := by
  have hquoted : ∀ {before after : String}, IsPlain before → IsPlain after →
      Balanced (before ++ v.value ++ after) := fun hbefore hafter =>
    (hbefore.balanced.append hvalue.shows.balanced).append hafter.balanced
  have hbody : Balanced v.body := by
    unfold body
    cases v.kind with
    | char => exact hquoted (by decide) (by decide)
    | text => exact hquoted (by decide) (by decide)
    | byte => exact hquoted (by decide) (by decide)
    | bytes => exact hquoted (by decide) (by decide)
    | int | float | bool => exact hvalue.shows.balanced
  have hend : Balanced (v.suffix.getD "") := by
    cases hs : v.suffix with
    | none => exact Balanced.empty
    | some s => exact (hsuffix s hs).shows.balanced
  exact hbody.append hend

theorem FnQualifiers.shows_render {q : FnQualifiers}
    (h : ∀ abi ∈ (if q.isExtern then q.abi.toList else []), IsWord abi) : Shows q.render false := by
  obtain ⟨isConst, isAsync, isUnsafe, isExtern, abi⟩ := q
  have hconst : Shows "const " false := shows_of_plain (by decide)
  have hasync : Shows "async " false := shows_of_plain (by decide)
  have hunsafe : Shows "unsafe " false := shows_of_plain (by decide)
  refine (((shows_ite isConst hconst).append (shows_ite isAsync hasync)).append
    (shows_ite isUnsafe hunsafe)).append ?_
  cases isExtern with
  | false => exact shows_empty
  | true =>
      have hextern : Shows "extern " false := shows_of_plain (by decide)
      cases abi with
      | none => exact hextern.append shows_empty
      | some abi =>
          have habi : IsWord abi := h abi (List.mem_singleton.2 rfl)
          have hbefore : Shows "\"" false := shows_of_plain (by decide)
          have hafter : Shows "\" " false := shows_of_plain (by decide)
          exact hextern.append ((hbefore.append habi.shows).append hafter)

theorem shows_rootMark (rooted : Bool) : Shows (rootMark rooted) false :=
  shows_ite rooted (shows_of_plain (by decide))

theorem TypeSegment.shows_renderAll {ss : List TypeSegment}
    (h : ∀ s ∈ ss, Shows s.render s.isLoose) :
    Shows (separated "::" (TypeSegment.renderAll ss)) (TypeSegment.anyLoose ss) := by
  rw [renderAll_eq_map, anyLoose_eq_any]
  exact shows_colons.separated h

/-- Between bounds there is a plus sign, as soon as there are two of them. -/
theorem TypeBound.shows_renderAll {bs : List TypeBound} (h : ∀ b ∈ bs, Shows b.render b.isLoose) :
    Shows (separated " + " (TypeBound.renderAll bs))
      (decide (2 ≤ bs.length) || TypeBound.anyLoose bs) := by
  rw [renderAll_eq_map, anyLoose_eq_any]
  exact shows_plus.separated h

theorem Ty.balanced_renderAll {ts : List Ty} (h : ∀ t ∈ ts, Shows t.render t.isLoose) :
    Balanced (separated ", " (Ty.renderAll ts)) := by
  rw [renderAll_eq_map]
  exact balanced_comma.separated (List.forall_mem_map.2 fun t ht => (h t ht).balanced)

theorem Ty.shows_renderOutput {output : Option Ty}
    (h : ∀ t ∈ output.toList, Shows t.render t.isLoose) :
    Shows (Ty.renderOutput output) (Ty.isLooseOutput output) := by
  cases output with
  | none => exact shows_empty
  | some t =>
      exact shows_arrow.append (h t (List.mem_singleton.2 rfl))

namespace Part

theorem balanced_args {a : GenericArgs} (below : ∀ c ∈ (args a).children, c.Nests) :
    Balanced (joined ", " (a.lifetimes.map Lifetime.render ++ a.types.map Ty.render ++
      a.bindings.map Binding.render)) := by
  obtain ⟨lifetimes, types, bindings⟩ := a
  have htexts : ∀ text ∈ lifetimes.map Lifetime.render ++ types.map Ty.render ++
      bindings.map Binding.render, Balanced text := by
    simp only [List.mem_append, List.mem_map]
    rintro text ((⟨l, hl, rfl⟩ | ⟨t, ht, rfl⟩) | ⟨b, hb, rfl⟩)
    · exact Crosses.balanced (below (lifetime l) (by simp [children, hl]))
    · exact Crosses.balanced (below (ty t) (by simp [children, ht]))
    · exact below (binding b) (by simp [children, hb])
  rw [← separated_eq_joined]
  exact balanced_comma.separated htexts

theorem nests_args {a : GenericArgs} (below : ∀ c ∈ (args a).children, c.Nests) :
    (args a).Nests := by
  rw [Nests, GenericArgs.render_eq_joined]
  exact (opens_angle.append (balanced_args below).inside).append closes_angle

theorem nests_qself {q : QualifiedSelf} (below : ∀ c ∈ (qself q).children, c.Nests) :
    (qself q).Nests := by
  obtain ⟨t, asTrait, span⟩ := q
  have hty : Balanced t.render := Crosses.balanced (below (ty t) List.mem_cons_self)
  have htrait : Balanced (TypePath.renderAsTrait asTrait) := by
    cases asTrait with
    | none => exact Balanced.empty
    | some p =>
        have has : Shows " as " false := shows_of_plain (by decide)
        have hp : Shows p.render p.isLoose := below (typePath p) (by simp [children])
        exact (has.append hp).balanced
  rw [Nests, QualifiedSelf.render]
  exact (opens_angle.append (hty.append htrait).inside).append closes_angle

theorem nests_exprSegment {s : ExprSegment} (own : ∀ w ∈ (exprSegment s).ownWords, IsWord w)
    (below : ∀ c ∈ (exprSegment s).children, c.Nests) : (exprSegment s).Nests := by
  obtain ⟨name, a, span⟩ := s
  have hname : IsWord name.text := own name.text List.mem_cons_self
  have hargs : Shows a.render false := below (args a) List.mem_cons_self
  rw [Nests, ExprSegment.render]
  refine hname.shows.balanced.append ?_
  split
  · exact Balanced.empty
  · exact (shows_colons.append hargs).balanced

theorem nests_typeSegment {s : TypeSegment} (own : ∀ w ∈ (typeSegment s).ownWords, IsWord w)
    (below : ∀ c ∈ (typeSegment s).children, c.Nests) : (typeSegment s).Nests := by
  rw [Nests]
  cases s with
  | plain name span => exact (own name.text List.mem_cons_self).shows
  | generic name a span =>
      have hname : IsWord name.text := own name.text List.mem_cons_self
      have hargs : Shows a.render false := below (args a) List.mem_cons_self
      rw [TypeSegment.render, TypeSegment.isLoose]
      refine hname.shows.append (b := false) ?_
      split
      · exact shows_empty
      · exact hargs
  | function name inputs output span =>
      have hname : IsWord name.text := own name.text List.mem_cons_self
      have hinputs := Ty.balanced_renderAll fun t ht =>
        below (ty t) (List.mem_append_left _ (List.mem_map_of_mem ht))
      have houtput := Ty.shows_renderOutput fun t ht =>
        below (ty t) (List.mem_append_right _ (List.mem_map_of_mem ht))
      rw [TypeSegment.render, TypeSegment.isLoose]
      exact (((hname.shows.append opens_round).append hinputs.inside).append
        closes_round).append houtput

theorem nests_arraySize {s : ArraySize} (own : ∀ w ∈ (arraySize s).ownWords, IsWord w)
    (below : ∀ c ∈ (arraySize s).children, c.Nests) : (arraySize s).Nests := by
  rw [Nests]
  cases s with
  | literal v =>
      exact Literal.balanced_render (own v.value List.mem_cons_self) fun s hs =>
        own s (List.mem_cons_of_mem _ (Option.mem_toList.2 hs))
  | path p => exact below (exprPath p) List.mem_cons_self
  | expr id =>
      have hbefore : Shows "\x7bexpr " false := shows_of_plain (by decide)
      have hafter : Shows "\x7d" false := shows_of_plain (by decide)
      exact ((hbefore.append (shows_toString _)).append hafter).balanced

/-- What stands for a missing type has its brackets around it. -/
theorem reads_error : Reads "<error>" 0 0 [] := fun depth _ => by cases depth <;> rfl

theorem nests_param {p : Param} (own : ∀ w ∈ (param p).ownWords, IsWord w)
    (below : ∀ c ∈ (param p).children, c.Nests) : (param p).Nests := by
  obtain ⟨name, kind, t, span⟩ := p
  have hcolon : Uncut ": " := ⟨_, IsPlain.reads (by decide), by decide⟩
  rw [Nests]
  cases t with
  | none => exact ⟨[], reads_error, by decide⟩
  | some t =>
      have hty : Shows t.render t.isLoose := below (ty t) List.mem_cons_self
      cases kind with
      | unnamed => exact hty.uncut
      | identifier =>
          have hname : IsWord name.text := own name.text List.mem_cons_self
          exact (hname.shows.uncut.append hcolon).append hty.uncut
      | wildcard =>
          have hwildcard : Uncut "_: " := ⟨_, IsPlain.reads (by decide), by decide⟩
          exact hwildcard.append hty.uncut

theorem nests_operand {t : OperandTy} (own : ∀ w ∈ (operand t).ownWords, IsWord w)
    (below : ∀ c ∈ (operand t).children, c.Nests) : (operand t).Nests := by
  rw [Nests]
  cases t with
  | paren inner site =>
      have hinner : Shows inner.render inner.isLoose := below (ty inner) List.mem_cons_self
      exact (opens_round.append hinner.balanced.inside).append closes_round
  | implOne bound site =>
      have himpl : Shows "impl " false := shows_of_plain (by decide)
      exact himpl.append (below (traitBound bound) List.mem_cons_self)
  | objectOne bound hasDyn site =>
      have hdyn : Shows "dyn " false := shows_of_plain (by decide)
      exact (shows_ite hasDyn hdyn).append (below (traitBound bound) List.mem_cons_self)
  | path p => exact below (typePath p) List.mem_cons_self
  | qualified p => exact below (qualifiedPath p) List.mem_cons_self
  | tuple elems site =>
      have helems := Ty.balanced_renderAll fun t ht => below (ty t) (List.mem_map_of_mem ht)
      have hcomma : Balanced (if elems.length = 1 then "," else "") := by
        split
        · exact IsPlain.balanced (by decide)
        · exact Balanced.empty
      exact ((opens_round.append helems.inside).append hcomma.inside).append closes_round
  | never site =>
      have hmark : Shows "!" false := shows_of_plain (by decide)
      exact hmark
  | pointer isMut pointee site =>
      have hstar : Shows "*" false := shows_of_plain (by decide)
      have hword : Shows (pointerWord isMut) false := by
        cases isMut <;> exact shows_of_plain (by decide)
      have hblank : Shows " " false := shows_of_plain (by decide)
      exact ((hstar.append hword).append hblank).append
        (below (operand pointee) List.mem_cons_self)
  | reference l isMut referent site =>
      have hmark : Shows "&" false := shows_of_plain (by decide)
      have hmut : Shows "mut " false := shows_of_plain (by decide)
      have hblank : Shows " " false := shows_of_plain (by decide)
      have hreferent : Shows referent.render referent.isLoose :=
        below (operand referent) (List.mem_append_right _ List.mem_cons_self)
      cases l with
      | none => exact ((hmark.append shows_empty).append (shows_ite isMut hmut)).append hreferent
      | some l =>
          have hl : Shows l.render false := below (lifetime l) List.mem_cons_self
          exact ((hmark.append (hl.append hblank)).append (shows_ite isMut hmut)).append hreferent
  | array elem size site =>
      have helem : Shows elem.render elem.isLoose := below (ty elem) List.mem_cons_self
      have hsize : Balanced size.render := below (arraySize size) (by simp [children])
      have hsemicolon : Shows "; " false := shows_of_plain (by decide)
      exact (((opens_square.append helem.balanced.inside).append
        hsemicolon.balanced.inside).append hsize.inside).append closes_square
  | slice elem site =>
      have helem : Shows elem.render elem.isLoose := below (ty elem) List.mem_cons_self
      exact (opens_square.append helem.balanced.inside).append closes_square
  | inferred site =>
      have hmark : Shows "_" false := shows_of_plain (by decide)
      exact hmark
  | function binder quals params variadic output site =>
      have hbinder := LifetimeParam.shows_renderBinder fun l (hl : l ∈ binder) =>
        below (introduced l) (by simp [children, hl])
      have hquals : Shows quals.render false := FnQualifiers.shows_render own
      have hfn : Crosses "fn(" 0 1 false :=
        ⟨['f', 'n'], fun depth _ => by cases depth <;> rfl, by decide, rfl⟩
      have hparams : Balanced (separated ", " (Param.renderAll params)) := by
        rw [Param.renderAll_eq_map]
        exact balanced_comma.separated (List.forall_mem_map.2 fun p hp =>
          Uncut.balanced (below (param p) (by simp [children, hp])))
      have hdots : Balanced
          (if variadic then if params.isEmpty then "..." else ", ..." else "") := by
        cases variadic
        · exact Balanced.empty
        · cases params.isEmpty <;> exact IsPlain.balanced (by decide)
      have houtput := Ty.shows_renderOutput fun t (ht : t ∈ output.toList) =>
        below (ty t) (List.mem_append_right _ (List.mem_map_of_mem ht))
      exact (((((hbinder.append hquals).append hfn).append hparams.inside).append
        hdots.inside).append closes_round).append houtput

/-- **What is written outside all brackets**, for every family. -/
theorem Worded.nests {p : Part} (h : p.Worded) : p.Nests := by
  induction h with
  | @of p own _ below =>
      cases p with
      | pattern _ | rangeBound _ | elements _ | field _ | items _ _ | qualifiedExprPath _ =>
          trivial
      | operand t => exact nests_operand own below
      | args a => exact nests_args below
      | qself q => exact nests_qself below
      | exprSegment s => exact nests_exprSegment own below
      | typeSegment s => exact nests_typeSegment own below
      | arraySize s => exact nests_arraySize own below
      | param p => exact nests_param own below
      | lifetime l => exact Lifetime.shows_render (own l.name.text List.mem_cons_self)
      | introduced l =>
          obtain ⟨l, bounds, span⟩ := l
          exact LifetimeParam.balanced_render (below (lifetime l) List.mem_cons_self) fun b hb =>
            below (lifetime b) (List.mem_cons_of_mem _ (List.mem_map_of_mem hb))
      | binding b =>
          obtain ⟨name, t, span⟩ := b
          have hname : IsWord name.text := own name.text List.mem_cons_self
          have hequals : Shows " = " false := shows_of_plain (by decide)
          have hty : Shows t.render t.isLoose := below (ty t) List.mem_cons_self
          exact ((hname.shows.append hequals).append hty).balanced
      | exprPath p =>
          obtain ⟨segments, rooted, span⟩ := p
          rw [Nests, ExprPath.render, ExprSegment.renderAll_eq_map]
          exact (shows_rootMark rooted).balanced.append (shows_colons.balanced.separated
            (List.forall_mem_map.2 fun s hs => below (exprSegment s) (List.mem_map_of_mem hs)))
      | typePath p =>
          obtain ⟨segments, rooted, site⟩ := p
          exact (shows_rootMark rooted).append (TypeSegment.shows_renderAll fun s hs =>
            below (typeSegment s) (List.mem_map_of_mem hs))
      | qualifiedPath p =>
          obtain ⟨q, segments, site⟩ := p
          have hq : Shows q.render false := below (qself q) List.mem_cons_self
          exact (hq.append shows_colons).append (TypeSegment.shows_renderAll fun s hs =>
            below (typeSegment s) (List.mem_cons_of_mem _ (List.mem_map_of_mem hs)))
      | traitBound b =>
          obtain ⟨path, inParens, maybe, binder, span⟩ := b
          have hmaybe : Shows "?" false := shows_of_plain (by decide)
          have hbinder := LifetimeParam.shows_renderBinder fun l (hl : l ∈ binder) =>
            below (introduced l) (List.mem_append_left _ (List.mem_map_of_mem hl))
          exact ((shows_ite maybe hmaybe).append hbinder).append
            (below (typePath path) (List.mem_append_right _ List.mem_cons_self))
      | typeBound b =>
          cases b with
          | trait b => exact below (traitBound b) List.mem_cons_self
          | lifetime l => exact below (lifetime l) List.mem_cons_self
      | ty t =>
          cases t with
          | operand t => exact below (operand t) List.mem_cons_self
          | implTrait bounds site =>
              have himpl : Shows "impl " false := shows_of_plain (by decide)
              exact himpl.append (TypeBound.shows_renderAll fun b hb =>
                below (typeBound b) (List.mem_map_of_mem hb))
          | traitObject bounds hasDyn site =>
              have hdyn : Shows "dyn " false := shows_of_plain (by decide)
              exact (shows_ite hasDyn hdyn).append (TypeBound.shows_renderAll fun b hb =>
                below (typeBound b) (List.mem_map_of_mem hb))

end Part


end SurfaceTree
