/-
Lists as they are written: a separator between each part and the next, and nowhere else.

No list is put together in that way.  Some loops count and put the separator in front of all parts
but the first; others remember whether something was written, and go on from one list to the next.
The items around a rest marker each bring a comma of their own, before the marker after it or after
the marker before it; the rest marker of a struct pattern and the dots of a variadic function bring
one only if something stands before them.  Here all of them are led back to one rule, in which a
marker is a part among the parts.  The rule needs no exception for empty lists: where there are no
parts nothing is written, and where there is only one there is no separator.

Main definitions:

* `Text.joined` — **the rule**: some texts with a separator between each and the next.

Main results:

* `Text.intercalate_eq_joined`, `Text.separated_eq_joined` — the joining of texts obeys the rule,
  and so does the loop that counts;
* `Text.joined_concat`, `Text.joined_append_cons` — a marker at the end, and one in the middle;
* `Items.render_ranged_eq_joined`, `Elements.render_eq_joined`,
  `OperandTy.render_function_eq_joined` — lists with a marker;
* `lists_are_joined` — **in patterns and types, every list with commas or plus signs is written by
  the rule**.
-/

import SurfaceTree.Pattern.Render

set_option relaxedAutoImplicit false
set_option autoImplicit false

namespace SurfaceTree

/-! ### The rule -/

namespace Text

/-- Some texts with a separator between each and the next. -/
def joined (sep : String) (texts : List String) : String := String.join (texts.intersperse sep)

variable (sep : String)

@[simp] theorem joined_nil : joined sep [] = "" := rfl

@[simp] theorem joined_singleton (t : String) : joined sep [t] = t := by
  rw [joined, List.intersperse_singleton, String.join_cons, String.join_nil, String.append_empty]

@[simp] theorem joined_cons_cons (t u : String) (texts : List String) :
    joined sep (t :: u :: texts) = t ++ sep ++ joined sep (u :: texts) := by
  rw [joined, List.intersperse_cons_cons, String.join_cons, String.join_cons, joined,
    String.append_assoc]

/-- The joining of texts obeys the rule. -/
theorem intercalate_eq_joined (texts : List String) :
    sep.intercalate texts = joined sep texts := by
  induction texts with
  | nil => rfl
  | cons t texts ih =>
      cases texts with
      | nil => rw [String.intercalate_singleton, joined_singleton]
      | cons u texts => rw [String.intercalate_cons_cons, joined_cons_cons, ih]

/-- The loop that counts obeys the rule. -/
theorem separated_eq_joined (texts : List String) : separated sep texts = joined sep texts := by
  rw [separated_eq_intercalate, intercalate_eq_joined]

/-- All texts but the first have a separator before them. -/
theorem joined_cons (t : String) (texts : List String) :
    joined sep (t :: texts) = t ++ String.join (texts.map (sep ++ ·)) := by
  induction texts generalizing t with
  | nil => simp
  | cons u texts ih =>
      rw [joined_cons_cons, ih u, List.map_cons, String.join_cons]
      simp only [String.append_assoc]

/-- A separator stands before the last text, if it is not the only one. -/
theorem joined_concat (texts : List String) (t : String) :
    joined sep (texts ++ [t]) =
      joined sep texts ++ ((if texts.isEmpty then "" else sep) ++ t) := by
  cases texts with
  | nil => simp
  | cons u texts =>
      rw [List.cons_append, joined_cons, joined_cons, List.map_append, String.join_append]
      simp [String.append_assoc]

/-- Around one of the texts, those before it have a separator after them, and those after it have
one before them. -/
theorem joined_append_cons (before : List String) (t : String) (after : List String) :
    joined sep (before ++ t :: after) =
      String.join (before.map (· ++ sep)) ++ t ++ String.join (after.map (sep ++ ·)) := by
  induction before with
  | nil => simp [joined_cons]
  | cons u before ih =>
      have hcons : joined sep (u :: (before ++ t :: after)) =
          u ++ sep ++ joined sep (before ++ t :: after) := by
        cases before <;> exact joined_cons_cons sep u _ _
      rw [List.cons_append, hcons, ih, List.map_cons, String.join_cons]
      simp only [String.append_assoc]

end Text

open Text

/-! ### Patterns -/

/-- Items around a rest marker, in a tuple and in a tuple struct. -/
theorem Items.render_ranged_eq_joined (style : ItemsStyle) (lower upper : List Pattern)
    (span : Span) :
    (Items.ranged lower upper span).render style =
      joined ", " (lower.map Pattern.render ++ [".."] ++ upper.map Pattern.render) := by
  rw [Items.render, Pattern.renderAll_eq_map, Pattern.renderAll_eq_map, List.append_assoc,
    List.singleton_append, joined_append_cons]

theorem Items.render_flat_eq_joined (style : ItemsStyle) (patterns : List Pattern) (span : Span) :
    (Items.flat patterns span).render style =
      joined ", " (patterns.map Pattern.render) ++
        if style = .tuple ∧ patterns.length = 1 then "," else "" := by
  rw [Items.render, Pattern.renderAll_eq_map, separated_eq_joined]

theorem Pattern.render_slice_eq_joined (patterns : List Pattern) (span : Span) :
    (Pattern.slice patterns span).render =
      "[" ++ joined ", " (patterns.map Pattern.render) ++ "]" := by
  rw [Pattern.render, Pattern.renderAll_eq_map, separated_eq_joined]

/-- The rest marker with its attributes is the last part between the braces. -/
theorem Elements.render_eq_joined (e : Elements) :
    e.render = joined ", " (e.live.map Field.render ++
      if e.hasRest then [Attribute.renderOuter e.restAttrs ++ ".."] else []) := by
  rw [Elements.render_eq_intercalate, intercalate_eq_joined, Field.renderLive_eq_map]
  cases e.hasRest with
  | false => simp [Elements.live]
  | true =>
      rw [if_pos rfl, if_pos rfl, joined_concat, String.append_assoc]
      rfl

/-! ### Types -/

theorem GenericArgs.render_eq_joined (a : GenericArgs) :
    a.render = "<" ++ joined ", " (a.lifetimes.map Lifetime.render ++ a.types.map Ty.render ++
      a.bindings.map Binding.render) ++ ">" := by
  rw [GenericArgs.render_eq_intercalate, Ty.renderAll_eq_map, Binding.renderAll_eq_map,
    intercalate_eq_joined]

theorem OperandTy.render_tuple_eq_joined (elems : List Ty) (site : Site) :
    (OperandTy.tuple elems site).render =
      "(" ++ (joined ", " (elems.map Ty.render) ++ if elems.length = 1 then "," else "") ++
        ")" := by
  rw [OperandTy.render, Ty.renderAll_eq_map, separated_eq_joined]
  simp only [String.append_assoc]

/-- The dots of a variadic function are the last of its parameters. -/
theorem OperandTy.render_function_eq_joined (binder : List LifetimeParam) (quals : FnQualifiers)
    (params : List Param) (variadic : Bool) (output : Option Ty) (site : Site) :
    (OperandTy.function binder quals params variadic output site).render =
      LifetimeParam.renderBinder binder ++ quals.render ++ "fn(" ++
        joined ", " (params.map Param.render ++ if variadic then ["..."] else []) ++ ")" ++
        Ty.renderOutput output := by
  have hdots : joined ", " (params.map Param.render) ++
      (if variadic then if params.isEmpty then "..." else ", ..." else "") =
      joined ", " (params.map Param.render ++ if variadic then ["..."] else []) := by
    cases variadic with
    | false => simp
    | true =>
        rw [if_pos rfl, if_pos rfl, joined_concat, List.isEmpty_map]
        cases params.isEmpty <;> rfl
  rw [OperandTy.render, Param.renderAll_eq_map, separated_eq_joined, ← hdots]
  simp only [String.append_assoc]

theorem TypeSegment.render_function_eq_joined (name : Ident) (inputs : List Ty)
    (output : Option Ty) (span : Span) :
    (TypeSegment.function name inputs output span).render =
      name.text ++ "(" ++ joined ", " (inputs.map Ty.render) ++ ")" ++ Ty.renderOutput output := by
  rw [TypeSegment.render, Ty.renderAll_eq_map, separated_eq_joined]

/-! ### Bounds -/

theorem Ty.render_implTrait_eq_joined (bounds : List TypeBound) (site : Site) :
    (Ty.implTrait bounds site).render =
      "impl " ++ joined " + " (bounds.map TypeBound.render) := by
  rw [Ty.render, TypeBound.renderAll_eq_map, separated_eq_joined]

theorem Ty.render_traitObject_eq_joined (bounds : List TypeBound) (hasDyn : Bool) (site : Site) :
    (Ty.traitObject bounds hasDyn site).render =
      (if hasDyn then "dyn " else "") ++ joined " + " (bounds.map TypeBound.render) := by
  rw [Ty.render, TypeBound.renderAll_eq_map, separated_eq_joined]

/-- The colon is written only if there are bounds after it. -/
theorem LifetimeParam.render_eq_joined (p : LifetimeParam) :
    p.render = p.lifetime.render ++ (if p.bounds.isEmpty then "" else ": ") ++
      joined " + " (p.bounds.map Lifetime.render) := by
  rw [LifetimeParam.render_eq_intercalate, intercalate_eq_joined]

/-- Without lifetimes to introduce, nothing is written. -/
theorem LifetimeParam.renderBinder_eq_joined (binder : List LifetimeParam) :
    LifetimeParam.renderBinder binder =
      if binder.isEmpty then "" else "for<" ++ joined ", " (binder.map render) ++ "> " := by
  cases binder with
  | nil => rfl
  | cons p binder =>
      rw [← separated_eq_joined]
      rfl

/-! ### All lists -/

/-- **In patterns and types, every list with commas or plus signs is written by the rule**: its
parts one after another, with a separator between each and the next, whether there are many of
them, one or none.  The rest marker and the dots of a variadic function are parts like the others,
and only a tuple with a single part, in a pattern and in a type, has a comma after it. -/
theorem lists_are_joined :
    (∀ (style : ItemsStyle) (lower upper : List Pattern) (span : Span),
      (Items.ranged lower upper span).render style =
        joined ", " (lower.map Pattern.render ++ [".."] ++ upper.map Pattern.render)) ∧
    (∀ (patterns : List Pattern) (span : Span),
      (Items.flat patterns span).render .tupleStruct =
        joined ", " (patterns.map Pattern.render)) ∧
    (∀ (patterns : List Pattern) (span : Span),
      (Items.flat patterns span).render .tuple =
        joined ", " (patterns.map Pattern.render) ++ if patterns.length = 1 then "," else "") ∧
    (∀ (patterns : List Pattern) (span : Span),
      (Pattern.slice patterns span).render =
        "[" ++ joined ", " (patterns.map Pattern.render) ++ "]") ∧
    (∀ e : Elements,
      e.render = joined ", " (e.live.map Field.render ++
        if e.hasRest then [Attribute.renderOuter e.restAttrs ++ ".."] else [])) ∧
    (∀ a : GenericArgs,
      a.render = "<" ++ joined ", " (a.lifetimes.map Lifetime.render ++ a.types.map Ty.render ++
        a.bindings.map Binding.render) ++ ">") ∧
    (∀ (elems : List Ty) (site : Site),
      (OperandTy.tuple elems site).render =
        "(" ++ (joined ", " (elems.map Ty.render) ++ if elems.length = 1 then "," else "") ++
          ")") ∧
    (∀ (binder : List LifetimeParam) (quals : FnQualifiers) (params : List Param)
      (variadic : Bool) (output : Option Ty) (site : Site),
      (OperandTy.function binder quals params variadic output site).render =
        LifetimeParam.renderBinder binder ++ quals.render ++ "fn(" ++
          joined ", " (params.map Param.render ++ if variadic then ["..."] else []) ++ ")" ++
          Ty.renderOutput output) ∧
    (∀ (name : Ident) (inputs : List Ty) (output : Option Ty) (span : Span),
      (TypeSegment.function name inputs output span).render =
        name.text ++ "(" ++ joined ", " (inputs.map Ty.render) ++ ")" ++
          Ty.renderOutput output) ∧
    (∀ binder : List LifetimeParam,
      LifetimeParam.renderBinder binder = if binder.isEmpty then ""
        else "for<" ++ joined ", " (binder.map LifetimeParam.render) ++ "> ") ∧
    (∀ (bounds : List TypeBound) (site : Site),
      (Ty.implTrait bounds site).render =
        "impl " ++ joined " + " (bounds.map TypeBound.render)) ∧
    (∀ (bounds : List TypeBound) (hasDyn : Bool) (site : Site),
      (Ty.traitObject bounds hasDyn site).render =
        (if hasDyn then "dyn " else "") ++ joined " + " (bounds.map TypeBound.render)) ∧
    (∀ p : LifetimeParam,
      p.render = p.lifetime.render ++ (if p.bounds.isEmpty then "" else ": ") ++
        joined " + " (p.bounds.map Lifetime.render)) := by
  refine ⟨Items.render_ranged_eq_joined, fun patterns span => ?_, fun patterns span => ?_,
    Pattern.render_slice_eq_joined, Elements.render_eq_joined, GenericArgs.render_eq_joined,
    OperandTy.render_tuple_eq_joined, OperandTy.render_function_eq_joined,
    TypeSegment.render_function_eq_joined, LifetimeParam.renderBinder_eq_joined,
    Ty.render_implTrait_eq_joined, Ty.render_traitObject_eq_joined,
    LifetimeParam.render_eq_joined⟩
  · rw [Items.render_flat_eq_joined, if_neg (fun h => nomatch h.1), String.append_empty]
  · rw [Items.render_flat_eq_joined]
    simp only [true_and]

end SurfaceTree
