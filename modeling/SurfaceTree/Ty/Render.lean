/-
Source text of types and of their parts.

Main definitions:

* `Ty.render`, `OperandTy.render` — a type as it is written;
* `ExprPath.render`, `TypePath.render`, `QualifiedTypePath.render` — paths;
* `TraitBound.render`, `TypeBound.render`, `Param.render` — bounds and parameters.

A list of parts is rendered part by part and then joined; `Ty.renderAll_eq_map` and its companions
say that the companions used for the recursion are plain maps.
-/

import SurfaceTree.Ty.Basic

set_option relaxedAutoImplicit false
set_option autoImplicit false

namespace SurfaceTree

/-- The words in front of `fn`, each with a blank after it.  The calling convention is written
only if the word `extern` is. -/
def FnQualifiers.render (q : FnQualifiers) : String :=
  (if q.isConst then "const " else "") ++ (if q.isAsync then "async " else "") ++
    (if q.isUnsafe then "unsafe " else "") ++
    if q.isExtern then
      "extern " ++ match q.abi with
        | some abi => "\"" ++ abi ++ "\" "
        | none => ""
    else ""

/-- The word after the star of a raw pointer. -/
def pointerWord (isMut : Bool) : String := if isMut then "mut" else "const"

/-- The leading `::` of a rooted path. -/
def rootMark (rooted : Bool) : String := if rooted then "::" else ""

mutual

/-- The arguments between angle brackets, the brackets alone if there are none.  One line takes up
the arguments of all three kinds. -/
def GenericArgs.render : GenericArgs → String
  | ⟨lifetimes, types, bindings⟩ =>
      ((((Text.Line.start "<").addAll ", " (lifetimes.map Lifetime.render)).addAll ", "
        (Ty.renderAll types)).addAll ", " (Binding.renderAll bindings)).text ++ ">"

/-- An associated type and what it is fixed to. -/
def Binding.render : Binding → String
  | ⟨name, ty, _⟩ => name.text ++ " = " ++ ty.render

/-- The associated types of a list, one by one. -/
def Binding.renderAll : List Binding → List String
  | [] => []
  | b :: bs => b.render :: Binding.renderAll bs

/-- A segment in an expression: arguments follow after `::`. -/
def ExprSegment.render : ExprSegment → String
  | ⟨name, args, _⟩ => name.text ++ if args.isEmpty then "" else "::" ++ args.render

/-- The segments of a list, one by one. -/
def ExprSegment.renderAll : List ExprSegment → List String
  | [] => []
  | s :: ss => s.render :: ExprSegment.renderAll ss

/-- The segments of a path with `::` between them. -/
def ExprPath.render : ExprPath → String
  | ⟨segments, rooted, _⟩ =>
      rootMark rooted ++ Text.separated "::" (ExprSegment.renderAll segments)

/-- The start of a qualified path. -/
def QualifiedSelf.render : QualifiedSelf → String
  | ⟨ty, asTrait, _⟩ => "<" ++ ty.render ++ TypePath.renderAsTrait asTrait ++ ">"

/-- A segment in a type: arguments follow directly. -/
def TypeSegment.render : TypeSegment → String
  | .plain name _ => name.text
  | .generic name args _ => name.text ++ if args.isEmpty then "" else args.render
  | .function name inputs output _ =>
      name.text ++ "(" ++ Text.separated ", " (Ty.renderAll inputs) ++ ")" ++ Ty.renderOutput output

/-- The segments of a list, one by one. -/
def TypeSegment.renderAll : List TypeSegment → List String
  | [] => []
  | s :: ss => s.render :: TypeSegment.renderAll ss

/-- The segments of a path with `::` between them. -/
def TypePath.render : TypePath → String
  | ⟨segments, rooted, _⟩ =>
      rootMark rooted ++ Text.separated "::" (TypeSegment.renderAll segments)

/-- The trait that a type is taken as, after `as`. -/
def TypePath.renderAsTrait : Option TypePath → String
  | none => ""
  | some p => " as " ++ p.render

/-- The start of a qualified path, and the segments after it. -/
def QualifiedTypePath.render : QualifiedTypePath → String
  | ⟨qself, segments, _⟩ =>
      qself.render ++ "::" ++ Text.separated "::" (TypeSegment.renderAll segments)

/-- A trait with its question mark and its binder.  Parentheses around it are not written. -/
def TraitBound.render : TraitBound → String
  | ⟨path, _, maybe, binder, _⟩ =>
      (if maybe then "?" else "") ++ LifetimeParam.renderBinder binder ++ path.render

/-- An entry of a list of bounds. -/
def TypeBound.render : TypeBound → String
  | .trait b => b.render
  | .lifetime l => l.render

/-- The bounds of a list, one by one. -/
def TypeBound.renderAll : List TypeBound → List String
  | [] => []
  | b :: bs => b.render :: TypeBound.renderAll bs

/-- The length of an array.  An expression kept elsewhere is named by its handle. -/
def ArraySize.render : ArraySize → String
  | .literal v => v.render
  | .path p => p.render
  | .expr i => "\x7bexpr " ++ toString i.raw.toNat ++ "\x7d"

/-- A parameter with its name.  An underscore is written for every wildcard, whatever its name. -/
def Param.render : Param → String
  | ⟨_, _, none, _⟩ => "<error>"
  | ⟨_, .unnamed, some ty, _⟩ => ty.render
  | ⟨name, .identifier, some ty, _⟩ => name.text ++ ": " ++ ty.render
  | ⟨_, .wildcard, some ty, _⟩ => "_: " ++ ty.render

/-- The parameters of a list, one by one. -/
def Param.renderAll : List Param → List String
  | [] => []
  | p :: ps => p.render :: Param.renderAll ps

/-- An operand type as it is written.  A tuple of one element keeps a comma, which tells it from
a type in parentheses. -/
def OperandTy.render : OperandTy → String
  | .paren inner _ => "(" ++ inner.render ++ ")"
  | .implOne bound _ => "impl " ++ bound.render
  | .objectOne bound hasDyn _ => (if hasDyn then "dyn " else "") ++ bound.render
  | .path p => p.render
  | .qualified p => p.render
  | .tuple elems _ =>
      "(" ++ Text.separated ", " (Ty.renderAll elems) ++
        (if elems.length = 1 then "," else "") ++ ")"
  | .never _ => "!"
  | .pointer isMut pointee _ => "*" ++ pointerWord isMut ++ " " ++ pointee.render
  | .reference lifetime isMut referent _ =>
      "&" ++ (match lifetime with
        | some l => l.render ++ " "
        | none => "") ++ (if isMut then "mut " else "") ++ referent.render
  | .array elem size _ => "[" ++ elem.render ++ "; " ++ size.render ++ "]"
  | .slice elem _ => "[" ++ elem.render ++ "]"
  | .inferred _ => "_"
  | .function binder quals params variadic output _ =>
      LifetimeParam.renderBinder binder ++ quals.render ++ "fn(" ++
        Text.separated ", " (Param.renderAll params) ++
        (if variadic then if params.isEmpty then "..." else ", ..." else "") ++ ")" ++
        Ty.renderOutput output

/-- A type as it is written: bounds are joined by `+`. -/
def Ty.render : Ty → String
  | .implTrait bounds _ => "impl " ++ Text.separated " + " (TypeBound.renderAll bounds)
  | .traitObject bounds hasDyn _ =>
      (if hasDyn then "dyn " else "") ++ Text.separated " + " (TypeBound.renderAll bounds)
  | .operand t => t.render

/-- The types of a list, one by one. -/
def Ty.renderAll : List Ty → List String
  | [] => []
  | t :: ts => t.render :: Ty.renderAll ts

/-- The type that a function returns, after an arrow. -/
def Ty.renderOutput : Option Ty → String
  | none => ""
  | some t => " -> " ++ t.render

end

/-- The start of a qualified path, and the segments after it. -/
def QualifiedExprPath.render (p : QualifiedExprPath) : String :=
  p.qself.render ++ "::" ++ Text.separated "::" (ExprSegment.renderAll p.segments)

/-! ### The companions for lists are maps -/

theorem Binding.renderAll_eq_map (bs : List Binding) :
    Binding.renderAll bs = bs.map Binding.render := by
  induction bs with
  | nil => rfl
  | cons b bs ih => rw [Binding.renderAll, ih, List.map_cons]

theorem ExprSegment.renderAll_eq_map (ss : List ExprSegment) :
    ExprSegment.renderAll ss = ss.map ExprSegment.render := by
  induction ss with
  | nil => rfl
  | cons s ss ih => rw [ExprSegment.renderAll, ih, List.map_cons]

theorem TypeSegment.renderAll_eq_map (ss : List TypeSegment) :
    TypeSegment.renderAll ss = ss.map TypeSegment.render := by
  induction ss with
  | nil => rfl
  | cons s ss ih => rw [TypeSegment.renderAll, ih, List.map_cons]

theorem TypeBound.renderAll_eq_map (bs : List TypeBound) :
    TypeBound.renderAll bs = bs.map TypeBound.render := by
  induction bs with
  | nil => rfl
  | cons b bs ih => rw [TypeBound.renderAll, ih, List.map_cons]

theorem Param.renderAll_eq_map (ps : List Param) :
    Param.renderAll ps = ps.map Param.render := by
  induction ps with
  | nil => rfl
  | cons p ps ih => rw [Param.renderAll, ih, List.map_cons]

theorem Ty.renderAll_eq_map (ts : List Ty) : Ty.renderAll ts = ts.map Ty.render := by
  induction ts with
  | nil => rfl
  | cons t ts ih => rw [Ty.renderAll, ih, List.map_cons]

/-! ### Arguments of several kinds -/

/-- The arguments of all three kinds are joined as one list. -/
theorem GenericArgs.render_eq_intercalate (a : GenericArgs) :
    a.render = "<" ++ ", ".intercalate (a.lifetimes.map Lifetime.render ++
      Ty.renderAll a.types ++ Binding.renderAll a.bindings) ++ ">" := by
  obtain ⟨lifetimes, types, bindings⟩ := a
  rw [render, ← Text.Line.addAll_append, ← Text.Line.addAll_append, Text.Line.addAll_start,
    List.append_assoc]

end SurfaceTree
