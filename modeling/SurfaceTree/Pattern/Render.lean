/-
Source text of patterns and of their parts.

Main definitions:

* `Pattern.render` — a pattern as it is written;
* `RangeBound.render`, `Field.render`, `Elements.render`, `Items.render` — its parts.

Stripped fields are left out between braces; on its own such a slot is shown by a word in angle
brackets.
-/

import SurfaceTree.Pattern.Stripped
import SurfaceTree.Ty.Render

set_option relaxedAutoImplicit false
set_option autoImplicit false

namespace SurfaceTree

/-- A minus sign, if there is one. -/
def minusMark (minus : Bool) : String := if minus then "-" else ""

/-- The words in front of a binding. -/
def bindingWords (isRef isMut : Bool) : String :=
  (if isRef then "ref " else "") ++ if isMut then "mut " else ""

/-- An end of a range as it is written. -/
def RangeBound.render : RangeBound → String
  | .literal v m _ => minusMark m ++ v.render
  | .path p => p.render
  | .qualified p => p.render

/-- The slot of a stripped field, when it is shown on its own. -/
def strippedMark : String := "<stripped>"

mutual

/-- A pattern as it is written. -/
def Pattern.render : Pattern → String
  | .literal v m _ => minusMark m ++ v.render
  | .ident name isRef isMut bind _ =>
      bindingWords isRef isMut ++ name.text ++ Pattern.renderBind bind
  | .wildcard _ => "_"
  | .range lower upper ellipsis _ =>
      lower.render ++ (if ellipsis then "..." else "..=") ++ upper.render
  | .reference inner twoAmps isMut _ =>
      (if twoAmps then "&&" else "&") ++ (if isMut then "mut " else "") ++ inner.render
  | .struct path elems =>
      path.render ++ if elems.isBare then " \x7b\x7d" else " \x7b " ++ elems.render ++ " \x7d"
  | .tupleStruct path items => path.render ++ "(" ++ Items.renderOption .tupleStruct items ++ ")"
  | .tuple items _ => "(" ++ Items.renderOption .tuple items ++ ")"
  | .grouped inner _ => "(" ++ inner.render ++ ")"
  | .slice items _ => "[" ++ Text.separated ", " (Pattern.renderAll items) ++ "]"

/-- The patterns of a list, one by one. -/
def Pattern.renderAll : List Pattern → List String
  | [] => []
  | p :: ps => p.render :: Pattern.renderAll ps

/-- The pattern that a binding has to fit, after `@`. -/
def Pattern.renderBind : Option Pattern → String
  | none => ""
  | some p => " @ " ++ p.render

/-- What stands between the braces: the live fields, and the rest marker after its attributes. -/
def Elements.render : Elements → String
  | ⟨fields, hasRest, restAttrs⟩ =>
      let line := (Text.Line.start "").addAll ", " (Field.renderLive fields)
      if hasRest then (line.separate ", ").text ++ Attribute.renderOuter restAttrs ++ ".."
      else line.text

/-- A field after its attributes. -/
def Field.render : Field → String
  | .indexed _ none as _ => Attribute.renderOuter as ++ strippedMark
  | .indexed i (some p) as _ => Attribute.renderOuter as ++ toString i.toNat ++ ": " ++ p.render
  | .named _ none as _ => Attribute.renderOuter as ++ strippedMark
  | .named x (some p) as _ => Attribute.renderOuter as ++ x.text ++ ": " ++ p.render
  | .shorthand x isRef isMut as _ =>
      Attribute.renderOuter as ++
        if x.isEmpty then strippedMark else bindingWords isRef isMut ++ x.text

/-- The live fields of a list, one by one. -/
def Field.renderLive : List Field → List String
  | [] => []
  | f :: fs => if f.isStripped then Field.renderLive fs else f.render :: Field.renderLive fs

/-- The items of a list.  A tuple of one item keeps a comma, which tells it from a pattern in
parentheses; a tuple struct needs none. -/
def Items.render : ItemsStyle → Items → String
  | style, .flat patterns _ =>
      Text.separated ", " (Pattern.renderAll patterns) ++
        if style = .tuple ∧ patterns.length = 1 then "," else ""
  | _, .ranged lower upper _ =>
      String.join ((Pattern.renderAll lower).map (· ++ ", ")) ++ ".." ++
        String.join ((Pattern.renderAll upper).map (", " ++ ·))

/-- The items of a list, if there is one. -/
def Items.renderOption : ItemsStyle → Option Items → String
  | _, none => ""
  | style, some items => items.render style

end

/-! ### The companions for lists are maps -/

theorem Pattern.renderAll_eq_map (ps : List Pattern) :
    Pattern.renderAll ps = ps.map Pattern.render := by
  induction ps with
  | nil => rfl
  | cons p ps ih => rw [Pattern.renderAll, ih, List.map_cons]

theorem Field.renderLive_eq_map (fs : List Field) :
    Field.renderLive fs = (fs.filter fun f => !f.isStripped).map Field.render := by
  induction fs with
  | nil => rfl
  | cons f fs ih => by_cases h : f.isStripped = true <;> simp [Field.renderLive, h, ih]

/-! ### Fields and a rest marker -/

/-- The rest marker has a comma in front of it if there are live fields. -/
theorem Elements.render_eq_intercalate (e : Elements) :
    e.render = ", ".intercalate (Field.renderLive e.fields) ++
      if e.hasRest then
        (if (Field.renderLive e.fields).isEmpty then "" else ", ") ++
          Attribute.renderOuter e.restAttrs ++ ".."
      else "" := by
  obtain ⟨fields, hasRest, restAttrs⟩ := e
  rw [render, Text.Line.addAll_start, String.empty_append]
  cases hasRest with
  | false => simp
  | true =>
      cases (Field.renderLive fields).isEmpty <;>
        simp [Text.Line.separate, String.append_assoc]

end SurfaceTree
