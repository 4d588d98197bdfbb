/-
Configuration predicates: the conditions that configuration attributes state.

Main definitions:

* `Config.Predicate` — names and pairs under conjunction, disjunction and negation;
* `Config.Predicate.ofMeta`, `Config.Predicate.ofAttribute` — the predicate that a meta item or an
  attribute states;
* `Config.Predicate.holds` — its truth under some options;
* `Config.Predicate.render` — its text.

The companions for lists of operands are identified by `Config.Predicate.allHold_eq_all`,
`Config.Predicate.anyHolds_eq_any` and `Config.Predicate.renderAll_eq_map`.
-/

import SurfaceTree.Attribute
import SurfaceTree.Config.Options

set_option relaxedAutoImplicit false
set_option autoImplicit false

namespace SurfaceTree.Config

/-- A condition on the options. -/
inductive Predicate where
  /-- A name is set. -/
  | name (name : String)
  /-- A name has a value. -/
  | pair (key value : String)
  /-- All of some conditions hold. -/
  | all (operands : List Predicate)
  /-- One of some conditions holds. -/
  | any (operands : List Predicate)
  /-- A condition does not hold. -/
  | not (operand : Predicate)
deriving Inhabited

namespace Predicate

/-- The name that a path consists of, if it is one that options may have. -/
def nameOf (path : SimplePath) : Except ConfigError String :=
  match path.ident? with
  | some x => if isName x.text.toList then .ok x.text else .error (.invalidName path.render)
  | none => .error (.invalidName path.render)

/-- An operator applied to its operands.  Only a negation counts them. -/
def apply (operator : String) (operands : List Predicate) : Except ConfigError Predicate :=
  if operator = "all" then .ok (.all operands)
  else if operator = "any" then .ok (.any operands)
  else if operator = "not" then
    match operands with
    | [p] => .ok (.not p)
    | _ => .error (.notArity operands.length)
  else .error (.unknownOperator operator)

/-! ### Reading -/

mutual

/-- The predicate that a meta item states.  Its own name is looked at first, then its operands from
left to right, and what the name means last. -/
def ofMeta : MetaItem → Except ConfigError Predicate
  | .word path => (nameOf path).map .name
  | .nameValue path value => do
      let key ← nameOf path
      if value.kind = .text then pure (.pair key value.value) else throw (.nonTextValue key)
  | .list path items => do
      let operator ← nameOf path
      let operands ← ofMetas items
      apply operator operands
  | .literal value => throw (.literalPredicate value.render)

/-- The predicates that a list of meta items state, up to the first that states none. -/
def ofMetas : List MetaItem → Except ConfigError (List Predicate)
  | [] => pure []
  | m :: ms => do
      let p ← ofMeta m
      let ps ← ofMetas ms
      pure (p :: ps)

end

/-- The name of the attributes that state predicates. -/
def attributeName : String := "cfg"

/-- The predicate that an attribute states.  An attribute of another name states none; one of the
right name has to hold a single item. -/
def ofAttribute (a : Attribute) : Except ConfigError (Option Predicate) :=
  if a.hasName attributeName then
    match a.item with
    | .list _ [m] => (ofMeta m).map some
    | _ => .error (.malformedAttribute a.render)
  else .ok none

/-! ### Truth -/

mutual

/-- The truth of a predicate under some options. -/
def holds (o : Options) : Predicate → Bool
  | .name n => o.isSet n
  | .pair k v => o.hasPair k v
  | .all ps => allHold o ps
  | .any ps => anyHolds o ps
  | .not p => !p.holds o

/-- The truth of all predicates of a list. -/
def allHold (o : Options) : List Predicate → Bool
  | [] => true
  | p :: ps => p.holds o && allHold o ps

/-- The truth of one predicate of a list at least. -/
def anyHolds (o : Options) : List Predicate → Bool
  | [] => false
  | p :: ps => p.holds o || anyHolds o ps

end

theorem allHold_eq_all (o : Options) (ps : List Predicate) : allHold o ps = ps.all (holds o) := by
  induction ps with
  | nil => rfl
  | cons p ps ih => rw [allHold, ih, List.all_cons]

theorem anyHolds_eq_any (o : Options) (ps : List Predicate) : anyHolds o ps = ps.any (holds o) := by
  induction ps with
  | nil => rfl
  | cons p ps ih => rw [anyHolds, ih, List.any_cons]

/-! ### Text -/

mutual

/-- A predicate as it is written in an attribute. -/
def render : Predicate → String
  | .name n => n
  | .pair k v => k ++ " = \"" ++ v ++ "\""
  | .all ps => "all(" ++ Text.separated ", " (renderAll ps) ++ ")"
  | .any ps => "any(" ++ Text.separated ", " (renderAll ps) ++ ")"
  | .not p => "not(" ++ p.render ++ ")"

/-- The predicates of a list, one by one. -/
def renderAll : List Predicate → List String
  | [] => []
  | p :: ps => p.render :: renderAll ps

end

theorem renderAll_eq_map (ps : List Predicate) : renderAll ps = ps.map render := by
  induction ps with
  | nil => rfl
  | cons p ps ih => rw [renderAll, ih, List.map_cons]

end Predicate

end SurfaceTree.Config
