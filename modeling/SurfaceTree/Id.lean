/-
Identity numbers: 32-bit words, each drawn from a space of its own.

Main definitions:

* `IdSpace` — the spaces: crates, source nodes, lowered nodes and local definitions;
* `Id` — a number of one space, so that numbers of two spaces cannot be mixed up;
* `Id.unknown` — the mark of a node that belongs to no known definition;
* `ExprId` — the handle of an expression that is kept elsewhere, with `ExprId.invalid`.
-/

set_option relaxedAutoImplicit false
set_option autoImplicit false

namespace SurfaceTree

/-- What a number identifies. -/
inductive IdSpace where
  /-- Compilation units. -/
  | crate
  /-- Nodes of the source tree. -/
  | node
  /-- Nodes of the lowered tree. -/
  | lowered
  /-- Definitions of one compilation unit. -/
  | definition
deriving DecidableEq

/-- The word that goes before a number of the space when it is shown. -/
def IdSpace.label : IdSpace → String
  | .crate => "CrateNum"
  | .node => "NodeId"
  | .lowered => "HirId"
  | .definition => "LocalDefId"

/-- A number that identifies something in one space. -/
structure Id (space : IdSpace) where
  raw : UInt32
deriving DecidableEq, Hashable, Inhabited

/-- The number of a compilation unit. -/
abbrev CrateId := Id .crate

/-- The number of a node of the source tree. -/
abbrev NodeId := Id .node

/-- The number of a node of the lowered tree. -/
abbrev LoweredId := Id .lowered

/-- The number of a definition. -/
abbrev DefinitionId := Id .definition

namespace Id

variable {space : IdSpace}

/-- The form in which a number is shown to someone who debugs. -/
def debug (i : Id space) : String := space.label ++ "(" ++ toString i.raw.toNat ++ ")"

/-- The numbers in ascending order. -/
def sort (is : List (Id space)) : List (Id space) := is.mergeSort fun i j => decide (i.raw ≤ j.raw)

/-- The greatest number of the space of definitions stands for no definition. -/
def unknown : DefinitionId := ⟨0xFFFFFFFF⟩

/-- A definition number that stands for no definition. -/
def isUnknown (i : DefinitionId) : Bool := decide (i = unknown)

end Id

/-- The handle of an expression in a store of expressions. -/
structure ExprId where
  /-- The index into the store. -/
  raw : UInt32
deriving DecidableEq

namespace ExprId

/-- The greatest handle stands for no expression. -/
def invalid : ExprId := ⟨0xFFFFFFFF⟩

instance : Inhabited ExprId := ⟨invalid⟩

/-- A handle that stands for an expression. -/
def isValid (i : ExprId) : Bool := decide (i ≠ invalid)

/-- The place of the expression in its store. -/
def index (i : ExprId) : Nat := i.raw.toNat

/-- The form in which a handle is shown to someone who debugs. -/
def debug (i : ExprId) : String :=
  if i.isValid then "ExprId(" ++ toString i.raw.toNat ++ ")" else "ExprId::INVALID"

end ExprId

end SurfaceTree
