/-
Plain data: the form in which spans, tags, numbers and names are stored between two runs.

A record is stored with the names of its parts; it may also be read from an array that holds
exactly its parts, in their order.  A number is stored as an integer and a name as a text.

Main definitions:

* `Datum` — data without types;
* `Span.toDatum`, `NodeTag.toDatum`, … — storing;
* `Span.ofDatum?`, `NodeTag.ofDatum?`, … — reading, which fails on data of another shape.

Main results:

* `Span.ofDatum?_toDatum`, `NodeTag.ofDatum?_toDatum`, `Id.ofDatum?_toDatum`,
  `ExprId.ofDatum?_toDatum`, `Ident.ofDatum?_toDatum` — what is stored is read back.
-/

import SurfaceTree.Ident
import SurfaceTree.NodeTag

set_option relaxedAutoImplicit false
set_option autoImplicit false

namespace SurfaceTree

/-- Data without types. -/
inductive Datum where
  /-- No value. -/
  | null
  /-- A truth value. -/
  | bool (value : Bool)
  /-- A number that is written without a fraction. -/
  | integer (value : Int)
  /-- A number that is written with a fraction, even if that is zero. -/
  | fraction
  /-- A text. -/
  | text (value : String)
  /-- A list of data. -/
  | array (items : List Datum)
  /-- Data under names, each name once. -/
  | record (fields : List (String × Datum))
deriving Inhabited

namespace Datum

/-- The 32-bit word that an integer is. -/
def word? : Datum → Option UInt32
  | .integer (.ofNat n) => if UInt32.size ≤ n then none else some (UInt32.ofNat n)
  | _ => none

/-- The parts of a record, in the order of their names.  All have to be there; a record may hold
more, an array may not. -/
def parts? (names : List String) : Datum → Option (List Datum)
  | .record fields => names.mapM fun name => List.lookup name fields
  | .array items => if items.length = names.length then some items else none
  | _ => none

/-- The words that the parts of a record are. -/
def words? (names : List String) (d : Datum) : Option (List UInt32) :=
  (d.parts? names).bind fun parts => parts.mapM word?

/-- A word as an integer. -/
def ofWord (w : UInt32) : Datum := .integer (.ofNat w.toNat)

@[simp] theorem word?_ofWord (w : UInt32) : (ofWord w).word? = some w := by
  have h := w.toNat_lt
  simp [ofWord, word?, Nat.not_le.2 h]

end Datum

open Datum

/-! ### Spans -/

/-- A span as a record of its two ends. -/
def Span.toDatum (s : Span) : Datum :=
  .record [("start", ofWord s.start), ("end", ofWord s.stop)]

/-- Reads a span. -/
def Span.ofDatum? (d : Datum) : Option Span :=
  match d.words? ["start", "end"] with
  | some [start, stop] => some ⟨start, stop⟩
  | _ => none

@[simp] theorem Span.words?_toDatum (s : Span) :
    s.toDatum.words? ["start", "end"] = some [s.start, s.stop] := by
  simp [Span.toDatum, words?, parts?, List.lookup_cons]

@[simp] theorem Span.ofDatum?_toDatum (s : Span) : Span.ofDatum? s.toDatum = some s := by
  simp [Span.ofDatum?]

/-! ### Numbers and tags -/

/-- A number of some space as an integer. -/
def Id.toDatum {space : IdSpace} (i : Id space) : Datum := ofWord i.raw

/-- Reads a number of some space. -/
def Id.ofDatum? (space : IdSpace) (d : Datum) : Option (Id space) := d.word?.map Id.mk

@[simp] theorem Id.ofDatum?_toDatum {space : IdSpace} (i : Id space) :
    Id.ofDatum? space i.toDatum = some i := by
  simp [Id.toDatum, Id.ofDatum?]

/-- A handle as an integer. -/
def ExprId.toDatum (i : ExprId) : Datum := ofWord i.raw

/-- Reads a handle. -/
def ExprId.ofDatum? (d : Datum) : Option ExprId := d.word?.map ExprId.mk

@[simp] theorem ExprId.ofDatum?_toDatum (i : ExprId) : ExprId.ofDatum? i.toDatum = some i := by
  simp [ExprId.toDatum, ExprId.ofDatum?]

/-- A tag as a record of its four numbers. -/
def NodeTag.toDatum (t : NodeTag) : Datum :=
  .record [("crate_num", t.crate.toDatum), ("node_id", t.node.toDatum),
    ("hir_id", t.lowered.toDatum), ("local_def_id", t.definition.toDatum)]

/-- Reads a tag. -/
def NodeTag.ofDatum? (d : Datum) : Option NodeTag :=
  match d.words? ["crate_num", "node_id", "hir_id", "local_def_id"] with
  | some [crate, node, lowered, definition] => some ⟨⟨crate⟩, ⟨node⟩, ⟨lowered⟩, ⟨definition⟩⟩
  | _ => none

@[simp] theorem NodeTag.words?_toDatum (t : NodeTag) :
    t.toDatum.words? ["crate_num", "node_id", "hir_id", "local_def_id"] =
      some [t.crate.raw, t.node.raw, t.lowered.raw, t.definition.raw] := by
  simp [NodeTag.toDatum, Id.toDatum, words?, parts?, List.lookup_cons]

@[simp] theorem NodeTag.ofDatum?_toDatum (t : NodeTag) : NodeTag.ofDatum? t.toDatum = some t := by
  simp [NodeTag.ofDatum?]

/-! ### Names -/

/-- A name as a text. -/
def Ident.toDatum (x : Ident) : Datum := .text x.text

/-- Reads a name. -/
def Ident.ofDatum? : Datum → Option Ident
  | .text s => some ⟨s⟩
  | _ => none

@[simp] theorem Ident.ofDatum?_toDatum (x : Ident) : Ident.ofDatum? x.toDatum = some x := rfl

end SurfaceTree
