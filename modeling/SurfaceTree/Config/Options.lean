/-
Configuration options: what is switched on.

Options are kept as the set of the names that are set, and under every key the set of its values.
Two of them are equal if they hold the same names, and the same keys with the same values.  A key
without values would make a difference, though no question could tell; so it matters that none ever
comes into being.

Main definitions:

* `Config.Options` — the names and the values;
* `Config.Options.isSet`, `Config.Options.hasPair` — the two questions that can be asked;
* `Config.Options.insertFlag` — switching on what a flag says;
* `Config.Options.readFlag`, `Config.Options.ofFlags` — reading one flag, and a list of them.

Main results:

* `Config.Options.isSet_insertFlag`, `Config.Options.hasPair_insertFlag` — one more flag changes
  the answer to one question.
-/

import SurfaceTree.Config.Flag
import Std.Data.ExtTreeMap
import Std.Data.ExtTreeSet

set_option relaxedAutoImplicit false
set_option autoImplicit false

namespace SurfaceTree.Config

/-- The options that are switched on, in the order in which they are looked up. -/
structure Options where
  /-- The names that are set. -/
  atoms : Std.ExtTreeSet String
  /-- The values of every key. -/
  values : Std.ExtTreeMap String (Std.ExtTreeSet String)
deriving DecidableEq

namespace Options

/-- Nothing is switched on. -/
def empty : Options := ⟨∅, ∅⟩

instance : Inhabited Options := ⟨empty⟩

/-- A name is set. -/
def isSet (o : Options) (name : String) : Bool := o.atoms.contains name

/-- A key has a value. -/
def hasPair (o : Options) (key value : String) : Bool :=
  o.values[key]?.any fun values => values.contains value

/-- Sets a name, whatever text it is. -/
def insertAtom (o : Options) (name : String) : Options := { o with atoms := o.atoms.insert name }

/-- Gives a key a value beside those it has.  A key without values has none before. -/
def insertPair (o : Options) (key value : String) : Options :=
  { o with values := o.values.alter key fun values => some ((values.getD ∅).insert value) }

/-- Switches on what a flag says. -/
def insertFlag (o : Options) : Flag → Options
  | .atom name => o.insertAtom name
  | .pair key value => o.insertPair key value

/-- Reads a flag and switches on what it says.  A flag that cannot be read leaves the options as
they are. -/
def readFlag (o : Options) (text : String) : Except ConfigError Unit × Options :=
  match Flag.read text with
  | .ok f => (.ok (), o.insertFlag f)
  | .error e => (.error e, o)

/-- Reads one flag after another, up to the first that cannot be read. -/
def addFlags (o : Options) : List String → Except ConfigError Options
  | [] => .ok o
  | text :: texts =>
      match o.readFlag text with
      | (.ok _, o) => o.addFlags texts
      | (.error e, _) => .error e

/-- The options that a list of flags switches on. -/
def ofFlags (texts : List String) : Except ConfigError Options := empty.addFlags texts

/-! ### Questions after a change -/

@[simp] theorem isSet_empty (name : String) : empty.isSet name = false := by simp [isSet, empty]

@[simp] theorem hasPair_empty (key value : String) : empty.hasPair key value = false := by
  simp [hasPair, empty]

/-- Texts are looked up by an order in which only equal texts are level. -/
theorem compare_beq_eq (text sought : String) :
    (compare text sought == .eq) = decide (text = sought) := by
  rw [Bool.eq_iff_iff]
  simp

theorem isSet_insertFlag (o : Options) (f : Flag) (name : String) :
    (o.insertFlag f).isSet name = (decide (f = .atom name) || o.isSet name) := by
  cases f with
  | atom other => simp [insertFlag, insertAtom, isSet, compare_beq_eq]
  | pair key value => simp [insertFlag, insertPair, isSet]

theorem hasPair_insertFlag (o : Options) (f : Flag) (key value : String) :
    (o.insertFlag f).hasPair key value = (decide (f = .pair key value) || o.hasPair key value) := by
  cases f with
  | atom name => simp [insertFlag, insertAtom, hasPair]
  | pair other found =>
      simp only [insertFlag, insertPair, hasPair, Std.ExtTreeMap.getElem?_alter]
      by_cases h : other = key
      · subst h
        cases o.values[other]? <;> simp [compare_beq_eq]
      · simp [h]

end Options

end SurfaceTree.Config
