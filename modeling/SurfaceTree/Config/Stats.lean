/-
Counts of what a configuration has taken away.

Main definitions:

* `Config.Stats` — how many fields and how many rest markers were stripped, as 64-bit words.

Main results:

* `Config.Stats.add_assoc`, `Config.Stats.add_comm`, `Config.Stats.zero_add`,
  `Config.Stats.add_zero` — counts add up in any order.
-/

set_option relaxedAutoImplicit false
set_option autoImplicit false

namespace SurfaceTree.Config

/-- How much was stripped. -/
structure Stats where
  /-- The number of fields. -/
  fields : UInt64
  /-- The number of rest markers. -/
  rests : UInt64
deriving DecidableEq

namespace Stats

instance : Zero Stats := ⟨⟨0, 0⟩⟩

instance : Inhabited Stats := ⟨0⟩

/-- Counts are added one by one. -/
instance : Add Stats := ⟨fun a b => ⟨a.fields + b.fields, a.rests + b.rests⟩⟩

/-- One field. -/
def oneField : Stats := ⟨1, 0⟩

/-- One rest marker. -/
def oneRest : Stats := ⟨0, 1⟩

/-- Nothing was stripped. -/
def isEmpty (s : Stats) : Bool := decide (s = 0)

@[simp] theorem fields_zero : (0 : Stats).fields = 0 := rfl

@[simp] theorem rests_zero : (0 : Stats).rests = 0 := rfl

@[simp] theorem fields_add (a b : Stats) : (a + b).fields = a.fields + b.fields := rfl

@[simp] theorem rests_add (a b : Stats) : (a + b).rests = a.rests + b.rests := rfl

@[ext] theorem ext {a b : Stats} (hf : a.fields = b.fields) (hr : a.rests = b.rests) : a = b := by
  cases a
  cases b
  simp_all

theorem add_assoc (a b c : Stats) : a + b + c = a + (b + c) := by
  ext <;> simp [UInt64.add_assoc]

theorem add_comm (a b : Stats) : a + b = b + a := by
  ext <;> simp [UInt64.add_comm]

@[simp] theorem zero_add (a : Stats) : 0 + a = a := by
  ext <;> simp

@[simp] theorem add_zero (a : Stats) : a + 0 = a := by
  ext <;> simp

end Stats

end SurfaceTree.Config
