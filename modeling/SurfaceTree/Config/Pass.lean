/-
A pass configures one pattern after another under the same options and counts what it strips.

Main definitions:

* `Config.Pass` — the options, and the counts so far;
* `Config.Pass.run` — one more pattern, with `Config.Outcome` for what becomes of it;
* `Config.Pass.runAll` — a list of patterns.

Main results:

* `Config.Pass.options_run` — the options stay the same.
-/

import SurfaceTree.Config.Sweep

set_option relaxedAutoImplicit false
set_option autoImplicit false

namespace SurfaceTree.Config

/-- The options of a pass, and what it has stripped so far. -/
structure Pass where
  /-- The options, which stay the same. -/
  options : Options
  /-- What was stripped so far. -/
  stats : Stats

/-- What becomes of one pattern in a pass. -/
structure Outcome where
  /-- The pattern afterwards. -/
  pattern : Pattern
  /-- Why it could not be configured. -/
  error? : Option ConfigError

namespace Pass

/-- A pass that has not stripped anything yet. -/
def start (o : Options) : Pass := ⟨o, 0⟩

/-- Sweeps one more pattern, on with the count.  If that fails, the pattern stays as it is, and the
count goes back to what it was. -/
def run (pass : Pass) (p : Pattern) : Outcome × Pass :=
  match p.sweep pass.options pass.stats with
  | (.ok q, stats) => (⟨q, none⟩, { pass with stats })
  | (.error e, _) => (⟨p, some e⟩, pass)

/-- Configures the patterns of a list, one after another. -/
def runAll (pass : Pass) : List Pattern → List Outcome × Pass
  | [] => ([], pass)
  | p :: ps =>
      let (outcome, pass) := pass.run p
      let (outcomes, pass) := pass.runAll ps
      (outcome :: outcomes, pass)

@[simp] theorem options_run (pass : Pass) (p : Pattern) :
    (pass.run p).2.options = pass.options := by
  unfold run
  split <;> rfl

end Pass

end SurfaceTree.Config
