/-
What can be wrong with a configuration flag or a configuration attribute.

Main definitions:

* `ConfigError`, `ConfigError.message` — the causes, and their wording.
-/

set_option relaxedAutoImplicit false
set_option autoImplicit false

namespace SurfaceTree

/-- Why a flag or an attribute has no meaning. -/
inductive ConfigError where
  /-- A flag holds nothing but blanks. -/
  | emptyFlag
  /-- A name is expected, and the text is none. -/
  | invalidName (text : String)
  /-- The value of a flag does not stand between quotes. -/
  | unquotedValue (key found : String)
  /-- The value in an attribute is no text literal. -/
  | nonTextValue (key : String)
  /-- A negation has no operand, or several. -/
  | notArity (count : Nat)
  /-- An operator is none of the three. -/
  | unknownOperator (name : String)
  /-- A literal stands where a predicate is expected. -/
  | literalPredicate (text : String)
  /-- An attribute does not consist of one predicate. -/
  | malformedAttribute (text : String)
deriving DecidableEq

/-- The wording of an error. -/
def ConfigError.message : ConfigError → String
  | .emptyFlag => "empty cfg flag"
  | .invalidName text => "invalid cfg name \x60" ++ text ++ "\x60"
  | .unquotedValue key found =>
      "cfg value for \x60" ++ key ++ "\x60 must be a quoted string, found \x60" ++ found ++ "\x60"
  | .nonTextValue key => "cfg value for \x60" ++ key ++ "\x60 must be a string literal"
  | .notArity count => "\x60not\x60 takes exactly one predicate, found " ++ toString count
  | .unknownOperator name => "unknown cfg operator \x60" ++ name ++ "\x60"
  | .literalPredicate text => "literal \x60" ++ text ++ "\x60 is not a cfg predicate"
  | .malformedAttribute text =>
      "malformed cfg attribute \x60" ++ text ++ "\x60, expected \x60#[cfg(predicate)]\x60"

end SurfaceTree
