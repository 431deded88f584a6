import Rulebook.Text.Quoted
import Rulebook.Unit.Basic
import Rulebook.Unit.LineIndex

/-!
# What is known around a unit

A check sees a unit together with its package, the types of its nodes, the sizes of the platform
and the lines of its source.
-/

namespace Rulebook

/-- What is known of a unit beside its nodes. -/
structure UnitContext where
  package : Package := {}
  types : TypeTable := ∅
  sizes : Sizes := {}
  lines : LineIndex
  deriving DecidableEq, Inhabited

/-- What a run of rules over a unit is given: the context of the unit, and the group of rules whose
decisions are traced, if any. -/
structure RunContext extends UnitContext where
  debug : Option String := none
  deriving DecidableEq, Inhabited

namespace RunContext

/-- Whether the rules of a group are traced. -/
def traces (ctx : RunContext) (group : String) : Bool := ctx.debug = some group

/-- The name of the package that a unit belongs to: the one that the context gives, or else the
one that the unit gives. -/
def packageName (ctx : RunContext) (unit : SourceUnit) : String :=
  if ctx.package.name = "" then unit.package else ctx.package.name

/-- A context as its description writes it. -/
def description (ctx : RunContext) : String :=
  let sizes := "Sizes \x7b word_size: " ++ toString ctx.sizes.wordSize.toNat ++ ", max_align: " ++
    toString ctx.sizes.maxAlign.toNat ++ " \x7d"
  "RunContext \x7b debug: " ++ Text.quoteOption ctx.debug ++
    ", package: " ++ Text.quote ctx.package.path ++
    ", types: " ++ toString ctx.types.size ++ ", sizes: " ++ sizes ++
    ", file: " ++ Text.quotePath ctx.lines.path ++ " \x7d"

end RunContext

end Rulebook
