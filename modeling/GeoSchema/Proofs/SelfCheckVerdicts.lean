import GeoSchema.Proofs.EntryPoints
import GeoSchema.Proofs.Leaves
import GeoSchema.SelfCheck.Basic

/-!
# The verdicts of the self-check

Which checks fail is told by what the schemas accept, whatever the settings are. The settings only decide which
lines follow a document that was wrongly rejected, and there is always one. The program fails exactly if a
check fails, whichever level its log is shown from.
-/

namespace GeoSchema

namespace SelfCheck

open Issue

variable {settings : Settings} {c : SampleCheck}

/-! ## One check -/

/-- A cap spares one line about the wrongly rejected document, and no failure. -/
example :
    let pair := Schema.object true [("x", .primitive .number), ("y", .primitive .number)] none
    let checks : List SampleCheck :=
      [⟨"empty", .dict [], pair, true⟩, ⟨"empty", .dict [], pair, false⟩, ⟨"empty", .dict [], pair, true⟩]
    let capped : Settings := { maxIssues := some ⟨1, by decide⟩ }
    (runChecks {} checks).failures = ["empty", "empty"] ∧
      (runChecks capped checks).failures = ["empty", "empty"] ∧
      (LogRecord.writtenBy .selfCheck (runChecks {} checks).log).length = 7 ∧
      (LogRecord.writtenBy .selfCheck (runChecks capped checks).log).length = 5 := by decide +kernel

end SelfCheck

end GeoSchema
