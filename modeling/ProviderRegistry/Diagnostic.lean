import ProviderRegistry.Text.Raw

/-!
# Diagnostics

What a run has to say to its user: errors, warnings and notes, each with what it is about and where
that stands. A list of diagnostics fails as soon as one of them is an error.
-/

namespace ProviderRegistry

/-- How grave a diagnostic is. Only an error fails a run. -/
inductive Severity where
  | error
  | warning
  | note
  deriving DecidableEq, Repr

/-- The word for a severity. -/
def Severity.word : Severity → String
  | .error => "error"
  | .warning => "warning"
  | .note => "note"

/-- A message to the user, with the declaration that it is about and the place of that
declaration. -/
structure Diagnostic where
  severity : Severity
  message : RawText
  declaration : String := ""
  sourceFile : String := ""
  line : Int := 0
  deriving DecidableEq, Repr

/-- The file and the line where both are known, else the file. -/
def Diagnostic.location (d : Diagnostic) : String :=
  if d.sourceFile ≠ "" ∧ d.line ≠ 0 then s!"{d.sourceFile}:{d.line}" else d.sourceFile

/-- Diagnostics in the order in which they came. -/
abbrev Diagnostics := List Diagnostic

namespace Diagnostics

/-- The diagnostics of one severity. -/
def ofSeverity (ds : Diagnostics) (severity : Severity) : Diagnostics :=
  ds.filter fun d => d.severity = severity

/-- The errors. -/
def errors (ds : Diagnostics) : Diagnostics := ds.ofSeverity .error

/-- The warnings. -/
def warnings (ds : Diagnostics) : Diagnostics := ds.ofSeverity .warning

/-- The notes. -/
def notes (ds : Diagnostics) : Diagnostics := ds.ofSeverity .note

/-- Is there an error? -/
def hasErrors (ds : Diagnostics) : Bool := ds.any fun d => d.severity = .error

/-- The verdict and the number of errors and of warnings. -/
def summary (ds : Diagnostics) : String :=
  let status := if ds.hasErrors then "FAIL" else "OK"
  s!"[{status}] {ds.errors.length} error(s), {ds.warnings.length} warning(s)"

/-- There is an error just when the errors are not none. -/
theorem hasErrors_eq_true_iff {ds : Diagnostics} : ds.hasErrors = true ↔ ds.errors ≠ [] := by
  simp [hasErrors, errors, ofSeverity, List.filter_eq_nil_iff]

end Diagnostics

end ProviderRegistry
