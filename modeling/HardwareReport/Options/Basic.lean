import HardwareReport.Duration
import HardwareReport.Section

/-!
# Options — what to report and how
-/

namespace HardwareReport

/-- What to report and how. -/
structure ReportOptions where
  /-- How long the processor load is sampled for. -/
  interval : Duration := .ofMilliseconds 1000
  /-- The sections to report, in order. -/
  sections : List Section := Section.all
  usbTree : Bool := false
  json : Bool := false
  /-- Whether the load is watched after the report. -/
  watch : Bool := false
  deriving DecidableEq, Repr

/-- Whether a section is to be reported. -/
def ReportOptions.includes (options : ReportOptions) (s : Section) : Bool :=
  options.sections.contains s

end HardwareReport
