/-!
# Text — ASCII case

Names that compare without regard to case do so in ASCII only: letters outside it stay as they are.
-/

namespace HardwareReport.Text

/-- A text in ASCII lower case. -/
def lowerAscii (s : List Char) : List Char :=
  s.map Char.toLower

/-- Two texts are the same but for the case of ASCII letters. -/
def sameAsciiCaseless (s t : List Char) : Bool :=
  lowerAscii s == lowerAscii t

/-- Case does not change how long a text is. -/
theorem length_lowerAscii (s : List Char) : (lowerAscii s).length = s.length := by
  simp [lowerAscii]

end HardwareReport.Text
