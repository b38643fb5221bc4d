import HardwareReport.Duration

/-!
# Interrupt — waits that can be cut short

A token is cancelled once and stays so. Whoever waits on it stops waiting when that happens.

* `Token` — the flag;
* `Interrupt` — how a computation looks at a token that others may cancel meanwhile.
-/

namespace HardwareReport

/-- Whether a computation has been asked to stop. -/
structure Token where
  cancelled : Bool := false
  deriving DecidableEq, Repr

/-- The token after it was cancelled. -/
def Token.cancel (_ : Token) : Token := ⟨true⟩

/-- How a computation looks at a token. -/
structure Interrupt (m : Type → Type) where
  /-- Whether the token has been cancelled by now. -/
  isCancelled : m Bool
  /-- Waits unless the token is or becomes cancelled, and says whether it was. -/
  sleep : Duration → m Bool

/-- A token that nobody touches while it is looked at: a wait ends as cancelled exactly when the
token was. -/
def Token.steady {m : Type → Type} [Monad m] (token : Token) : Interrupt m where
  isCancelled := pure token.cancelled
  sleep _ := pure token.cancelled

end HardwareReport
