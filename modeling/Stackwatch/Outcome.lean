/-!
# Outcomes of calls

Engines and reporters are supplied by the program that is observed. A call to one of them returns,
fails, or crashes; a crash ends whatever was under way without any tidying up, so all that happened
before it stays.
-/

namespace Stackwatch

/-- What is known of a crash. -/
inductive Crash where
  | saying (text : String)
  | silent
  deriving DecidableEq, Repr, Inhabited

def Crash.message : Crash → String
  | .saying text => text
  | .silent => "<non-string panic payload>"

/-- How a call ends. -/
inductive Outcome (ε α : Type) where
  | returned (value : α)
  | failed (error : ε)
  | crashed (crash : Crash)
  deriving Repr, Inhabited

namespace Outcome

def ofExcept {ε α : Type} : Except ε α → Outcome ε α
  | .ok value => .returned value
  | .error error => .failed error

/-- Goes on with the value of a call that returned. -/
def andThen {ε α β : Type} (outcome : Outcome ε α) (next : α → Except ε β) : Outcome ε β :=
  match outcome with
  | .returned value => ofExcept (next value)
  | .failed error => .failed error
  | .crashed crash => .crashed crash

def mapError {ε φ α : Type} (change : ε → φ) : Outcome ε α → Outcome φ α
  | .returned value => .returned value
  | .failed error => .failed (change error)
  | .crashed crash => .crashed crash

end Outcome

end Stackwatch
