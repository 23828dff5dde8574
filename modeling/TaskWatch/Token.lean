/-!
# Cancellation

A *token* stands for one thing that can be cancelled, such as a watch. Everyone who holds it can
cancel it, and it stays cancelled. `Tokens` knows how many have been handed out and which of them
are cancelled.

* `isCancelled_cancel`, `isCancelled_cancelAny`: cancelling a token cancels that token and no other.
-/

namespace TaskWatch

/-- A handle for cancelling, numbered in the order in which they were handed out. -/
abbrev Token := Nat

/-- The tokens handed out so far. -/
structure Tokens where
  issued : Nat := 0
  cancelled : List Token := []
  deriving DecidableEq, Repr

namespace Tokens

/-- The next token. -/
def next (tokens : Tokens) : Token := tokens.issued

/-- The tokens after one more was handed out. -/
def issue (tokens : Tokens) : Tokens := { tokens with issued := tokens.issued + 1 }

def isCancelled (tokens : Tokens) (token : Token) : Bool := tokens.cancelled.contains token

def cancel (tokens : Tokens) (token : Token) : Tokens :=
  if tokens.isCancelled token then tokens
  else { tokens with cancelled := token :: tokens.cancelled }

/-- Cancels a token that may be there. -/
def cancelAny (tokens : Tokens) : Option Token → Tokens
  | none => tokens
  | some token => tokens.cancel token

/-- Cancelling a token cancels that token and no other. -/
theorem isCancelled_cancel (tokens : Tokens) (t u : Token) :
    (tokens.cancel t).isCancelled u = (u == t || tokens.isCancelled u) := by
  unfold cancel
  split
  · next h =>
    by_cases hu : u = t
    · subst hu; simp [h]
    · simp [hu]
  · by_cases hu : u = t <;> simp [isCancelled, hu]

/-- Cancelling a token that may be there cancels that token and no other. -/
theorem isCancelled_cancelAny (tokens : Tokens) (held : Option Token) (u : Token) :
    (tokens.cancelAny held).isCancelled u = (held == some u || tokens.isCancelled u) := by
  cases held with
  | none => rfl
  | some t =>
    rw [cancelAny, isCancelled_cancel, Option.some_beq_some, Bool.beq_comm]

@[simp] theorem issued_cancelAny (tokens : Tokens) (held : Option Token) :
    (tokens.cancelAny held).issued = tokens.issued := by
  cases held with
  | none => rfl
  | some t =>
    rw [cancelAny, cancel]
    split <;> rfl

@[simp] theorem isCancelled_issue (tokens : Tokens) (u : Token) :
    tokens.issue.isCancelled u = tokens.isCancelled u := rfl

end Tokens

end TaskWatch
