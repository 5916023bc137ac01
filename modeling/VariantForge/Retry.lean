import VariantForge.World

/-!
Trying an operation several times, with a wait between two attempts. What fails is given back as a
value; only a cancelled run fails itself, before an attempt or during a wait.
-/

namespace VariantForge

/-- How often to try, and how long to wait between two attempts. -/
structure RetryPolicy where
  maxAttempts : Number
  delayMs : Number
  deriving DecidableEq

/-- The policy that holds where no other is given. -/
def RetryPolicy.builtIn : RetryPolicy := ⟨3, 15000⟩

/-- What came of the attempts: the result and the number of the attempt that gave it, or the last
failure and how many attempts were allowed. -/
inductive Retried (α : Type) where
  | done (value : α) (attempts : Nat)
  | failed (failure : Failure) (attempts : Number)

namespace Retry

/-- How many attempts a policy allows: a whole number, and one at least. -/
def limit (p : RetryPolicy) : Number := Number.larger 1 p.maxAttempts.floor

/-- How long a policy waits. -/
def delay (p : RetryPolicy) : Number := Number.larger 0 p.delayMs

/-- How many attempts may follow the first one, if there is a first one. An endless number is
bounded by one that no run reaches. -/
def more? (limit : Number) : Option Nat :=
  match limit with
  | .finite q => some (q.floor.toNat - 1)
  | .infinite _ => some (1 <<< 53)
  | .nan => none

/-- The wait between two attempts, announced with the failure of the one before. -/
def pause (o : Outside) (description : String) (p : RetryPolicy) (attempt : Nat) (f : Failure) :
    Forge Unit := do
  let seconds := ((delay p).dividedBy 1000).rounded.text
  Forge.log .warn s!"{description} failed, retrying in {seconds}s"
    (some [("attempt", .ofNat attempt), ("err", .text (← Forge.words f))])
  Forge.wait o (delay p)

/-- Makes an attempt and, if it fails, at most `more` others. -/
def tryFrom (o : Outside) (description : String) (p : RetryPolicy) (operation : Nat → Forge α) :
    Nat → Nat → Forge (Except Failure (α × Nat))
  | more, attempt => do
    Forge.checkCancelled
    Forge.log .info s!"attempt {attempt}/{(limit p).text}: {description}"
    match ← Forge.attempt (operation attempt) with
    | .ok a => return .ok (a, attempt)
    | .error f =>
      match more with
      | 0 => return .error f
      | more + 1 =>
        pause o description p attempt f
        tryFrom o description p operation more (attempt + 1)

/-- Tries an operation, which is given the number of the attempt. -/
def run (o : Outside) (description : String) (p : RetryPolicy) (operation : Nat → Forge α) :
    Forge (Retried α) := do
  let outcome ← match more? (limit p) with
    | some more => tryFrom o description p operation more 1
    | none => pure (.error (.value .null))
  match outcome with
  | .ok (a, attempts) => return .done a attempts
  | .error f =>
    Forge.log .warn s!"{description} failed after {(limit p).text} attempts"
      (some [("err", .text (← Forge.words f))])
    return .failed f (limit p)

end Retry

end VariantForge
