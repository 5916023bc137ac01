import VariantForge.CommandLine.Invocation
import VariantForge.Log

/-!
An invocation as the outside sees it: its exit code, the lines that it writes, and the world that it
leaves. With a threshold for the log that there is not, nothing is done.
-/

namespace VariantForge.Invocation

/-- How an invocation ended. -/
structure Exit where
  code : Nat
  lines : List Log.Line
  world : World

/-- Runs an invocation from start to end. -/
def exit (o : Outside) (args : List String) (cwd : String) (env : Members String) (w : World) : Exit :=
  match Log.requested? env with
  | none => ⟨1, [], w⟩
  | some threshold =>
    let (result, after) := Forge.runOn w (run o args cwd env)
    let lines := (after.journal.drop w.journal.length).flatMap (Log.linesOf (Log.isPretty env) threshold)
    ⟨result.toOption.getD 1, lines, after⟩

end VariantForge.Invocation
