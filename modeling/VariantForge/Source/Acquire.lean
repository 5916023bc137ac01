import VariantForge.Retry
import VariantForge.Source.Git
import VariantForge.Source.WorkingCopy
import VariantForge.Text.Utf8

/-!
Fetching the source.

Candidates are tried in order, each several times, until one can be cloned. Then the revision that
was asked for is checked out; where that fails the tip that was cloned stays.
-/

namespace VariantForge

/-- How the source is fetched. -/
structure AcquireOptions where
  chamber : String
  directory : String := "mesa"
  depth : Number
  pinDepth : Number
  userName : String
  userEmail : String
  retry : RetryPolicy

namespace Source

/-- Where the source is put. -/
def root (opts : AcquireOptions) : String := Path.join [opts.chamber, opts.directory]

/-- The version that a source tree declares. -/
def declaredVersion (root : String) : Forge String := do
  match ← Forge.attempt (Forge.readFile (Path.join [root, "VERSION"])) with
  | .ok bytes => return (Text.nonBlank? (Utf8.decode bytes)).getD "unknown"
  | .error _ => return "unknown"

/-- One attempt to clone a candidate in the place of what is there. -/
def cloneOnce (o : Outside) (opts : AcquireOptions) (c : Candidate) : Forge Unit := do
  Forge.change (·.removeAll (root opts))
  Git.clone o c.url (root opts) opts.depth c.ref

/-- Clones the first candidate that can be cloned; `failures` says what became of those before. -/
def cloneFirst (o : Outside) (opts : AcquireOptions) (failures : List String) :
    List Candidate → Forge Candidate
  | [] => throw (.acquisition .clone ("\n".intercalate failures))
  | c :: rest => do
    match ← Retry.run o s!"clone from {c.name}" opts.retry fun _ => cloneOnce o opts c with
    | .done .. => return c
    | .failed f _ =>
      let message := s!"{c.name} unavailable: {f.message}"
      let event := WarningEvent.candidateFailed
      Forge.log .warn message (some [("event", .text event.name), ("url", .text c.url)])
      Forge.warn { event, message }
      cloneFirst o opts (failures ++ [message]) rest

/-- Runs an operation and gives its failure as one of a step of fetching the source. -/
def asStep (step : AcquisitionStep) (x : Forge α) : Forge α :=
  tryCatch x fun f => throw (.acquisition step f.message)

/-- Checks out the revision that was asked for, and says whether that worked. -/
def pin (o : Outside) (opts : AcquireOptions) (requested : String) : Forge Bool := do
  Forge.log .info s!"checking out {requested}"
  let outcome ← Forge.attempt do
    Git.fetch o (root opts) "origin" none (some opts.pinDepth)
    Git.checkout o (root opts) requested
  match outcome with
  | .ok _ => return true
  | .error f =>
    let message := s!"could not check out {requested}, using HEAD"
    let event := WarningEvent.revisionFallback
    Forge.log .warn message (some [("event", .text event.name), ("err", .text f.message)])
    Forge.warn { event, message }
    return false

/-- The source tree that was cloned: the revision that was obtained, and the version it declares. -/
def describe (o : Outside) (opts : AcquireOptions) (source : Candidate) (requestedRevision : Option String)
    (pinned : Bool) : Forge WorkingCopy := do
  let (baseRevision, revision) ← asStep .revision do
    let base ← Git.revParse o (root opts) "HEAD" false
    let short ← Git.revParse o (root opts) "HEAD" true
    return (base, short)
  let version ← declaredVersion (root opts)
  Forge.log .info s!"source ready: {version} ({revision}) from {source.name}"
  return { root := root opts, revision, baseRevision, version, source, requestedRevision, pinned }

/-- Fetches the source: clones the first candidate that can be cloned and settles on the revision
that was asked for, if it can be checked out. -/
def acquire (o : Outside) (opts : AcquireOptions) (candidates : List Candidate)
    (revision : Option String) : Forge WorkingCopy := do
  let source ← cloneFirst o opts [] candidates
  asStep .identity (Git.setIdentity o (root opts) opts.userName opts.userEmail)
  let requestedRevision := revision.bind Text.nonBlank?
  let pinned ← match requestedRevision with
    | some requested => pin o opts requested
    | none => pure false
  describe o opts source requestedRevision pinned

/-- Puts the source tree back to the revision that was fetched. -/
def reset (o : Outside) (w : WorkingCopy) : Forge Unit := do
  Forge.log .info "resetting source tree"
  Git.resetHard o w.root w.baseRevision

end Source

end VariantForge
