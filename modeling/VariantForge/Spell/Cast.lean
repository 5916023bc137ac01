import VariantForge.Source.Git
import VariantForge.Source.WorkingCopy
import VariantForge.Text.Utf8

/-!
Casting spells on a working copy. A spell that is missing or does not fit never stops the run: the
outcome says what became of it.
-/

namespace VariantForge

/-- What became of a spell. -/
inductive CastStatus where
  | applied
  | alreadyApplied
  | partiallyApplied
  | notFound
  deriving DecidableEq

/-- The name of a status. -/
def CastStatus.name : CastStatus → String
  | .applied => "applied"
  | .alreadyApplied => "already_applied"
  | .partiallyApplied => "partially_applied"
  | .notFound => "not_found"

/-- The outcome of casting a spell. Where rules were applied, it counts those that found something
and those that did not. -/
structure CastOutcome where
  id : String
  kind : SpellKind
  status : CastStatus
  detail : String
  matchedRules : Option Nat := none
  unmatchedRules : Option Nat := none
  deriving DecidableEq

namespace Spell

/-- The outcome of a spell without counts. -/
def outcome (s : Spell) (status : CastStatus) (detail : String) : CastOutcome :=
  { id := s.id, kind := s.kind, status, detail }

/-- Applies rules to a text; a pattern that cannot be used is a failure. -/
def applyRules (content : Text) (rules : List Rule) : Forge Edited :=
  match Rule.applyAll content rules with
  | .ok edited => return edited
  | .error e => throw (.pattern e)

/-- The file that an edit opens. -/
def editPath (w : WorkingCopy) (file : String) : String := Path.join [w.root, file]

/-- The file that a patch is read from, seen from the directory `here`. -/
def patchPath (here spellsDir file : String) : String := Path.resolve here [spellsDir, file]

/-- Edits a file of the working copy by rules, unless it has the marker already. -/
def castEdit (w : WorkingCopy) (s : Spell) (file : String) (marker : Text) (rules : List Rule) :
    Forge CastOutcome := do
  let path := editPath w file
  if !(← Forge.look (·.isFile path)) then return s.outcome .notFound s!"target file not found: {file}"
  let content := Utf8.decodeText (← Forge.readFile path)
  if content.contains marker then return s.outcome .alreadyApplied s!"marker present in {file}"
  let edited ← applyRules content rules
  for rule in edited.unmatched do
    Forge.log .debug s!"rule did not match in {file}: {rule}" (some [("transform", .text s.id)])
  Forge.change (·.write path (Utf8.encodeText (edited.content.withMarker marker)))
  let unmatched := edited.unmatched.length
  let detail :=
    if unmatched = 0 then s!"{edited.matched} rule(s) applied to {file}"
    else s!"{edited.matched}/{rules.length} rule(s) matched in {file}"
  return { s.outcome .applied detail with
    matchedRules := some edited.matched, unmatchedRules := some unmatched }

/-- Applies a patch from the directory of spells: as it is if it fits, else with a merge of three
sides. A patch that could be taken back is there already. -/
def castPatch (o : Outside) (spellsDir : String) (w : WorkingCopy) (s : Spell) (file : String) :
    Forge CastOutcome := do
  let patch := patchPath (← Forge.here) spellsDir file
  if !(← Forge.look (·.isFile patch)) then return s.outcome .notFound s!"spell not found: {file}"
  if ← Git.applyCheck o w.root patch true then return s.outcome .alreadyApplied "patch already present"
  if ← Git.applyCheck o w.root patch false then
    if (← Git.apply o w.root patch false).succeeded then return s.outcome .applied "applied cleanly"
  Forge.log .warn s!"spell may conflict, trying 3-way merge: {s.id}"
  let merged ← Git.apply o w.root patch true
  if merged.succeeded then return s.outcome .applied "applied with 3-way merge"
  return s.outcome .partiallyApplied merged.failure

/-- Merges a request from a remote. A merge that conflicts is given up. -/
def castMerge (o : Outside) (w : WorkingCopy) (s : Spell) (remote ref : String) : Forge CastOutcome := do
  match ← Forge.attempt (Git.fetch o w.root remote (some ref) none) with
  | .error f => return s.outcome .notFound s!"could not fetch {ref}: {f.message}"
  | .ok _ =>
    if ← Git.isAncestor o w.root "FETCH_HEAD" "HEAD" then
      return s.outcome .alreadyApplied s!"{ref} already merged"
    if (← Git.merge o w.root "FETCH_HEAD").succeeded then return s.outcome .applied s!"merged {ref}"
    Git.mergeAbort o w.root
    return s.outcome .partiallyApplied s!"merge conflict in {ref}, skipped"

/-- Casts a spell on a working copy. -/
def cast (o : Outside) (spellsDir : String) (w : WorkingCopy) (s : Spell) : Forge CastOutcome := do
  Forge.log .info s!"casting spell: {s.id}"
  let work := match s.work with
    | .edit file marker rules => castEdit w s file marker rules
    | .patch file => castPatch o spellsDir w s file
    | .mergeRequest remote ref => castMerge o w s remote ref
  match ← Forge.attempt work with
  | .ok outcome => return outcome
  | .error f => return s.outcome .partiallyApplied f.message

end Spell

end VariantForge
