/-!
The source tree that variants are built from.
-/

namespace VariantForge

/-- A place that the source can be cloned from. -/
structure Candidate where
  name : String
  url : String
  ref : Option String := none
  deriving DecidableEq, Inhabited

/-- A checked-out source tree: its directory, the short and the full hash of the revision that was
obtained, the version that the source declares, where it came from, and what was asked for. -/
structure WorkingCopy where
  root : String
  revision : String
  baseRevision : String
  version : String
  source : Candidate
  requestedRevision : Option String
  pinned : Bool
  deriving DecidableEq, Inhabited

/-- Places that are tried where the settings name none. -/
def Candidate.builtIn : List Candidate :=
  [{ name := "gitlab", url := "https://gitlab.freedesktop.org/mesa/mesa.git" },
    { name := "github", url := "https://github.com/mesa3d/mesa.git" }]

end VariantForge
