import VariantForge.Spell.Rule

/-!
Spells: changes to a working copy that a variant is made of.

A spell edits one file by rules, applies a patch from the directory of spells, or merges a
request from a remote. The catalog holds spells by their identity; what it does not hold is taken
for a patch of that name.
-/

namespace VariantForge

/-- What a spell does. -/
inductive Work where
  | edit (file : String) (marker : Text) (rules : List Rule)
  | patch (file : String)
  | mergeRequest (remote ref : String)
  deriving Inhabited

/-- A spell, and the spells that must be cast before it. -/
structure Spell where
  id : String
  description : Option String := none
  requires : Option (List String) := none
  work : Work
  deriving Inhabited

/-- The kinds of spells. -/
inductive SpellKind where
  | edit
  | patch
  | mergeRequest
  deriving DecidableEq

/-- The name of a kind of spells. -/
def SpellKind.name : SpellKind → String
  | .edit => "text_rewrite"
  | .patch => "diff_patch"
  | .mergeRequest => "merge_request"

/-- The kind of a spell. -/
def Spell.kind (s : Spell) : SpellKind :=
  match s.work with
  | .edit .. => .edit
  | .patch .. => .patch
  | .mergeRequest .. => .mergeRequest

/-- Spells under their identities, in the order in which they were first put in. -/
abbrev Catalog := List (String × Spell)

namespace Catalog

/-- Puts a spell in; one that is there under the same identity gives way in its place. -/
def add (catalog : Catalog) (s : Spell) : Catalog :=
  match catalog with
  | [] => [(s.id, s)]
  | (id, old) :: rest => if id = s.id then (id, s) :: rest else (id, old) :: add rest s

/-- The spell under an identity. -/
def find? (catalog : Catalog) (id : String) : Option Spell :=
  match catalog with
  | [] => none
  | (i, s) :: rest => if i = id then some s else find? rest id

/-- A catalog of spells, later ones taking the place of earlier ones. -/
def ofList (spells : List Spell) : Catalog := spells.foldl add []

/-- The identities in order. -/
def ids (catalog : Catalog) : List String := catalog.map (·.1)

/-- The spell for an identity: that of the catalog, else the patch of that name. -/
def lookup (catalog : Catalog) (id : String) : Spell :=
  match catalog.find? id with
  | some s => s
  | none => { id, work := .patch (id ++ ".patch") }

end Catalog

namespace Spell

/-- Marks files in which rendering to system memory is forced. -/
def tigerMarker : String := "// Dragon: Tiger Velocity"

/-- A replacement of one text by another wherever it stands. -/
def replaceText (find replacement : String) : Rule :=
  .replace (Text.ofString find) (Text.ofString replacement) none none

/-- Makes the command buffer always render to system memory: the function that decides says yes on
its first line, or before it looks at the debug flag. -/
def tigerVelocity : Spell where
  id := "tiger/velocity"
  description := some "Force sysmem rendering in the turnip command buffer"
  work := .edit "src/freedreno/vulkan/tu_cmd_buffer.cc" (Text.ofString tigerMarker)
    [.firstOf
      [.insert .after
        (Text.ofString "^use_sysmem_rendering\\b[^\\n]*\\n(?:[^\\n]*\\n)*?\\\x7b[^\\n]*")
        (Text.ofString ("\n   " ++ tigerMarker ++ "\n   return true;")) (some true),
      .insert .before (Text.ofString "^[ \\t]*if \\(TU_DEBUG\\(SYSMEM\\)\\)")
        (Text.ofString ("   " ++ tigerMarker ++ "\n   return true;\n")) (some true)]]

/-- Allocates query buffers without the cached flag. -/
def falconQuery : Spell where
  id := "falcon/query-uncached"
  description := some "Allocate query buffers without the cached flag"
  work := .edit "src/freedreno/vulkan/tu_query.cc" (Text.ofString "// Dragon: Falcon Memory (query)")
    [replaceText "tu_bo_init_new_cached" "tu_bo_init_new"]

/-- Reports that there is no cached coherent memory. -/
def falconCoherent : Spell where
  id := "falcon/coherent-off"
  description := some "Report no cached coherent memory"
  work := .edit "src/freedreno/vulkan/tu_device.cc" (Text.ofString "// Dragon: Falcon Memory (device)")
    [replaceText "has_cached_coherent_memory = true" "has_cached_coherent_memory = false"]

/-- Spells that are always there. Settings may add others or put theirs in the place of these. -/
def builtIn : List Spell :=
  [tigerVelocity, falconQuery, falconCoherent,
    { id := "phoenix/wings_boost", work := .patch "phoenix/wings_boost.patch" },
    { id := "common/memory_fix", work := .patch "common/memory_fix.patch" },
    { id := "shadow/mr-37802"
      description := some "Upstream merge request !37802"
      work := .mergeRequest "origin" "refs/merge-requests/37802/head" }]

end Spell

/-- The catalog of the built-in spells and others. -/
def Catalog.withBuiltIn (extra : List Spell) : Catalog := Catalog.ofList (Spell.builtIn ++ extra)

end VariantForge
