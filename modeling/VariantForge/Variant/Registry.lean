import VariantForge.Path
import VariantForge.Spell.Catalog
import VariantForge.Text.Basic
import VariantForge.Text.LowerCase

/-!
Variants of the driver, and choosing among them.

A variant is a list of spells under a name. Names are compared without regard to case, blanks at
the ends and the difference between hyphen and low line. The registry holds each name once, at the
place where it was first defined; it lets no spell in whose file would lie outside the directory
that it belongs to, nor one that needs a spell that is not cast before it.
-/

namespace VariantForge

/-- A variant as it is written down: its spells are named. -/
structure VariantDefinition where
  name : String
  label : String
  spells : List String
  deriving DecidableEq, Inhabited

/-- A variant with its spells. -/
structure Variant where
  name : String
  label : String
  spells : List Spell
  deriving Inhabited

namespace VariantDefinition

/-- Variants that are always there. -/
def builtIn : List VariantDefinition :=
  [⟨"tiger", "Tiger", ["tiger/velocity"]⟩,
    ⟨"tiger-phoenix", "Tiger-Phoenix", ["tiger/velocity", "phoenix/wings_boost"]⟩,
    ⟨"falcon", "Falcon", ["falcon/query-uncached", "falcon/coherent-off", "tiger/velocity"]⟩,
    ⟨"shadow", "Shadow", ["shadow/mr-37802"]⟩,
    ⟨"hawk", "Hawk",
      ["tiger/velocity", "falcon/query-uncached", "falcon/coherent-off", "phoenix/wings_boost",
        "common/memory_fix"]⟩]

end VariantDefinition

namespace Variant

/-- The form of a name under which variants are compared. -/
def normalName (name : String) : String := Text.replaceChar (Text.lower (Text.trim name)) '_' '-'

/-- The name that asks for all variants. -/
def allName : String := "all"

/-- Whether a path leads out of the directory that it is taken from, back slashes being read as
slashes. -/
def climbs (path : String) : Bool :=
  let p := Path.normalize (Text.replaceChar path '\\' '/')
  Path.isAbsolute p || Text.startsWith p "../" || p == ".."

end Variant

/-- Why variants cannot be used as they are defined. -/
inductive RegistryFault where
  | reservedName
  | patchOutside (variant spell : String)
  | fileOutside (variant spell : String)
  | notBefore (variant spell required : String)
  | noDefault (name : String)
  deriving DecidableEq

/-- The fault in words. -/
def RegistryFault.message : RegistryFault → String
  | .reservedName => s!"\"{Variant.allName}\" is reserved"
  | .patchOutside variant spell => s!"variant {variant}: spell {spell} points outside the spells directory"
  | .fileOutside variant spell =>
    s!"variant {variant}: spell {spell} targets a file outside the working copy"
  | .notBefore variant spell required => s!"variant {variant}: {spell} requires {required} to run before it"
  | .noDefault name => s!"default variant not defined: {name}"

/-- The variants that may be asked for, and the one that is taken if none of them is. -/
structure Registry where
  variants : List Variant
  default : Variant

namespace Registry

/-- Puts a variant in; one of the same name gives way in its place. -/
def put (variants : List Variant) (v : Variant) : List Variant :=
  match variants with
  | [] => [v]
  | old :: rest => if old.name = v.name then v :: rest else old :: put rest v

/-- The variant of a normal name. -/
def find? (variants : List Variant) (name : String) : Option Variant := variants.find? (·.name == name)

/-- The variant that a definition stands for. -/
def variantOf (catalog : Catalog) (d : VariantDefinition) : Except RegistryFault Variant :=
  let name := Variant.normalName d.name
  if name = Variant.allName then .error .reservedName
  else .ok ⟨name, d.label, d.spells.map catalog.lookup⟩

/-- Puts the variants of some definitions in, one after the other. -/
def define (catalog : Catalog) (variants : List Variant) :
    List VariantDefinition → Except RegistryFault (List Variant)
  | [] => .ok variants
  | d :: rest =>
    match variantOf catalog d with
    | .error f => .error f
    | .ok v => define catalog (put variants v) rest

/-- Checks that the file of a spell lies inside the directory that it belongs to. -/
def checkPlace (variant : String) (s : Spell) : Except RegistryFault Unit :=
  match s.work with
  | .patch file => if Variant.climbs file then .error (.patchOutside variant s.id) else .ok ()
  | .edit file .. => if Variant.climbs file then .error (.fileOutside variant s.id) else .ok ()
  | .mergeRequest .. => .ok ()

/-- Checks spells in the order in which they are cast, after those in `before`. -/
def checkSpells (variant : String) (before : List String) : List Spell → Except RegistryFault Unit
  | [] => .ok ()
  | s :: rest =>
    match checkPlace variant s with
    | .error f => .error f
    | .ok _ =>
      match (s.requires.getD []).find? (fun id => !before.contains id) with
      | some id => .error (.notBefore variant s.id id)
      | none => checkSpells variant (s.id :: before) rest

/-- Checks variants one after the other. -/
def checkAll : List Variant → Except RegistryFault Unit
  | [] => .ok ()
  | v :: rest =>
    match checkSpells v.name [] v.spells with
    | .error f => .error f
    | .ok _ => checkAll rest

/-- The registry of some definitions, later ones taking the place of earlier ones of the same
name. -/
def build (definitions : List VariantDefinition) (catalog : Catalog) (default : String) :
    Except RegistryFault Registry :=
  match define catalog [] definitions with
  | .error f => .error f
  | .ok variants =>
    match checkAll variants with
    | .error f => .error f
    | .ok _ =>
      match find? variants (Variant.normalName default) with
      | none => .error (.noDefault default)
      | some v => .ok ⟨variants, v⟩

/-- What a name stands for: a variant, or nothing that is known. -/
inductive Resolution where
  | found (variant : Variant)
  | unknown (requested : String) (fallback : Variant)

/-- Looks a name up. -/
def resolve (r : Registry) (name : String) : Resolution :=
  match find? r.variants (Variant.normalName name) with
  | some v => .found v
  | none => .unknown name r.default

/-- The variants chosen for a request, and the request itself if it is unknown. -/
structure Selection where
  variants : List Variant
  unknown : Option String

/-- Chooses variants: the default one for no request or a blank one, all of them if all are asked
for, else the one that is named; the default again if there is none of that name. -/
def select (r : Registry) (request : Option String) : Selection :=
  match request.bind Text.nonBlank? with
  | none => ⟨[r.default], none⟩
  | some requested =>
    if Variant.normalName requested = Variant.allName then ⟨r.variants, none⟩
    else
      match r.resolve requested with
      | .found v => ⟨[v], none⟩
      | .unknown name v => ⟨[v], some name⟩

end Registry

end VariantForge
