import VariantForge.Retry
import VariantForge.Toolchain.Download
import VariantForge.Toolchain.Profile
import VariantForge.Toolchain.Unpack

/-!
Finding the toolchain: one that is installed comes first, then the copy in the chamber, and only
then a fresh download. A download that cannot be unpacked leaves no copy behind.
-/

namespace VariantForge

/-- Where to look for a toolchain, and how to fetch it. -/
structure ResolveOptions where
  chamber : String
  version : String
  downloadUrl : String
  systemRoot : Option String := none
  downloadTimeoutMs : Number
  maxDownloadBytes : Number := 0
  retry : RetryPolicy

namespace Toolchain

/-- Where the copy of a version is kept. -/
def cachedRoot (opts : ResolveOptions) : String := Path.join [opts.chamber, opts.version]

/-- Where the archive of a version is kept while it is unpacked. -/
def archivePath (opts : ResolveOptions) : String := Path.join [opts.chamber, opts.version ++ ".zip"]

/-- Downloads the archive, or fails after some attempts. -/
def download (o : Outside) (opts : ResolveOptions) : Forge Unit := do
  Forge.log .info s!"downloading NDK {opts.version}" (some [("url", .text opts.downloadUrl)])
  let fetched ← Retry.run o "downloading NDK" opts.retry fun _ =>
    Download.run o
      { url := opts.downloadUrl, target := archivePath opts, timeoutMs := opts.downloadTimeoutMs
        maxBytes := opts.maxDownloadBytes }
  match fetched with
  | .done .. => return ()
  | .failed f _ => throw (.toolchain (.download opts.version f.message))

/-- Unpacks the archive and removes it. Where that fails the copy is removed too. -/
def unpack (opts : ResolveOptions) : Forge Unit :=
  Forge.finally_
    (tryCatch (do let _ ← Unpack.run (archivePath opts) opts.chamber {}) fun f => do
      Forge.change (·.removeAll (cachedRoot opts))
      throw (.toolchain (.unpack opts.version f.message)))
    (Forge.change (·.removeFile (archivePath opts)))

/-- A toolchain of the version asked for. -/
def found (opts : ResolveOptions) (root : String) (source : ToolchainSource) : Toolchain :=
  ⟨root, opts.version, source⟩

/-- Fetches a toolchain that is not there. -/
def install (o : Outside) (opts : ResolveOptions) : Forge Toolchain := do
  download o opts
  unpack opts
  if !(← Forge.look (·.isDirectory (cachedRoot opts))) then
    throw (.toolchain (.noDirectory opts.version))
  Forge.log .info s!"NDK installed: {cachedRoot opts}"
  return found opts (cachedRoot opts) .downloaded

/-- The copy in the chamber, or a fresh one. -/
def cachedOrInstalled (o : Outside) (opts : ResolveOptions) : Forge Toolchain := do
  if ← Forge.look (·.isDirectory (cachedRoot opts)) then
    Forge.log .info s!"using cached NDK: {cachedRoot opts}"
    return found opts (cachedRoot opts) .cached
  install o opts

/-- Finds a toolchain or fetches it. -/
def resolve (o : Outside) (opts : ResolveOptions) : Forge Toolchain := do
  match opts.systemRoot.filter (!·.isEmpty) with
  | some root =>
    if ← Forge.look (·.isDirectory root) then
      Forge.log .info s!"using system NDK: {root}"
      return found opts root .system
    cachedOrInstalled o opts
  | none => cachedOrInstalled o opts

end Toolchain

end VariantForge
