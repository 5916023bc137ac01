import VariantForge.Data.Members
import VariantForge.Number.Decimal
import VariantForge.Path

/-!
What the build must know of a toolchain: where its programs are, how they are called, and the
options of the build; and the machine files that say so to the build.
-/

namespace VariantForge

/-- Where a toolchain came from. -/
inductive ToolchainSource where
  | system
  | cached
  | downloaded
  deriving DecidableEq, Inhabited

/-- The name of an origin. -/
def ToolchainSource.name : ToolchainSource → String
  | .system => "system"
  | .cached => "cached"
  | .downloaded => "downloaded"

/-- A toolchain that is there. -/
structure Toolchain where
  root : String
  version : String
  source : ToolchainSource
  deriving DecidableEq, Inhabited

/-- What a profile depends on besides the toolchain. -/
structure ProfileSettings where
  apiLevel : Number
  hostTag : String
  ccache : Bool
  mesonOptions : Members String := []
  environment : Members String := []

/-- The programs that build tools for the host. -/
structure NativeProfile where
  cc : String
  cxx : String
  pkgConfig : String
  deriving DecidableEq

/-- A toolchain as the build sees it. -/
structure Profile where
  platform : String
  arch : String
  cpu : String
  endian : String
  apiLevel : Number
  binDir : String
  launcher : List String
  cc : String
  cxx : String
  ar : String
  strip : String
  cLinker : String
  cppLinker : String
  cppCompilerFlags : List String
  cArgs : List String
  cppArgs : List String
  pkgConfig : String
  native : NativeProfile
  mesonOptions : Members String
  environment : Members String

namespace Profile

/-- The front of the names of the compilers. -/
def targetTriple : String := "aarch64-linux-android"

/-- The options of every build: only the Vulkan driver is wanted, all else is switched off. -/
def baseOptions (apiLevel : Number) : Members String :=
  [("buildtype", "release"), ("platforms", "android"), ("platform-sdk-version", apiLevel.text),
    ("android-stub", "true"), ("gallium-drivers", ""), ("vulkan-drivers", "freedreno"),
    ("vulkan-beta", "true"), ("freedreno-kmds", "kgsl"), ("b_lto", "true"), ("b_ndebug", "true"),
    ("cpp_rtti", "false"), ("egl", "disabled"), ("gbm", "disabled"), ("glx", "disabled"),
    ("opengl", "false"), ("llvm", "disabled"), ("libunwind", "disabled"), ("zstd", "disabled"),
    ("spirv-tools", "disabled"), ("werror", "false"), ("valgrind", "disabled"), ("build-tests", "false")]

/-- The profile of a toolchain. -/
def derive (t : Toolchain) (s : ProfileSettings) : Profile :=
  let binDir := Path.join [t.root, "toolchains", "llvm", "prebuilt", s.hostTag, "bin"]
  let tool (name : String) := Path.join [binDir, name]
  { platform := "android"
    arch := "aarch64"
    cpu := "armv8"
    endian := "little"
    apiLevel := s.apiLevel
    binDir
    launcher := if s.ccache then ["ccache"] else []
    cc := tool s!"{targetTriple}{s.apiLevel.text}-clang"
    cxx := tool s!"{targetTriple}{s.apiLevel.text}-clang++"
    ar := tool "llvm-ar"
    strip := tool "llvm-strip"
    cLinker := "lld"
    cppLinker := "lld"
    cppCompilerFlags :=
      ["-fno-exceptions", "-fno-unwind-tables", "-fno-asynchronous-unwind-tables", "-static-libstdc++"]
    cArgs := ["-w", "-Wno-error"]
    cppArgs := ["-w", "-Wno-error"]
    pkgConfig := "/bin/false"
    native := ⟨"clang", "clang++", "/usr/bin/pkg-config"⟩
    mesonOptions := Members.putAll (baseOptions s.apiLevel) s.mesonOptions
    environment := Members.putAll [("ANDROID_NDK_HOME", t.root)] s.environment }

/-- The options as arguments of the build. -/
def optionArguments (p : Profile) : List String := p.mesonOptions.map fun m => s!"-D{m.1}={m.2}"

end Profile

end VariantForge

/-!
Machine files are sections of keys, whose values are strings in single quotes or lists of such strings. A
quote and a backslash in a string have a backslash before them.
-/

namespace VariantForge.MachineFile

/-- What stands for a character in a string. -/
def quotedChar (c : Char) : List Char := if c = '\\' ∨ c = '\'' then ['\\', c] else [c]

/-- A string in quotes. -/
def quote (s : String) : String := String.ofList ('\'' :: s.toList.flatMap quotedChar ++ ['\''])

/-- A list of strings in brackets. -/
def list (values : List String) : String := "[" ++ ", ".intercalate (values.map quote) ++ "]"

/-- A value of a machine file. -/
inductive Value where
  | text (s : String)
  | list (values : List String)
  deriving DecidableEq

/-- A value as it is written. -/
def Value.render : Value → String
  | .text s => quote s
  | .list values => MachineFile.list values

/-- A part of a machine file. -/
structure Section where
  name : String
  entries : List (String × Value)

/-- The lines of a section. -/
def Section.lines (s : Section) : List String :=
  s!"[{s.name}]" :: s.entries.map fun e => s!"{e.1} = {e.2.render}"

/-- A machine file of some sections. -/
def render (sections : List Section) : String := "\n".intercalate (sections.flatMap Section.lines ++ [""])

/-- The file that describes the machine that is built for. -/
def cross (p : Profile) : List Section :=
  [⟨"binaries",
      [("ar", .text p.ar), ("c", .list (p.launcher ++ [p.cc])),
        ("cpp", .list (p.launcher ++ [p.cxx] ++ p.cppCompilerFlags)), ("c_ld", .text p.cLinker),
        ("cpp_ld", .text p.cppLinker), ("strip", .text p.strip), ("pkg-config", .text p.pkgConfig)]⟩,
    ⟨"host_machine",
      [("system", .text p.platform), ("cpu_family", .text p.arch), ("cpu", .text p.cpu),
        ("endian", .text p.endian)]⟩,
    ⟨"built-in options", [("c_args", .list p.cArgs), ("cpp_args", .list p.cppArgs)]⟩]

/-- The file that describes the machine that builds. -/
def native (p : Profile) : List Section :=
  [⟨"binaries",
      [("c", .list (p.launcher ++ [p.native.cc])), ("cpp", .list (p.launcher ++ [p.native.cxx])),
        ("pkg-config", .text p.native.pkgConfig)]⟩]

end VariantForge.MachineFile
