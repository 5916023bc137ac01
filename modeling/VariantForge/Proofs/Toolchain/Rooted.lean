import VariantForge.Proofs.Data.Members
import VariantForge.Proofs.Disk.Reached
import VariantForge.Proofs.Path.Joined
import VariantForge.Proofs.Run.Accounting
import VariantForge.Proofs.Run.Fresh
import VariantForge.Proofs.Settings.Projection
import VariantForge.Proofs.Toolchain.Installation
import VariantForge.Run.Forge

/-!
# Rooted — where a build finds the toolchain that was found

Programs of a toolchain are named by paths that the build reads in its own directory. A path from the root leads
there, wherever it is read, along the names on it (`Disk.leadsInto`); so once the root of a toolchain is such a path,
what the build is told of lies in the directory that was found (`toldOf`).

The chamber is always resolved, and the copy in it found by a path from the root. A toolchain of the system is found
by the path that the settings give as it stands (`resolve_rooted`): a relative one is looked for in one directory and
built with in another (`resolve_relative_not_rooted`).
-/

namespace VariantForge

open Disk Forge Path

variable {o : Outside} {d : Disk} {t : Toolchain} {root : Place} {ns ms : List Part} {w w' : World}

/-! ## Numbers and names -/

theorem Number.slash_notMem_toDigits {n : Nat} : '/' ∉ Nat.toDigits 10 n := by
  intro h
  have := Nat.isDigit_of_mem_toDigits (by decide) (by decide) h
  exact absurd this (by decide)

theorem Number.slash_notMem_decimal (x : Decimal) : '/' ∉ x.text := by
  have hall : '/' ∉ ((Nat.toDigits 10 x.digits).reverse.dropWhile (· == '0')).reverse := by
    intro h
    rw [List.mem_reverse] at h
    exact slash_notMem_toDigits (List.mem_reverse.1 ((List.dropWhile_sublist _).subset h))
  rw [Decimal.text]
  dsimp only
  generalize ((Nat.toDigits 10 x.digits).reverse.dropWhile (· == '0')).reverse = all at hall ⊢
  have hzeros (n : Nat) : '/' ∉ zeros n := by
    intro h
    exact absurd (List.eq_of_mem_replicate h) (by decide)
  have htake (n : Nat) : '/' ∉ all.take n := fun h => hall (List.mem_of_mem_take h)
  have hdrop (n : Nat) : '/' ∉ all.drop n := fun h => hall (List.mem_of_mem_drop h)
  split
  · simp [hall, hzeros]
  split
  · simp [htake, hdrop]
  split
  · simp [hall, hzeros]
  · have hsign (e : Int) : '/' ≠ (if e < 0 then '-' else '+') := by split <;> decide
    have hmantissa : '/' ∉ (if all.length = 1 then all else all.take 1 ++ '.' :: all.drop 1) := by
      split
      · exact hall
      · rw [List.mem_append, List.mem_cons, not_or, not_or]
        exact ⟨htake 1, by decide, hdrop 1⟩
    simp only [List.mem_append, List.mem_cons, not_or]
    exact ⟨hmantissa, by decide, hsign _, slash_notMem_toDigits⟩

theorem Number.slash_notMem_text (x : Number) : '/' ∉ x.text.toList := by
  cases x with
  | nan => decide
  | infinite negative => cases negative <;> decide
  | finite q =>
    rw [Number.text]
    split
    · decide
    split
    · rw [String.toList_ofList, List.mem_cons, not_or]
      exact ⟨by decide, slash_notMem_decimal _⟩
    · rw [String.toList_ofList]
      exact slash_notMem_decimal _

/-! ## Paths into a directory -/

namespace Disk

/-- Whether a path leads, wherever relative paths start, to what lies along some names in a directory; unless it is
too long or meets too many links. -/
def LeadsInto (d : Disk) (root : Place) (ns : List Part) (path : String) : Prop :=
  ∀ start, { d with here := start }.locate path = d.walk true linkBound root (ns.map shownPart) ∨
    { d with here := start }.locate path = .error .nameTooLong ∨
      { d with here := start }.locate path = .error .tooManyLinks

theorem leadsInto (hall : ∀ p ∈ ns ++ ms, IsName p)
    (hway : d.walk true linkBound [] (ns.map shownPart) = .ok root) (hdir : d.get? root = some .directory) :
    LeadsInto d root ms (absolute (ns ++ ms)) := by
  intro start
  rw [locate, walkPath_absolute_eq hall, walk_here, List.map_append]
  split
  · exact .inr (.inl rfl)
  · obtain ⟨m, hm, heq⟩ := walk_append_le hway hdir (.inl rfl)
    rw [heq]
    exact (walk_le hm).imp id .inr

end Disk

theorem Path.toList_append_slash (a b : String) : (a ++ ("/" ++ b)).toList = a.toList ++ '/' :: b.toList := by
  rw [String.toList_append, String.toList_append]
  rfl

theorem Path.Through.up_notMem {path : String} (h : Through path ns) : up ∉ Path.parts path.toList := by
  have hslash : ∀ p ∈ ns, '/' ∉ p := fun p hp => (h.names p hp).no_slash
  have habsolute : up ∉ Path.parts (absolute ns).toList := by
    rw [toList_absolute, parts_slash]
    by_cases hns : ns = []
    · subst hns
      decide
    · rw [parts_joinParts hslash hns, List.mem_cons, not_or]
      exact ⟨by decide, fun hc => (h.names up hc).ne_up rfl⟩
  rcases h.text with rfl | ⟨-, htext⟩
  · exact habsolute
  · rw [htext, parts_append_slash, List.mem_append, not_or]
    exact ⟨habsolute, by decide⟩

/-- Whether a value of a machine file calls a program, through the compiler cache or not. -/
def MachineFile.Value.Calls (program : String) : MachineFile.Value → Prop
  | .text s => s = program
  | .list values => ∃ launcher flags, values = launcher ++ program :: flags ∧ launcher ∈ [[], ["ccache"]]

namespace Toolchain

/-- The programs of a toolchain that a build is told of: under which name, and the names of their files. -/
def tools (apiLevel : Number) : List (String × String) :=
  [("ar", "llvm-ar"), ("c", s!"{Profile.targetTriple}{apiLevel.text}-clang"),
    ("cpp", s!"{Profile.targetTriple}{apiLevel.text}-clang++"), ("strip", "llvm-strip")]

theorem isName_tool {apiLevel : Number} {tool : String × String} (h : tool ∈ tools apiLevel) :
    IsName tool.2.toList := by
  have hcompiler (ending : String) (hend : '/' ∉ ending.toList) :
      IsName (Profile.targetTriple ++ (apiLevel.text ++ ending)).toList := by
    rw [String.toList_append]
    refine isName_append (by decide) (by decide) (by decide) ?_
    rw [String.toList_append, List.mem_append, not_or]
    exact ⟨apiLevel.slash_notMem_text, hend⟩
  simp only [tools, List.mem_cons, List.not_mem_nil, or_false] at h
  rcases h with rfl | rfl | rfl | rfl
  · exact (by decide : IsName "llvm-ar".toList)
  · exact hcompiler "-clang" (by decide)
  · exact hcompiler "-clang++" (by decide)
  · exact (by decide : IsName "llvm-strip".toList)

/-- Where a toolchain keeps its programs for a host. -/
def prebuilt (hostTag : String) : String := "toolchains/llvm/prebuilt" ++ ("/" ++ hostTag)

theorem toList_prebuilt (hostTag : String) :
    (prebuilt hostTag).toList = "toolchains/llvm/prebuilt".toList ++ '/' :: hostTag.toList :=
  Path.toList_append_slash ..

/-- The names on the way from a toolchain to its programs. -/
def binNames (hostTag : String) : List Part := normalParts true (prebuilt hostTag).toList ++ ["bin".toList]

/-- The programs of a toolchain that is given from the root are along its normal path. -/
theorem binDir_eq {s : ProfileSettings} (habs : isAbsolute t.root = true) (hstays : StaysBelow (prebuilt s.hostTag)) :
    (Profile.derive t s).binDir = absolute (normalParts false t.root.toList ++ binNames s.hostTag) := by
  have hroot : t.root.toList ≠ [] := by
    intro hc
    rw [isAbsolute, hc] at habs
    cases habs
  have hgiven (before : List Char) (hjoin : join [t.root, "toolchains", "llvm", "prebuilt", s.hostTag, "bin"] =
      String.ofList (normalizeChars ((t.root.toList ++ '/' :: before) ++ '/' :: "bin".toList))) :
      (Profile.derive t s).binDir = absolute (descend (normalParts false t.root.toList) before ++ ["bin".toList]) := by
    have hcs : isAbsoluteChars (t.root.toList ++ '/' :: before) = true := by
      rw [isAbsoluteChars_append hroot]
      exact habs
    rw [← normalParts_append_descend, ← normalizeChars_append_name hcs (by decide), ← hjoin]
    rfl
  have hway : (Profile.derive t s).binDir =
      absolute (descend (normalParts false t.root.toList) (prebuilt s.hostTag).toList ++ ["bin".toList]) := by
    by_cases hblank : s.hostTag = ""
    · -- a blank host tag is left out
      rw [toList_prebuilt, hblank, String.toList_empty, descend_append_trailing]
      refine hgiven _ ?_
      simp [join, hroot, hblank, joinParts, List.intercalate]
    · rw [toList_prebuilt]
      refine hgiven _ ?_
      simp [join, hroot, hblank, joinParts, List.intercalate]
  rw [hway, descend_eq_append hstays, binNames, List.append_assoc]
  exact fun p hp => (isName_of_mem_normalParts hp).ne_up

/-- Whether what a build is told of a toolchain lies in a directory, wherever the build is run: the programs that the
machine file names, and what comes first in the search path of each command. -/
structure ToldOf (o : Outside) (opts : BuildOptions) (t : Toolchain) (d : Disk) (root : Place) : Prop where
  named : ∀ tool ∈ tools opts.profile.apiLevel,
    ∃ s ∈ MachineFile.cross (Profile.derive t opts.profile), ∃ v path,
      (tool.1, v) ∈ s.entries ∧ v.Calls path ∧
        LeadsInto d root (binNames opts.profile.hostTag ++ [tool.2.toList]) path
  searched : ∀ c label, ∀ cmd ∈ Build.commands o opts c t label, ∃ env bin rest, cmd.environment = some env ∧
    env.get? "PATH" = some (bin ++ ":" ++ rest) ∧ LeadsInto d root (binNames opts.profile.hostTag) bin

theorem isName_of_mem_binNames {hostTag : String} (hstays : StaysBelow (prebuilt hostTag)) :
    ∀ p ∈ binNames hostTag, IsName p := by
  refine List.forall_mem_append.2 ⟨fun p hp => isName_of_mem_of_up_notMem hp hstays, ?_⟩
  exact List.forall_mem_singleton.2 (by decide)

theorem toldOf {opts : BuildOptions} (habs : isAbsolute t.root = true)
    (hstays : StaysBelow (prebuilt opts.profile.hostTag))
    (hway : d.walk true linkBound [] ((normalParts false t.root.toList).map shownPart) = .ok root)
    (hdir : d.get? root = some .directory) : ToldOf o opts t d root := by
  have hbin := binDir_eq (t := t) (s := opts.profile) habs hstays
  have hroot : ∀ p ∈ normalParts false t.root.toList, IsName p := fun p => isName_of_mem_normalParts
  have hnames := isName_of_mem_binNames hstays
  have hall := List.forall_mem_append.2 ⟨hroot, hnames⟩
  constructor
  · intro tool htool
    have hname := isName_tool htool
    have hpath : join [(Profile.derive t opts.profile).binDir, tool.2] =
        absolute (normalParts false t.root.toList ++ (binNames opts.profile.hostTag ++ [tool.2.toList])) := by
      rw [hbin, join_absolute hall hname, List.append_assoc]
    have hinto : LeadsInto d root (binNames opts.profile.hostTag ++ [tool.2.toList])
        (join [(Profile.derive t opts.profile).binDir, tool.2]) := by
      rw [hpath]
      refine leadsInto ?_ hway hdir
      exact List.forall_mem_append.2 ⟨hroot, List.forall_mem_append.2 ⟨hnames, by simpa using hname⟩⟩
    have hlauncher : (Profile.derive t opts.profile).launcher ∈ [[], ["ccache"]] := by
      rw [Profile.derive]
      dsimp only
      split <;> simp
    refine ⟨_, List.mem_cons_self .., ?_⟩
    simp only [tools, List.mem_cons, List.not_mem_nil, or_false] at htool
    rcases htool with rfl | rfl | rfl | rfl
    · exact ⟨_, _, List.mem_cons_self .., rfl, hinto⟩
    · exact ⟨_, _, List.mem_cons_of_mem _ (List.mem_cons_self ..), ⟨_, [], rfl, hlauncher⟩, hinto⟩
    · refine ⟨_, _, List.mem_cons_of_mem _ (List.mem_cons_of_mem _ (List.mem_cons_self ..)), ?_, hinto⟩
      exact ⟨_, _, List.append_assoc .., hlauncher⟩
    · exact ⟨_, _, List.mem_of_getElem? (i := 5) rfl, rfl, hinto⟩
  · intro c label cmd hcmd
    refine ⟨Build.environment o (Profile.derive t opts.profile),
      absolute (normalParts false t.root.toList ++ binNames opts.profile.hostTag), o.searchPath.getD "", ?_, ?_, ?_⟩
    · simp only [Build.commands, List.mem_cons, List.not_mem_nil, or_false] at hcmd
      rcases hcmd with rfl | rfl <;> rfl
    · rw [Build.environment, Members.get?_put, if_pos rfl, hbin]
    · exact leadsInto hall hway hdir

/-! ## The root -/

/-- What is found is a directory: that of the system, or the one in the chamber. -/
theorem resolve_root {opts : ResolveOptions} (h : runOn w (resolve o opts) = (.ok t, w')) :
    w'.disk.isDirectory t.root = true ∧
      (t.source = .system ∧ opts.systemRoot = some t.root ∨ t.source ≠ .system ∧ t.root = cachedRoot opts) := by
  have hinstall {w : World} (h : runOn w (install o opts) = (.ok t, w')) :
      w'.disk.isDirectory t.root = true ∧ t.source ≠ .system ∧ t.root = cachedRoot opts := by
    obtain ⟨_, _, -, -, hdir, hdisk, rfl⟩ := install_ok h
    exact ⟨hdisk ▸ hdir, by simp [found], rfl⟩
  have hcached (h : runOn w (cachedOrInstalled o opts) = (.ok t, w')) :
      w'.disk.isDirectory t.root = true ∧ t.source ≠ .system ∧ t.root = cachedRoot opts := by
    rw [cachedOrInstalled, runOn_bind, runOn_look] at h
    dsimp only at h
    cases hdir : w.disk.isDirectory (cachedRoot opts) with
    | false =>
      rw [hdir] at h
      exact hinstall h
    | true =>
      rw [hdir] at h
      cases h
      exact ⟨hdir, by simp [found], rfl⟩
  rw [resolve] at h
  cases hroot : opts.systemRoot.filter (!·.isEmpty) with
  | none =>
    rw [hroot] at h
    exact ⟨(hcached h).1, .inr (hcached h).2⟩
  | some root =>
    rw [hroot] at h
    dsimp only at h
    rw [runOn_bind, runOn_look] at h
    dsimp only at h
    cases hdir : w.disk.isDirectory root with
    | false =>
      rw [hdir] at h
      exact ⟨(hcached h).1, .inr (hcached h).2⟩
    | true =>
      rw [hdir] at h
      cases h
      exact ⟨hdir, .inl ⟨rfl, (Option.filter_eq_some_iff.1 hroot).1⟩⟩

/-- Whether a path leads where its normal form does. -/
def LeadsNormally (d : Disk) (path : String) : Prop :=
  up ∈ parts path.toList → d.locate (normalize path) = d.locate path

theorem walk_of_leadsNormally {path : String} (habs : isAbsolute path = true) (hnormal : LeadsNormally d path)
    (h : d.locate path = .ok root) :
    d.walk true linkBound [] ((normalParts false path.toList).map shownPart) = .ok root := by
  by_cases hup : up ∈ parts path.toList
  · have hthrough : Through (normalize path) (normalParts false path.toList) := through_normalizeChars habs
    rw [← hthrough.normalParts]
    exact walk_normalParts hthrough.isAbsolute hthrough.up_notMem ((hnormal hup).trans h)
  · exact walk_normalParts habs hup h

/-- The root of a toolchain that is found is given from the root unless it is that of the system and the settings give
that otherwise. Then, whichever directory a build is run in, what it is told of the toolchain lies in the directory
that was found; if that is one of the system whose path climbs, its normal form must lead there too. -/
theorem resolve_rooted {p : Plan} {path : Option String} {r : Settings.Request} {w₀ w₁ : World}
    (hload : runOn w₀ (Settings.load path r) = (.ok p.config, w₁))
    (hresolve : runOn w (resolve o p.resolveOptions) = (.ok t, w')) :
    w'.disk.isDirectory t.root = true ∧
      (isAbsolute t.root = true ↔
        (t.source = .system → ∀ root, p.resolveOptions.systemRoot = some root → isAbsolute root = true)) ∧
      (isAbsolute t.root = true → StaysBelow (prebuilt p.buildOptions.profile.hostTag) → ∀ d root,
        d.locate t.root = .ok root → d.get? root = some .directory →
          (t.source = .system → LeadsNormally d t.root) → ToldOf o p.buildOptions t d root) := by
  obtain ⟨hfound, hsource⟩ := resolve_root hresolve
  obtain ⟨_, s, here, -, hc⟩ := Settings.complete_of_load hload
  have hchamber : isAbsolute p.resolveOptions.chamber = true := by
    have := Settings.isAbsolute_chamber here r.directory s
    rwa [← hc] at this
  refine ⟨hfound, ?_, fun habs hstays d root hlocate hdir hnormal => toldOf habs hstays ?_ hdir⟩
  · rcases hsource with ⟨hsystem, hroot⟩ | ⟨hsystem, hroot⟩
    · refine ⟨fun h _ root hr => ?_, fun h => h hsystem _ hroot⟩
      rw [hroot] at hr
      cases hr
      exact h
    · rw [hroot]
      exact ⟨fun _ hc => absurd hc hsystem, fun _ => isAbsolute_join hchamber⟩
  · refine walk_of_leadsNormally habs ?_ hlocate
    rcases hsource with ⟨hsystem, -⟩ | ⟨-, hroot⟩
    · exact hnormal hsystem
    · intro hup
      rw [hroot] at hup
      exact absurd hup (through_join p.resolveOptions.version hchamber).up_notMem

/-- A disk with a toolchain of one program, and a working copy beside it; relative paths start above both. -/
def tooled : Disk :=
  let places : List Place :=
    [["work", "ndk", "toolchains", "llvm", "prebuilt", "linux-x86_64", "bin"], ["work", "driver_chamber", "mesa"]]
  ⟨(["work", "ndk", "toolchains", "llvm", "prebuilt", "linux-x86_64", "bin", "llvm-ar"], .file .empty 0o755) ::
    places.flatMap fun place => place.inits.tail.map (·, .directory), ["work"]⟩

/-- Settings that name a toolchain in the environment alone. -/
def asked (root : String) : Settings.Request := ⟨none, "/work", [("ANDROID_NDK_LATEST_HOME", root)]⟩

/-- A toolchain of the system is taken where there is one. -/
theorem resolve_system {opts : ResolveOptions} {root : String} (hroot : opts.systemRoot = some root)
    (hne : root.isEmpty = false) (hdir : w.disk.isDirectory root = true) :
    ∃ w', runOn w (resolve o opts) = (.ok (found opts root .system), w') ∧ w'.disk = w.disk := by
  have hfilter : opts.systemRoot.filter (!·.isEmpty) = some root := by simp [hroot, hne]
  rw [resolve, hfilter]
  dsimp only
  rw [runOn_bind, runOn_look]
  dsimp only
  rw [hdir]
  exact ⟨_, rfl, rfl⟩

/-- Settings without a file change nothing. -/
theorem load_none_still (r : Settings.Request) : Still (Settings.load none r) := by
  intro w
  rw [Settings.load_eq]
  dsimp only [Option.filter]
  rw [runOn_bind, runOn_pure]
  dsimp only
  rw [Settings.loadFile]
  cases Settings.ofFile .empty r with
  | error f => rfl
  | ok s => rfl

/-- Where the settings name a toolchain that is there, that is found. -/
theorem resolve_asked (root : String) (hne : root.isEmpty = false) (hdir : tooled.isDirectory root = true)
    (hloaded : ((runOn ⟨tooled, false, 0, []⟩ (Settings.load none (asked root))).1.toOption.map fun c =>
      (c.settings.toolchain.systemRoot, c.settings.toolchain.hostTag)) = some (some root, "linux-x86_64")) :
    ∃ (p : Plan) (w₁ w' : World),
      runOn ⟨tooled, false, 0, []⟩ (Settings.load none (asked root)) = (.ok p.config, w₁) ∧
      runOn w₁ (resolve Run.obliging p.resolveOptions) = (.ok (found p.resolveOptions root .system), w') ∧
      w'.disk = tooled ∧ p.buildOptions.profile.hostTag = "linux-x86_64" := by
  rcases hload : runOn ⟨tooled, false, 0, []⟩ (Settings.load none (asked root)) with ⟨f | c, w₁⟩
  · rw [hload] at hloaded
    cases hloaded
  have hdisk : w₁.disk = tooled := by
    have := load_none_still (asked root) ⟨tooled, false, 0, []⟩
    rwa [hload] at this
  rw [hload] at hloaded
  simp only [Except.toOption, Option.map_some, Option.some.injEq, Prod.mk.injEq] at hloaded
  have hroot : (Plan.mk c Run.bare.registry).resolveOptions.systemRoot = some root := hloaded.1
  obtain ⟨w', hresolve, hsame⟩ := resolve_system (o := Run.obliging) (w := w₁) hroot hne (hdisk.symm ▸ hdir)
  exact ⟨⟨c, Run.bare.registry⟩, w₁, w', rfl, hresolve, hsame.trans hdisk, hloaded.2⟩

theorem resolve_rooted_asked :
    ∃ (p : Plan) (w₁ w' : World) (t : Toolchain),
      runOn ⟨tooled, false, 0, []⟩ (Settings.load none (asked "/work/ndk")) = (.ok p.config, w₁) ∧
        runOn w₁ (resolve Run.obliging p.resolveOptions) = (.ok t, w') ∧ isAbsolute t.root = true ∧
        StaysBelow (prebuilt p.buildOptions.profile.hostTag) ∧
        ToldOf Run.obliging p.buildOptions t w'.disk ["work", "ndk"] := by
  obtain ⟨p, w₁, w', hload, hresolve, hdisk, hhost⟩ :=
    resolve_asked "/work/ndk" (by decide) (by decide +kernel) (by decide +kernel)
  have hstays : StaysBelow (prebuilt p.buildOptions.profile.hostTag) := by
    rw [hhost]
    decide
  have habs : isAbsolute "/work/ndk" = true := by decide
  have hplain : up ∉ parts "/work/ndk".toList := by decide
  have hlocate : tooled.locate "/work/ndk" = .ok ["work", "ndk"] := by decide +kernel
  refine ⟨p, w₁, w', _, hload, hresolve, habs, hstays, ?_⟩
  exact (resolve_rooted hload hresolve).2.2 habs hstays w'.disk _ (hdisk ▸ hlocate) (hdisk ▸ rfl)
    fun _ hup => absurd hup hplain

/-- A relative path of a toolchain is read from one directory when it is looked for, and from another when it is
built with. -/
theorem resolve_relative_not_rooted :
    ∃ (p : Plan) (w₁ w' : World) (t : Toolchain),
      runOn ⟨tooled, false, 0, []⟩ (Settings.load none (asked "ndk")) = (.ok p.config, w₁) ∧
        runOn w₁ (resolve Run.obliging p.resolveOptions) = (.ok t, w') ∧ isAbsolute t.root = false ∧
        w'.disk.isFile (Profile.derive t p.buildOptions.profile).ar = true ∧
        ({ w'.disk with here := ["work", "driver_chamber", "mesa"] } : Disk).isFile
          (Profile.derive t p.buildOptions.profile).ar = false := by
  obtain ⟨p, w₁, w', hload, hresolve, hdisk, hhost⟩ :=
    resolve_asked "ndk" (by decide) (by decide +kernel) (by decide +kernel)
  have har : (Profile.derive (found p.resolveOptions "ndk" .system) p.buildOptions.profile).ar =
      "ndk/toolchains/llvm/prebuilt/linux-x86_64/bin/llvm-ar" := by
    rw [Profile.derive, hhost]
    dsimp only [found]
    decide +kernel
  refine ⟨p, w₁, w', _, hload, hresolve, (by decide : isAbsolute "ndk" = false), ?_, ?_⟩
  · rw [har, hdisk]
    decide +kernel
  · rw [har, hdisk]
    decide +kernel

end Toolchain

end VariantForge
