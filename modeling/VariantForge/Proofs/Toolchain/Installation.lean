import VariantForge.Proofs.Outcome
import VariantForge.Proofs.Retry
import VariantForge.Proofs.Toolchain.Unpacking
import VariantForge.Toolchain.Resolve

/-!
# Installation — a toolchain is there as a whole or not at all

A copy of a toolchain counts as there when its directory is. A download puts nothing but the archive
into the chamber (`Download.run_ends`), an archive that could not be unpacked is followed by a removal
(`unpack_ended`), and so a call leaves the directory behind only if it unpacked every member
(`Settled`).

A chamber that is given from the root needs no more than a tree. One that is given from the directory
of the program is `Reachable` only while there is such a directory, and while the path of the archive
is short enough to remove it by: the download goes by the absolute path, the removal by the one that
was given.
-/

namespace VariantForge

open Disk Forge Path

/-! ## Several attempts -/

namespace Retry

/-- Whether an attempt was successful. -/
def succeeded {α : Type} : Retried α → Bool
  | .done .. => true
  | .failed .. => false

variable {α : Type} {G I : Disk → Prop} {o : Outside} {description : String} {p : RetryPolicy}
  {operation : Nat → Forge α}

theorem words_still (f : Failure) : Still (Forge.words f) := .ite (.pure _) (.throw _)

theorem pause_still {attempt : Nat} {f : Failure} : Still (pause o description p attempt f) :=
  (words_still f).bind fun _ => Still.log.bind fun _ => .wait o _

theorem tryFrom_ends (hop : ∀ n, Ends (On I) (operation n) (Ended (fun _ => true) G I))
    (more n : Nat) :
    Ends (On I) (tryFrom o description p operation more n) (Ended Except.isOk G I) := by
  induction more generalizing n with
  | zero =>
    rw [tryFrom]
    refine Still.checkCancelled.keeps.then_ends fun _ => Still.log.keeps.then_ends fun _ => ?_
    exact (hop n).attempt_on (fun a => .give fun _ h => h) fun e => .give fun _ h => h
  | succ more ih =>
    rw [tryFrom]
    refine Still.checkCancelled.keeps.then_ends fun _ => Still.log.keeps.then_ends fun _ => ?_
    refine (hop n).attempt_on (fun a => .give fun _ h => h) fun e => ?_
    exact pause_still.keeps.then_ends fun _ => ih (n + 1)

/-- Trying an operation that fails in one kind of world fails there too. -/
theorem run_ends (hop : ∀ n, Ends (On I) (operation n) (Ended (fun _ => true) G I)) :
    Ends (On I) (run o description p operation) (Ended succeeded G I) := by
  rw [run]
  have hfailed (e : Failure) : Ends (On I)
      (do
        Forge.log .warn s!"{description} failed after {(limit p).text} attempts"
          (some [("err", .text (← Forge.words e))])
        return .failed e (limit p) : Forge (Retried α)) (Ended succeeded G I) := by
    exact (words_still e).keeps.then_ends fun _ => Still.log.keeps.then_ends fun _ => .give fun _ h => h
  split
  · rename_i more _
    refine (tryFrom_ends hop more 1).split (fun r hr => ?_) fun r hr => ?_
    · cases r with
      | error e => cases hr
      | ok a => exact .give fun _ h => h
    · cases r with
      | error e => exact hfailed e
      | ok a => cases hr
  · rw [pure_bind]
    exact hfailed _

end Retry

/-! ## Downloading -/

namespace Download

variable {o : Outside} {opts : DownloadOptions}

theorem log_still {message : String} {extra : Members Data} : Still (log opts message extra) :=
  .ite .log (.pure _)

theorem log_total {message : String} {extra : Members Data} : Total (log opts message extra) :=
  .ite (.log _ _ _) (.pure _)

theorem receive_still {total : Option Number} {received : ByteArray} {next : Nat} {chunks : List Chunk} :
    Still (receive opts total received next chunks) := by
  induction chunks generalizing received next with
  | nil => exact .pure _
  | cons chunk rest ih =>
    cases chunk with
    | broken text => exact .throw _
    | bytes data =>
      rw [receive]
      have hmore : Still (if next ≤ received.size + data.size then do
          log opts "NDK download progress"
            [("bytes", Data.ofNat (received.size + data.size)), ("total", total.elim Data.null Data.number)]
          receive opts total (received ++ data) (next + reportStep) rest
        else receive opts total (received ++ data) next rest) := .ite (log_still.bind fun _ => ih) ih
      exact .ite ((Still.throw _).bind fun _ => hmore) hmore

theorem request_still : Still (request o opts) := by
  intro w
  rw [request, runOn_bind, runOn_get]
  dsimp only
  split
  · rfl
  · rw [runOn_bind, runOn_set]
    cases (o.fetch w opts.url).2 with
    | failed text => rfl
    | response r => rfl
    | silent => exact Still.ite ((Still.throw _).bind fun _ => .throw _) (.throw _) _

variable {d : Disk} {target part root : String}

/-- Whether a disk was tended and there still is no directory where a path leads. -/
def Vacant (d : Disk) (root : String) (d' : Disk) : Prop := Tended d d' ∧ d'.isDirectory root = false

/-- Whether a disk was tended and a path is one that can be used. -/
def Filled (d : Disk) (target : String) (d' : Disk) : Prop := Tended d d' ∧ Text.hasNull target = false

theorem Vacant.write {d₁ d₂ : Disk} {path : String} {bytes : ByteArray} (h : Vacant d root d₁)
    (hroot : fromRoot path = true) (hd : d₁.write path bytes = .ok d₂) : Vacant d root d₂ := by
  have ht := h.1.tree.write hroot hd
  refine ⟨h.1.trans ht, ?_⟩
  by_contra hc
  have hways : Ways d₂ d₁ := by
    obtain ⟨p, hp, ⟨old, mode, hget, rfl⟩ | ⟨hget, rfl⟩⟩ := write_ok hd
    · exact .put_file (ne_nil_of_not_directory (d := d₁) (by simp [hget]))
    · exact .put_file (ne_nil_of_not_directory (d := d₁) (by simp [hget]))
  have := hways.isDirectory ht.here.symm (by simpa using hc)
  rw [h.2] at this
  cases this

theorem Vacant.removeFile {d₁ d₂ : Disk} {path : String} (h : Vacant d root d₁)
    (hd : d₁.removeFile path = .ok d₂) : Vacant d root d₂ :=
  ⟨h.1.trans (h.1.tree.removeFile hd), not_isDirectory_of_removeFile h.2 hd⟩

/-- Whether, besides, a path names no directory. -/
def Received (d : Disk) (root part : String) (d' : Disk) : Prop :=
  Vacant d root d' ∧ ∀ p, d'.locateSelf part = .ok p → d'.get? p ≠ some .directory

theorem write_received {bytes : ByteArray} (hpart : fromRoot part = true) :
    Ends (On (Vacant d root)) (Forge.change (·.write part bytes))
      (Ended (fun _ => true) (Received d root part) (Vacant d root)) := by
  refine .change_on (fun d₁ d₂ h hd => ⟨h.write hpart hd, fun q hq => ?_⟩) fun _ h => h
  obtain ⟨p, mode, hp, hfile⟩ := locate_of_write hd
  exact not_directory_of_locate hp hfile hq

/-- The last step of a download is the only one that puts anything at its path. -/
theorem rename_filled (htarget : fromRoot target = true) :
    Ends (On (Received d root part)) (Forge.change (·.rename part target))
      (Ended (fun _ => true) (Filled d target) (Vacant d root)) := by
  refine .change_on (fun d₁ d₂ h hd => ?_) fun _ h => h.1
  exact ⟨h.1.1.trans (h.1.1.tree.rename htarget hd h.2), hasNull_of_rename hd⟩

/-- Saves what is received. -/
abbrev save (opts : DownloadOptions) (total : Option Number) (body : List Chunk) (target part : String) :
    Forge Nat := do
  Forge.change (·.write part .empty)
  let bytes ← receive opts total .empty reportStep body
  Forge.change (·.write part bytes)
  Forge.change (·.rename part target)
  log opts "NDK archive saved" [("file", .text target), ("bytes", .ofNat bytes.size)]
  return bytes.size

/-- A download is done once its last step is, and until then it does nothing but write to one path. -/
theorem fetchTo_stages {I J G : Disk → Prop}
    (hwrite : ∀ bytes, Ends (On I) (Forge.change (·.write part bytes)) (Ended (fun _ => true) J I))
    (hback : ∀ d, J d → I d)
    (hmove : Ends (On J) (Forge.change (·.rename part target)) (Ended (fun _ => true) G I)) :
    Ends (On I) (fetchTo o opts target part) (Ended (fun _ => true) G I) := by
  rw [fetchTo]
  refine request_still.keeps.then_ends fun r => Ends.fail_if fun _ => ?_
  cases r.body with
  | none => exact .fail fun _ h => h
  | some body =>
    have hsave : Ends (On I) (save opts (announced? r) body target part) (Ended (fun _ => true) G I) := by
      refine (hwrite .empty).then fun _ => Ends.of_imp ?_ fun w h => hback w.disk h
      refine receive_still.keeps.then_ends fun bytes => (hwrite bytes).then fun _ => hmove.then fun _ => ?_
      exact (log_still.ends_total log_total).then fun _ => .give fun _ h => h
    dsimp only
    split
    · exact Ends.fail_if fun _ => hsave
    · exact hsave

theorem fetchTo_ends (htarget : fromRoot target = true) (hpart : fromRoot part = true) :
    Ends (On (Vacant d root)) (fetchTo o opts target part)
      (Ended (fun _ => true) (Filled d target) (Vacant d root)) :=
  fetchTo_stages (fun _ => write_received hpart) (fun _ h => h.1) (rename_filled htarget)

theorem Vacant.makeDirectories {dir file : String} {d₁ : Disk} (hd : Grounded dir d)
    (hfile : IsName file.toList) (h : Vacant d (join [dir, file]) d₁) :
    Vacant d (join [dir, file]) (d₁.makeDirectories (absolute (wayTo d.hereText dir))).1 := by
  have htext : d₁.hereText = d.hereText := by rw [hereText, hereText, h.1.here]
  rw [← htext]
  exact ⟨h.1.trans (h.1.tree.makeDirectories _), (hd.tended h.1).makeDirectories_above hfile h.2⟩

/-- A download to a name in a directory makes no directory of another name in it. -/
theorem run_ends {dir file other : String} (hd : Grounded dir d) (hfile : IsName file.toList)
    (hother : IsName other.toList) (htarget : opts.target = join [dir, file]) :
    Ends (On (Vacant d (join [dir, other]))) (run o opts)
      (Ended (fun _ => true) (Filled d (absolute (wayTo d.hereText dir ++ [file.toList])))
        (Vacant d (join [dir, other]))) := by
  have hway : ∀ q ∈ wayTo d.hereText dir, IsName q := fun q => isName_of_mem_wayTo
  have hresolve : resolve d.hereText [opts.target] = absolute (wayTo d.hereText dir ++ [file.toList]) := by
    rw [resolve_eq, htarget, wayTo_join _ _ hfile]
  have hroot : fromRoot (absolute (wayTo d.hereText dir ++ [file.toList])) = true := isAbsolute_absolute _
  have hpart : fromRoot (absolute (wayTo d.hereText dir ++ [file.toList]) ++ ".part") = true := by
    rw [fromRoot, String.toList_append, toList_absolute]
    rfl
  have hhere (d' : Disk) (h : Vacant d (join [dir, other]) d') : d'.hereText = d.hereText := by
    rw [hereText, hereText, h.1.here]
  refine Ends.here hhere ?_
  rw [hresolve]
  dsimp only
  rw [dirname_absolute hway hfile]
  have hmade : Keeps (On (Vacant d (join [dir, other])))
      (Forge.makeDirectories (absolute (wayTo d.hereText dir))) :=
    .makeDirectories_on fun d₁ h => h.makeDirectories hd hother
  refine hmade.then_ends fun _ => (fetchTo_ends hroot hpart).attempt_on (fun a => ?_) fun e => ?_
  · exact .give fun _ h => h
  · have hremoved : Keeps (On (Vacant d (join [dir, other]))) (Forge.change
        (·.removeFile (absolute (wayTo d.hereText dir ++ [file.toList]) ++ ".part"))) :=
      .change_on fun _ _ h => h.removeFile
    exact hremoved.then_ends fun _ => .fail fun _ h => h

end Download

/-! ## Fetching -/

namespace Toolchain

variable {o : Outside} {opts : ResolveOptions} {d : Disk}

theorem isName_archive {name : String} (h : IsName name.toList) : IsName (name ++ ".zip").toList := by
  have hlast : (name ++ ".zip").toList.getLast? = some 'p' := by
    rw [String.toList_append, List.getLast?_append]
    rfl
  refine ⟨fun hc => ?_, fun hc => ?_, fun hc => ?_, ?_⟩
  · rw [hc] at hlast
    cases hlast
  · rw [hc] at hlast
    cases hlast
  · rw [hc] at hlast
    cases hlast
  · rw [String.toList_append, List.mem_append, not_or]
    exact ⟨h.no_slash, by decide⟩

/-- The absolute path of the archive. -/
def archiveFrom (d : Disk) (opts : ResolveOptions) : String :=
  absolute (wayTo d.hereText opts.chamber ++ [(opts.version ++ ".zip").toList])

/-- The download of an archive into the chamber. -/
def downloadOptions (opts : ResolveOptions) : DownloadOptions where
  url := opts.downloadUrl
  target := archivePath opts
  timeoutMs := opts.downloadTimeoutMs
  maxBytes := opts.maxDownloadBytes

/-- An archive is downloaded if an attempt does it, and what the attempts that fail leave is left if none does. -/
theorem download_attempts {G I : Disk → Prop}
    (h : Ends (On I) (Download.run o (downloadOptions opts)) (Ended (fun _ => true) G I)) :
    Ends (On I) (download o opts) (Ended (fun _ => true) G I) := by
  refine Still.log.keeps.then_ends fun _ => ?_
  refine (Retry.run_ends fun _ => h).split (fun r hr => ?_) fun r hr => ?_
  · cases r with
    | done a n => exact .give fun _ h => h
    | failed f n => cases hr
  · cases r with
    | done a n => cases hr
    | failed f n => exact .fail fun _ h => h

theorem download_ends (hd : Grounded opts.chamber d) (hname : IsName opts.version.toList) :
    Ends (On (Download.Vacant d (cachedRoot opts))) (download o opts)
      (Ended (fun _ => true) (Download.Filled d (archiveFrom d opts))
        (Download.Vacant d (cachedRoot opts))) :=
  download_attempts (Download.run_ends hd (isName_archive hname) hname rfl)

/-! ## Unpacking -/

/-- Whether the chamber can be reached: it is given from the root, or relative paths start from a
directory and that of the archive is not too long. -/
def Reachable (opts : ResolveOptions) (d : Disk) : Prop :=
  isAbsolute opts.chamber = false → Stands d ∧ isLongPath (archivePath opts) = false

variable {w w' : World}

theorem Reachable.tended {d' : Disk} (h : Reachable opts d) (hg : Grounded opts.chamber d) (ht : Tended d d') :
    Reachable opts d' :=
  fun habs => ⟨(hg.tended ht).stands habs, (h habs).2⟩

/-- An archive that was unpacked is removed. -/
theorem removeFile_of_grows {d' : Disk} (hg : Grounded opts.chamber w.disk)
    (hname : IsName opts.version.toList) (hreach : Reachable opts w.disk)
    (hnull : Text.hasNull (archivePath opts) = false)
    (h : Unpack.Grows (archivePath opts) opts.chamber w d') :
    ∃ d'', d'.removeFile (archivePath opts) = .ok d'' := by
  obtain ⟨bytes, hread, hgrown, -⟩ := h
  have hopened : Grown w.disk (Unpack.opened opts.chamber w) := hg.tree.makeDirectories_grown _
  have hg' := hg.tended (hopened.trans hgrown).toTended
  have htext : d'.hereText = w.disk.hereText := by
    rw [hereText, hereText, (hopened.trans hgrown).here]
  have hpath : Unpack.outPath (archivePath opts) w = absolute (wayTo d'.hereText opts.chamber ++
      [(opts.version ++ ".zip").toList]) := by
    rw [htext, ← wayTo_join _ _ (isName_archive hname)]
    rfl
  rw [hpath] at hread
  obtain ⟨p, mode, hp, hget⟩ := read_ok hread
  obtain ⟨q, x, hq, hx, hdir⟩ :=
    locateSelf_of_locate (hgrown.extend.walkPath hgrown.here hp hget) (hgrown.extend p _ hget)
  have hlong (habs : isAbsolute opts.chamber = false) :
      isLongPath (join [opts.chamber, opts.version ++ ".zip"]) = false := (hreach habs).2
  have hself := hg'.walkPath_of_absolute (isName_archive hname) hlong hq
  refine ⟨_, removeFile_of_locateSelf hnull hself fun hc => ?_⟩
  rw [hx, Option.some.injEq] at hc
  exact absurd (hdir (Entry.isDirectory_iff.2 hc)) (by simp [Entry.isDirectory])

/-- Whether an archive was unpacked and then removed. -/
def Emptied (opts : ResolveOptions) (w : World) (d' : Disk) : Prop :=
  ∃ d₂, Unpack.Grows (archivePath opts) opts.chamber w d₂ ∧ d₂.removeFile (archivePath opts) = .ok d'

/-- Whether there is neither a copy of a toolchain nor its archive. -/
def Cleared (opts : ResolveOptions) (d' : Disk) : Prop :=
  d'.Tree ∧ d'.isDirectory (cachedRoot opts) = false ∧ Gone d' (archivePath opts)

/-- Where an archive could not be unpacked, what was unpacked of it is removed. -/
theorem removeAll_ends {f : Failure} (hname : IsName opts.version.toList)
    (hnull : Text.hasNull (cachedRoot opts) = false) (ht : w.disk.Tree) :
    ∃ e w', runOn w (do
        Forge.change (·.removeAll (cachedRoot opts))
        throw f : Forge Unit) = (.error e, w') ∧
      w'.disk.Tree ∧ w'.disk.isDirectory (cachedRoot opts) = false := by
  rw [runOn_bind, runOn_change]
  cases hd : w.disk.removeAll (cachedRoot opts) with
  | error fault => exact ⟨_, _, rfl, ht, not_isDirectory_of_removeAll_error hnull hd⟩
  | ok d' =>
    obtain ⟨before, hnames⟩ : ∃ before, names (cachedRoot opts) = before ++ [shownPart opts.version.toList] :=
      names_join hname
    exact ⟨_, _, rfl, ht.removeAll hd, not_isDirectory_of_removeAll hnames (isStep_shownPart hname) hd⟩

theorem unpack_ended (hg : Grounded opts.chamber w.disk) (hname : IsName opts.version.toList)
    (hreach : Reachable opts w.disk) (hnull : Text.hasNull (archivePath opts) = false)
    (hroot : Text.hasNull (cachedRoot opts) = false) :
    Ended (fun _ => true) (Emptied opts w) (Cleared opts) (runOn w (unpack opts)).1
      (runOn w (unpack opts)).2 := by
  have hrun := ends_iff.1 (Unpack.run_ends (archivePath opts) opts.chamber {} hg.tree) w rfl
  rw [unpack, runOn_finally, runOn_tryCatch]
  rcases hr : runOn w (Unpack.run (archivePath opts) opts.chamber {}) with ⟨f | n, w₂⟩
  · rw [hr] at hrun
    have hgrown : Grown w.disk w₂.disk := Ended.error.1 hrun
    obtain ⟨e, w₃, hcleared, htree, hno⟩ :=
      removeAll_ends (f := .toolchain (.unpack opts.version f.message)) hname hroot hgrown.tree
    rw [runOn_bind_error hr]
    dsimp only
    rw [hcleared]
    dsimp only
    rw [runOn_change]
    cases hd : w₃.disk.removeFile (archivePath opts) with
    | error fault => exact Ended.error.2 ⟨htree, hno, gone_of_removeFile_error hnull hd⟩
    | ok d' =>
      exact Ended.error.2
        ⟨(htree.removeFile hd).tree, not_isDirectory_of_removeFile hno hd, gone_of_removeFile hd⟩
  · rw [hr] at hrun
    have hgrows : Unpack.Grows (archivePath opts) opts.chamber w w₂.disk := Ended.ok.1 hrun
    obtain ⟨d', hd⟩ := removeFile_of_grows hg hname hreach hnull hgrows
    rw [runOn_bind_ok hr, runOn_pure]
    dsimp only
    rw [runOn_change, hd]
    exact Ended.ok.2 ⟨w₂.disk, hgrows, hd⟩

/-! ## Installing -/

/-- What becomes of a toolchain that is not there: it is, with every member of the archive, or it is
not; and once the archive was downloaded that is not there either. -/
structure Settled (o : Outside) (opts : ResolveOptions) (w : World) (r : Except Failure Toolchain)
    (w' : World) : Prop where
  downloaded : ∀ t, r = .ok t → t = found opts (cachedRoot opts) .downloaded ∧
    w'.disk.isDirectory (cachedRoot opts) = true ∧
    ∃ w₁, runOn w (download o opts) = (.ok (), w₁) ∧ Emptied opts w₁ w'.disk
  failed : ∀ e, r = .error e → w'.disk.isDirectory (cachedRoot opts) = false
  removed : ∀ w₁, runOn w (download o opts) = (.ok (), w₁) → Gone w'.disk (archivePath opts)

theorem install_settled (o : Outside) (hg : Grounded opts.chamber w.disk) (hname : IsName opts.version.toList)
    (hreach : Reachable opts w.disk) (hno : w.disk.isDirectory (cachedRoot opts) = false) :
    Settled o opts w (runOn w (install o opts)).1 (runOn w (install o opts)).2 ∧
      (runOn w (install o opts)).2.disk.Tree := by
  have hdownload := ends_iff.1 (download_ends (o := o) hg hname) w ⟨.refl hg.tree, hno⟩
  rw [install, runOn_bind]
  rcases hr : runOn w (download o opts) with ⟨e | u, w₁⟩
  · rw [hr] at hdownload
    have hvacant : Download.Vacant w.disk (cachedRoot opts) w₁.disk := Ended.error.1 hdownload
    exact ⟨⟨nofun, fun _ _ => hvacant.2, fun w₂ h => by cases hr.symm.trans h⟩, hvacant.1.tree⟩
  rw [hr] at hdownload
  obtain ⟨htended, hnull⟩ : Download.Filled w.disk (archiveFrom w.disk opts) w₁.disk :=
    Ended.ok.1 hdownload
  have hsplit : Text.hasNull (absolute (wayTo w.disk.hereText opts.chamber ++
      [opts.version.toList ++ ".zip".toList])) = false := by
    rw [← String.toList_append]
    exact hnull
  have hroot : Text.hasNull (cachedRoot opts) = false := hasNull_join hname (hasNull_absolute_append hsplit)
  have hunpack := unpack_ended (hg.tended htended) hname (hreach.tended hg htended)
    (hasNull_join (isName_archive hname) hnull) hroot
  dsimp only
  rw [runOn_bind]
  rcases hu : runOn w₁ (unpack opts) with ⟨e | u, w₂⟩
  · rw [hu] at hunpack
    obtain ⟨htree, hmissing, hgone⟩ : Cleared opts w₂.disk := Ended.error.1 hunpack
    exact ⟨⟨nofun, fun _ _ => hmissing, fun _ _ => hgone⟩, htree⟩
  rw [hu] at hunpack
  have hemptied : Emptied opts w₁ w₂.disk := Ended.ok.1 hunpack
  obtain ⟨d₂, hgrows, hremoved⟩ := hemptied
  have hgone : Gone w₂.disk (archivePath opts) := gone_of_removeFile hremoved
  have htree : w₂.disk.Tree := by
    obtain ⟨_, _, hgrown, -⟩ := hgrows
    exact (hgrown.tree.removeFile hremoved).tree
  dsimp only
  rw [runOn_bind, runOn_look]
  dsimp only
  cases hdir : w₂.disk.isDirectory (cachedRoot opts) with
  | false => exact ⟨⟨nofun, fun _ _ => hdir, fun _ _ => hgone⟩, htree⟩
  | true =>
    exact ⟨⟨fun t ht => ⟨(Except.ok.inj ht).symm, hdir, w₁, hr, d₂, hgrows, hremoved⟩, nofun, fun _ _ => hgone⟩,
      htree⟩

/-! ## The steps of a call -/

/-- A download does not fail with a fault of unpacking. -/
theorem download_error {version details : String} :
    runOn w (download o opts) ≠ (.error (.toolchain (.unpack version details)), w') := by
  intro h
  rw [download, runOn_bind_ok (runOn_log ..)] at h
  rcases of_bind_error h with hrun | ⟨r, w₁, -, hrest⟩
  · obtain ⟨cs, -, hend⟩ : ∃ cs, _ ∧ Retry.Ending o "downloading NDK" opts.retry _ _ cs _ _ := Retry.run_calls ..
    rw [hrun] at hend
    cases hend
  · cases r with
    | done a n => cases hrest
    | failed f n => cases hrest

theorem unpack_error {fault : ToolchainFault} (h : runOn w (unpack opts) = (.error (.toolchain fault), w')) :
    ∃ f w₁ d, runOn w (Unpack.run (archivePath opts) opts.chamber {}) = (.error f, w₁) ∧
      w₁.disk.removeAll (cachedRoot opts) = .ok d ∧ d.removeFile (archivePath opts) = .ok w'.disk := by
  obtain ⟨r, w₂, hbody, ⟨rfl, hlast⟩ | hlast⟩ := of_finally_error h
  · obtain ⟨d', hd', rfl⟩ := change_ok hlast
    rw [runOn_tryCatch] at hbody
    rcases hrun : runOn w (Unpack.run (archivePath opts) opts.chamber {}) with ⟨f | n, w₁⟩
    · rw [runOn_bind_error hrun] at hbody
      rcases of_bind_error hbody with hall | ⟨_, w₃, hall, hthrow⟩
      · obtain ⟨_, -, hfault, -⟩ := change_error hall
        cases hfault
      · obtain ⟨d, hd, rfl⟩ := change_ok hall
        cases hthrow
        exact ⟨f, w₁, d, rfl, hd, hd'⟩
    · rw [runOn_bind_ok hrun] at hbody
      cases hbody
  · obtain ⟨_, -, hfault, -⟩ := change_error hlast
    cases hfault

theorem unpack_ok (h : runOn w (unpack opts) = (.ok (), w')) :
    ∃ n w₁, runOn w (Unpack.run (archivePath opts) opts.chamber {}) = (.ok n, w₁) ∧
      w₁.disk.removeFile (archivePath opts) = .ok w'.disk := by
  obtain ⟨w₁, hbody, hlast⟩ := of_finally_ok h
  obtain ⟨d, hd, rfl⟩ := change_ok hlast
  rw [runOn_tryCatch] at hbody
  rcases hrun : runOn w (Unpack.run (archivePath opts) opts.chamber {}) with ⟨f | n, w₂⟩
  · rw [runOn_bind_error hrun] at hbody
    obtain ⟨_, _, -, hthrow⟩ := of_bind_ok hbody
    cases hthrow
  · rw [runOn_bind_ok hrun] at hbody
    cases hbody
    exact ⟨n, w₁, rfl, hd⟩

theorem unpack_of_ok {n : Nat} {w₁ : World} {d : Disk}
    (hrun : runOn w (Unpack.run (archivePath opts) opts.chamber {}) = (.ok n, w₁))
    (hfile : w₁.disk.removeFile (archivePath opts) = .ok d) :
    runOn w (unpack opts) = (.ok (), { w₁ with disk := d }) := by
  rw [unpack, runOn_finally, runOn_tryCatch, runOn_bind_ok hrun, runOn_pure]
  dsimp only
  rw [runOn_change, hfile]

theorem install_ok {t : Toolchain} (h : runOn w (install o opts) = (.ok t, w')) :
    ∃ w₁ w₂, runOn w (download o opts) = (.ok (), w₁) ∧ runOn w₁ (unpack opts) = (.ok (), w₂) ∧
      w₂.disk.isDirectory (cachedRoot opts) = true ∧ w'.disk = w₂.disk ∧
      t = found opts (cachedRoot opts) .downloaded := by
  rw [install] at h
  obtain ⟨_, w₁, hdownload, h⟩ := of_bind_ok h
  obtain ⟨_, w₂, hunpack, h⟩ := of_bind_ok h
  rw [runOn_bind, runOn_look] at h
  dsimp only at h
  cases hdir : w₂.disk.isDirectory (cachedRoot opts) with
  | false =>
    rw [hdir] at h
    cases h
  | true =>
    rw [hdir] at h
    cases h
    exact ⟨w₁, w₂, hdownload, hunpack, hdir, rfl, rfl⟩

theorem install_of_ok {w₁ w₂ : World} (hdownload : runOn w (download o opts) = (.ok (), w₁))
    (hunpack : runOn w₁ (unpack opts) = (.ok (), w₂)) (hdir : w₂.disk.isDirectory (cachedRoot opts) = true) :
    (runOn w (install o opts)).1 = .ok (found opts (cachedRoot opts) .downloaded) := by
  rw [install, runOn_bind_ok hdownload, runOn_bind_ok hunpack, runOn_bind, runOn_look]
  dsimp only
  rw [hdir]
  rfl

/-! ## Calls -/

/-- Where there is no copy, a call gives the toolchain of the system or installs one. -/
theorem resolve_cases (o : Outside) (hno : w.disk.isDirectory (cachedRoot opts) = false) :
    runOn w (resolve o opts) = runOn w (install o opts) ∨
      ∃ root w', opts.systemRoot = some root ∧ w.disk.isDirectory root = true ∧
        runOn w (resolve o opts) = (.ok (found opts root .system), w') ∧ w'.disk = w.disk := by
  have hcached : runOn w (cachedOrInstalled o opts) = runOn w (install o opts) := by
    rw [cachedOrInstalled, runOn_bind, runOn_look]
    dsimp only
    rw [hno]
    rfl
  rw [resolve]
  cases hroot : opts.systemRoot.filter (!·.isEmpty) with
  | none => exact .inl hcached
  | some root =>
    dsimp only
    rw [runOn_bind, runOn_look]
    dsimp only
    cases hdir : w.disk.isDirectory root with
    | false => exact .inl hcached
    | true => exact .inr ⟨root, _, (Option.filter_eq_some_iff.1 hroot).1, hdir, rfl, rfl⟩

theorem resolve_unpack_error {version details : String} (hno : w.disk.isDirectory (cachedRoot opts) = false)
    (h : runOn w (resolve o opts) = (.error (.toolchain (.unpack version details)), w')) :
    ∃ w₁, runOn w (download o opts) = (.ok (), w₁) ∧
      runOn w₁ (unpack opts) = (.error (.toolchain (.unpack version details)), w') := by
  rcases resolve_cases o hno with hinstall | ⟨root, w₂, -, -, hsystem, -⟩
  · rw [hinstall, install] at h
    rcases of_bind_error h with hdownload | ⟨_, w₁, hdownload, h⟩
    · exact absurd hdownload download_error
    rcases of_bind_error h with hunpack | ⟨_, w₂, -, h⟩
    · exact ⟨w₁, hdownload, hunpack⟩
    rw [runOn_bind, runOn_look] at h
    dsimp only at h
    cases hdir : w₂.disk.isDirectory (cachedRoot opts) with
    | false =>
      rw [hdir] at h
      cases h
    | true =>
      rw [hdir] at h
      cases h
  · rw [hsystem] at h
    cases h

theorem resolve_downloaded (hno : w.disk.isDirectory (cachedRoot opts) = false)
    (h : (runOn w (resolve o opts)).1 = .ok (found opts (cachedRoot opts) .downloaded)) :
    ∃ w₁ w₂, runOn w (download o opts) = (.ok (), w₁) ∧ runOn w₁ (unpack opts) = (.ok (), w₂) ∧
      w₂.disk.isDirectory (cachedRoot opts) = true := by
  rcases resolve_cases o hno with hinstall | ⟨root, w₂, -, -, hsystem, -⟩
  · rw [hinstall] at h
    obtain ⟨w₁, w₂, hdownload, hunpack, hdir, -, -⟩ := install_ok (Prod.ext h rfl)
    exact ⟨w₁, w₂, hdownload, hunpack, hdir⟩
  · rw [hsystem] at h
    cases h

/-- Calls for one version and one chamber, each on the disk that the one before it has left, with
what they give. -/
inductive Calls (chamber version : String) : Disk → List (Except Failure Toolchain) → Prop where
  | none (d : Disk) : Calls chamber version d []
  | call {o : Outside} {opts : ResolveOptions} {w : World} {rs : List (Except Failure Toolchain)}
      (hchamber : opts.chamber = chamber) (hversion : opts.version = version)
      (hreach : Reachable opts w.disk)
      (hrest : Calls chamber version (runOn w (resolve o opts)).2.disk rs) :
      Calls chamber version w.disk ((runOn w (resolve o opts)).1 :: rs)

/-- Whether a toolchain is found in the chamber only after one was downloaded. -/
def CachedAfter (rs : List (Except Failure Toolchain)) : Prop :=
  ∀ (i : Nat) (t : Toolchain), rs[i]? = some (.ok t) → t.source = .cached →
    ∃ j t', j < i ∧ rs[j]? = some (.ok t') ∧ t'.source = .downloaded

theorem Calls.cachedAfter {chamber version : String} {rs : List (Except Failure Toolchain)}
    (hname : IsName version.toList) (h : Calls chamber version d rs) (htree : d.Tree)
    (hno : d.isDirectory (join [chamber, version]) = false) : CachedAfter rs := by
  intro i t hi ht
  induction h generalizing i with
  | none d => simp at hi
  | @call o opts w rs hchamber hversion hreach hrest ih =>
    subst hchamber hversion
    rcases resolve_cases o hno with hinstall | ⟨root, w', -, -, hsystem, hdisk⟩
    · obtain ⟨hsettled, htree'⟩ :=
        install_settled o ⟨htree, fun habs => (hreach habs).1⟩ hname hreach hno
      rw [← hinstall] at hsettled htree'
      cases hr : (runOn w (resolve o opts)).1 with
      | ok t' =>
        obtain ⟨rfl, -⟩ := hsettled.downloaded t' hr
        cases i with
        | zero =>
          rw [hr] at hi
          cases hi
          cases ht
        | succ i => exact ⟨0, _, Nat.succ_pos i, rfl, rfl⟩
      | error e =>
        cases i with
        | zero =>
          rw [hr] at hi
          cases hi
        | succ i =>
          obtain ⟨j, t', hj, ht'⟩ := ih htree' (hsettled.failed e hr) i hi
          exact ⟨j + 1, t', Nat.succ_lt_succ hj, ht'⟩
    · rw [hsystem] at hi ih
      cases i with
      | zero =>
        cases hi
        cases ht
      | succ i =>
        rw [← hdisk] at htree hno
        obtain ⟨j, t', hj, ht'⟩ := ih htree hno i hi
        exact ⟨j + 1, t', Nat.succ_lt_succ hj, ht'⟩

/-- A toolchain that is not there is installed as a whole or not at all, and a call finds a copy of it
only after another one has installed it. -/
theorem resolve_settled (hname : IsName opts.version.toList) (htree : w.disk.Tree)
    (hreach : Reachable opts w.disk) (hno : w.disk.isDirectory (cachedRoot opts) = false) :
    (∀ o, (∀ root, opts.systemRoot = some root → w.disk.isDirectory root = false) →
        Settled o opts w (runOn w (resolve o opts)).1 (runOn w (resolve o opts)).2) ∧
      ∀ rs, Calls opts.chamber opts.version w.disk rs → CachedAfter rs := by
  refine ⟨fun o hsystem => ?_, fun rs h => h.cachedAfter hname htree hno⟩
  rcases resolve_cases o hno with hinstall | ⟨root, w', hroot, hdir, -, -⟩
  · rw [hinstall]
    exact (install_settled o ⟨htree, fun habs => (hreach habs).1⟩ hname hreach hno).1
  · rw [hsystem root hroot] at hdir
    cases hdir

/-- An outside that serves an archive with a directory, a file that may be executed and a link. -/
def serving : Outside where
  run w _ := ⟨w.disk, false, .ok ⟨some 0, "", ""⟩⟩
  fetch _ _ := (false, .response ⟨200, [], some [.bytes (Unpack.inBlocks [⟨"r1/", .empty, 0o40755⟩,
    ⟨"r1/cc", Utf8.encode "x", 0o100755⟩, ⟨"r1/ld", Utf8.encode "cc", 0o120777⟩])]⟩)
  cancelsWait _ := false
  clock _ := default
  searchPath := none
  processors := 1

def fresh : ResolveOptions where
  chamber := "/c"
  version := "r1"
  downloadUrl := "https://dl.test/r1.zip"
  downloadTimeoutMs := 1
  retry := .builtIn

/-- A world with nothing on its disk. -/
def blank : World := ⟨⟨[], []⟩, false, 0, []⟩

theorem blank_tree : blank.disk.Tree := by
  intro q n hq
  exact absurd (by simp [Disk.get?, blank]) hq

theorem resolve_settled_fresh :
    IsName fresh.version.toList ∧ blank.disk.Tree ∧ Reachable fresh blank.disk ∧
      blank.disk.isDirectory (cachedRoot fresh) = false ∧
      (∀ root, fresh.systemRoot = some root → blank.disk.isDirectory root = false) ∧
      Settled serving fresh blank (runOn blank (resolve serving fresh)).1
        (runOn blank (resolve serving fresh)).2 := by
  have hname : IsName fresh.version.toList := by decide
  have hreach : Reachable fresh blank.disk := fun habs => absurd habs (by decide)
  have hno : blank.disk.isDirectory (cachedRoot fresh) = false := by decide +kernel
  have hsystem : ∀ root, fresh.systemRoot = some root → blank.disk.isDirectory root = false := by
    intro root hroot
    cases hroot
  exact ⟨hname, blank_tree, hreach, hno, hsystem,
    (resolve_settled hname blank_tree hreach hno).1 serving hsystem⟩

end Toolchain

end VariantForge
