import VariantForge.Proofs.Disk.Replaced
import VariantForge.Proofs.Disk.Rewritten
import VariantForge.Proofs.Toolchain.Installation

/-!
# Delivery — a download is complete or invisible

What is served is written beside its target, under the target's name and an ending, and moved there once it is
complete. As long as what is named there is no link, nothing else is changed until then (`fetchTo_besides`), so a
download that succeeds delivers all that was served (`run_ok`) and one that fails leaves the target as it was
(`run_error`). Whether a body that does not break off is received depends on its length alone, however it is cut
(`receive_result`).

Through a link beside the target the target itself may be written (`run_through_link_not_delivered`).
-/

namespace VariantForge

open Disk Forge Path

namespace Download

variable {o : Outside} {opts : DownloadOptions} {total length : Option Number} {received bytes : ByteArray}
  {next n m : Nat} {chunks body : List Chunk} {w w' w₁ : World} {r : Response} {target part : String}

/-! ## Receiving -/

theorem exceeds_iff {x : Number} : exceeds opts x = true ↔ 0 < opts.maxBytes ∧ opts.maxBytes < x := by
  rw [exceeds, Bool.and_eq_true, decide_eq_true_eq, decide_eq_true_eq]

/-- What is past the bound stays past it as more comes. -/
theorem exceeds_mono (h : exceeds opts (.ofNat n) = true) (hnm : n ≤ m) : exceeds opts (.ofNat m) = true := by
  obtain ⟨hpositive, hlt⟩ := exceeds_iff.1 h
  refine exceeds_iff.2 ⟨hpositive, ?_⟩
  cases hmax : opts.maxBytes with
  | finite q =>
    rw [hmax] at hlt
    have hq : q < (n : Rat) := of_decide_eq_true hlt
    exact decide_eq_true (Rat.not_le.1 fun hc => Rat.not_le.2 hq (Rat.le_trans (Rat.natCast_le_natCast.2 hnm) hc))
  | infinite negative =>
    rw [hmax] at hlt
    exact hlt
  | nan =>
    rw [hmax] at hlt
    cases hlt

/-- Nothing is not past the bound. -/
theorem not_exceeds_zero : exceeds opts (.ofNat 0) = false := by
  rw [← Bool.not_eq_true, exceeds_iff]
  rintro ⟨hpositive, hlt⟩
  cases hmax : opts.maxBytes with
  | finite q =>
    rw [hmax] at hpositive hlt
    have hq : (0 : Rat) < q := of_decide_eq_true hpositive
    have hzero : q < (0 : Rat) := of_decide_eq_true hlt
    exact Rat.not_le.2 hzero (Rat.le_of_lt hq)
  | infinite negative =>
    rw [hmax] at hpositive hlt
    cases negative
    · cases hlt
    · cases hpositive
  | nan =>
    rw [hmax] at hlt
    cases hlt

/-- A body is received as a whole, however it is cut, unless it breaks off or is past the bound. -/
theorem receive_result (h : exceeds opts (.ofNat received.size) = false) :
    (runOn w (receive opts total received next chunks)).1.toOption =
      (wholeBody chunks).bind fun rest =>
        if exceeds opts (.ofNat (received.size + rest.size)) then none else some (received ++ rest) := by
  induction chunks generalizing received next w with
  | nil => simp [receive, wholeBody, h, Except.toOption]
  | cons chunk rest ih =>
    cases chunk with
    | broken text => rfl
    | bytes data =>
      have hwhole : wholeBody (.bytes data :: rest) = (wholeBody rest).map (data ++ ·) := rfl
      rw [receive, hwhole, Option.bind_map]
      dsimp only
      by_cases hover : exceeds opts (.ofNat (received.size + data.size)) = true
      · rw [if_pos hover]
        cases hr : wholeBody rest with
        | none => rfl
        | some tail =>
          have hover' : exceeds opts (.ofNat (received.size + (data ++ tail).size)) = true :=
            exceeds_mono hover (by rw [ByteArray.size_append]; omega)
          exact (if_pos hover').symm
      · rw [if_neg hover]
        have hdone : exceeds opts (.ofNat (received ++ data).size) = false := by
          rw [ByteArray.size_append]
          simpa using hover
        have hmore (next : Nat) (w : World) :
            (runOn w (receive opts total (received ++ data) next rest)).1.toOption =
              (wholeBody rest).bind fun tail =>
                if exceeds opts (.ofNat (received.size + (data ++ tail).size)) then none
                else some (received ++ (data ++ tail)) := by
          rw [ih hdone]
          congr 1
          funext tail
          rw [ByteArray.size_append, ByteArray.size_append, Nat.add_assoc, ByteArray.append_assoc]
        split
        · have hstill (m : String) (e : Members Data) : Still (log opts m e) := log_still
          obtain ⟨_, w', -, hlog⟩ := (hstill _ _).skip log_total w
          rw [hlog]
          exact hmore _ _
        · exact hmore _ _

theorem receive_ok_iff :
    (runOn w (receive opts total .empty next chunks)).1 = .ok bytes ↔
      wholeBody chunks = some bytes ∧ exceeds opts (.ofNat bytes.size) = false := by
  have hresult : (runOn w (receive opts total .empty next chunks)).1.toOption =
      (wholeBody chunks).bind fun rest =>
        if exceeds opts (.ofNat (ByteArray.empty.size + rest.size)) then none else some (.empty ++ rest) :=
    receive_result not_exceeds_zero
  have hoption : (runOn w (receive opts total .empty next chunks)).1 = .ok bytes ↔
      (runOn w (receive opts total .empty next chunks)).1.toOption = some bytes := by
    cases (runOn w (receive opts total .empty next chunks)).1 <;> simp [Except.toOption]
  rw [hoption, hresult]
  cases wholeBody chunks with
  | none => simp
  | some rest =>
    simp only [Option.bind_some, ByteArray.empty_append, ByteArray.size_empty, Nat.zero_add, Option.some.injEq]
    by_cases hover : exceeds opts (.ofNat rest.size) = true
    · rw [if_pos hover]
      constructor
      · intro h
        cases h
      · rintro ⟨rfl, hfalse⟩
        rw [hover] at hfalse
        cases hfalse
    · rw [if_neg hover, Option.some.injEq]
      constructor
      · rintro rfl
        exact ⟨rfl, by simpa using hover⟩
      · exact And.left

/-! ## Requests -/

/-- Whether the answer to a request is a success, announces a length and brings bytes to the last one. -/
def Serves (o : Outside) (opts : DownloadOptions) (w : World) (length : Option Number) (bytes : ByteArray) : Prop :=
  (opts.heedsCancel && w.cancelled) = false ∧ ∃ r body, (o.fetch w opts.url).2 = .response r ∧
    isSuccess r.status = true ∧ announced? r = length ∧ r.body = some body ∧ wholeBody body = some bytes

theorem Serves.unique {length' : Option Number} {bytes' : ByteArray} (h : Serves o opts w length bytes)
    (h' : Serves o opts w length' bytes') : length = length' ∧ bytes = bytes' := by
  obtain ⟨-, r, body, hr, -, rfl, hbody, hwhole⟩ := h
  obtain ⟨-, r', body', hr', -, rfl, hbody', hwhole'⟩ := h'
  cases hr.symm.trans hr'
  cases hbody.symm.trans hbody'
  cases hwhole.symm.trans hwhole'
  exact ⟨rfl, rfl⟩

theorem request_ok (h : runOn w (request o opts) = (.ok r, w')) :
    (opts.heedsCancel && w.cancelled) = false ∧ (o.fetch w opts.url).2 = .response r := by
  rw [request, runOn_bind, runOn_get] at h
  dsimp only at h
  split at h
  · cases h
  rename_i hno
  refine ⟨by simpa using hno, ?_⟩
  rw [runOn_bind, runOn_set] at h
  dsimp only at h
  cases hanswer : (o.fetch w opts.url).2 with
  | failed text =>
    rw [hanswer] at h
    cases h
  | response r' =>
    rw [hanswer] at h
    cases h
    rfl
  | silent =>
    rw [hanswer] at h
    dsimp only at h
    split at h <;> cases h

theorem request_of_response (hno : (opts.heedsCancel && w.cancelled) = false)
    (h : (o.fetch w opts.url).2 = .response r) :
    ∃ w₁, runOn w (request o opts) = (.ok r, w₁) ∧ w₁.disk = w.disk := by
  refine ⟨{ w with
    cancelled := w.cancelled || (o.fetch w opts.url).1
    journal := w.journal ++ [Event.fetched opts.url false] }, ?_, rfl⟩
  rw [request, runOn_bind, runOn_get]
  dsimp only
  rw [hno, if_neg Bool.false_ne_true, runOn_bind, runOn_set]
  dsimp only
  rw [h]
  rfl

theorem fetchTo_of_response (hreq : runOn w (request o opts) = (.ok r, w₁)) (hstatus : isSuccess r.status = true)
    (hbody : r.body = some body) (hshort : (announced? r).any (exceeds opts) = false) :
    runOn w (fetchTo o opts target part) = runOn w₁ (save opts (announced? r) body target part) := by
  rw [fetchTo, runOn_bind_ok hreq, hstatus, hbody]
  cases hlength : announced? r with
  | none => rfl
  | some n =>
    rw [hlength, Option.any_some] at hshort
    simp only [Bool.not_true, Bool.false_eq_true, if_false, hshort]

theorem fetchTo_ok_response (h : runOn w (fetchTo o opts target part) = (.ok n, w')) :
    ∃ r body w₁, runOn w (request o opts) = (.ok r, w₁) ∧ isSuccess r.status = true ∧ r.body = some body ∧
      (announced? r).any (exceeds opts) = false ∧
      runOn w₁ (save opts (announced? r) body target part) = (.ok n, w') := by
  obtain ⟨r, w₁, hreq, hrest⟩ := of_bind_ok h
  have hstatus : isSuccess r.status = true := by
    by_contra hc
    rw [Bool.not_eq_true] at hc
    rw [hc, Bool.not_false, if_pos rfl] at hrest
    cases hrest
  rw [hstatus] at hrest
  cases hbody : r.body with
  | none =>
    rw [hbody] at hrest
    cases hrest
  | some body =>
    have hshort : (announced? r).any (exceeds opts) = false := by
      by_contra hc
      rw [hbody] at hrest
      cases hlength : announced? r with
      | none => simp [hlength] at hc
      | some n =>
        rw [hlength, Option.any_some, Bool.not_eq_false] at hc
        simp [hlength, hc] at hrest
    exact ⟨r, body, w₁, hreq, hstatus, hbody, hshort, by rwa [← fetchTo_of_response hreq hstatus hbody hshort]⟩

/-- Whether a file can be written beside a place and moved there. -/
def Storable (d : Disk) (target part : String) : Prop :=
  ∃ d₁, d.write part .empty = .ok d₁ ∧ (d₁.rename part target).isOk = true

theorem fetchTo_ok (h : runOn w (fetchTo o opts target part) = (.ok n, w')) :
    ∃ length bytes d₁ d₂, Serves o opts w length bytes ∧ length.any (exceeds opts) = false ∧
      exceeds opts (.ofNat bytes.size) = false ∧ n = bytes.size ∧ w.disk.write part .empty = .ok d₁ ∧
      d₁.write part bytes = .ok d₂ ∧ d₂.rename part target = .ok w'.disk := by
  obtain ⟨r, body, w₁, hreq, hstatus, hbody, hshort, hsave⟩ := fetchTo_ok_response h
  obtain ⟨hno, hanswer⟩ := request_ok hreq
  have hdisk : w₁.disk = w.disk := by
    have hstill : Still (request o opts) := request_still
    have := hstill w
    rwa [hreq] at this
  obtain ⟨_, w₂, hfirst, hsave⟩ := of_bind_ok hsave
  obtain ⟨d₁, hd₁, rfl⟩ := change_ok hfirst
  obtain ⟨bytes, w₃, hreceive, hsave⟩ := of_bind_ok hsave
  have hdisk₃ : w₃.disk = d₁ := by
    have hstill : Still (receive opts (announced? r) .empty reportStep body) := receive_still
    have := hstill { w₁ with disk := d₁ }
    rwa [hreceive] at this
  obtain ⟨_, w₄, hsecond, hsave⟩ := of_bind_ok hsave
  obtain ⟨d₂, hd₂, rfl⟩ := change_ok hsecond
  obtain ⟨_, w₅, hmove, hsave⟩ := of_bind_ok hsave
  obtain ⟨d₃, hd₃, rfl⟩ := change_ok hmove
  obtain ⟨_, w₆, hlog, hsave⟩ := of_bind_ok hsave
  have hdisk₆ : w₆.disk = d₃ := by
    have hstill : Still (log opts "NDK archive saved"
        [("file", .text target), ("bytes", .ofNat bytes.size)]) := log_still
    have := hstill { w₃ with disk := d₃ }
    rwa [hlog] at this
  cases hsave
  obtain ⟨hwhole, hsize⟩ := receive_ok_iff.1 (congrArg Prod.fst hreceive)
  rw [hdisk] at hd₁
  rw [hdisk₃] at hd₂
  have hserves : Serves o opts w (announced? r) bytes := ⟨hno, r, body, hanswer, hstatus, rfl, hbody, hwhole⟩
  exact ⟨announced? r, bytes, d₁, d₂, hserves, hshort, hsize, rfl, hd₁, hd₂, by rw [hd₃, hdisk₆]⟩

/-- Whether an archive that is served is stored depends on nothing of it but its length and the one announced. -/
theorem fetchTo_isOk (hserves : Serves o opts w length bytes) :
    (runOn w (fetchTo o opts target part)).1.isOk = true ↔
      length.any (exceeds opts) = false ∧ exceeds opts (.ofNat bytes.size) = false ∧
        Storable w.disk target part := by
  constructor
  · intro hok
    rcases hrun : runOn w (fetchTo o opts target part) with ⟨e | n, w'⟩
    · rw [hrun] at hok
      cases hok
    obtain ⟨length', bytes', d₁, d₂, hserves', hshort, hsize, -, hd₁, hd₂, hd₃⟩ := fetchTo_ok hrun
    obtain ⟨rfl, rfl⟩ := hserves.unique hserves'
    obtain ⟨d₂', hd₂', hresembles⟩ := write_again hd₁ bytes
    cases hd₂.symm.trans hd₂'
    exact ⟨hshort, hsize, d₁, hd₁, by rw [hresembles.rename_isOk, hd₃]; rfl⟩
  · rintro ⟨hshort, hsize, d₁, hd₁, hmove⟩
    obtain ⟨hno, r, body, hanswer, hstatus, rfl, hbody, hwhole⟩ := hserves
    obtain ⟨w₁, hreq, hdisk⟩ := request_of_response hno hanswer
    rw [fetchTo_of_response hreq hstatus hbody hshort]
    have hfirst : runOn w₁ (Forge.change (·.write part .empty)) = (.ok (), { w₁ with disk := d₁ }) := by
      rw [runOn_change, hdisk, hd₁]
    have hreceived :
        (runOn { w₁ with disk := d₁ } (receive opts (announced? r) .empty reportStep body)).1 = .ok bytes :=
      receive_ok_iff.2 ⟨hwhole, hsize⟩
    have hbody : Still (receive opts (announced? r) .empty reportStep body) := receive_still
    have hstill := hbody { w₁ with disk := d₁ }
    rcases hreceive : runOn { w₁ with disk := d₁ } (receive opts (announced? r) .empty reportStep body) with
      ⟨x, w₂⟩
    rw [hreceive] at hreceived hstill
    obtain rfl : x = .ok bytes := hreceived
    obtain ⟨d₂, hd₂, hresembles⟩ := write_again hd₁ bytes
    have hsecond : runOn w₂ (Forge.change (·.write part bytes)) = (.ok (), { w₂ with disk := d₂ }) := by
      rw [runOn_change, hstill, hd₂]
    rw [hresembles.rename_isOk] at hmove
    rw [save, runOn_bind_ok hfirst, runOn_bind_ok hreceive, runOn_bind_ok hsecond]
    cases hd₃ : d₂.rename part target with
    | error f =>
      rw [hd₃] at hmove
      cases hmove
    | ok d₃ =>
      have hthird : runOn { w₂ with disk := d₂ } (Forge.change (·.rename part target)) =
          (.ok (), { w₂ with disk := d₃ }) := by
        rw [runOn_change, hd₃]
      have hsaid : Total (log opts "NDK archive saved"
          [("file", .text target), ("bytes", .ofNat bytes.size)]) := log_total
      obtain ⟨_, w₃, hlog⟩ := hsaid { w₂ with disk := d₃ }
      rw [runOn_bind_ok hthird, runOn_bind_ok hlog]
      rfl

/-! ## A call -/

/-- The path that an archive is downloaded to. -/
def targetPath (opts : DownloadOptions) (d : Disk) : String := resolve d.hereText [opts.target]

/-- The path that an archive has until it is complete. -/
def partPath (opts : DownloadOptions) (d : Disk) : String := targetPath opts d ++ ".part"

/-- The disk once there is a directory for the archive. -/
def opened (opts : DownloadOptions) (d : Disk) : Disk := (d.makeDirectories (dirname (targetPath opts d))).1

/-- The world once there is a directory for the archive. -/
def opening (opts : DownloadOptions) (w : World) : World := { w with disk := opened opts w.disk }

@[simp] theorem opening_disk : (opening opts w).disk = opened opts w.disk := by
  rw [opening]

theorem runOn_run_here :
    runOn w (run o opts) = runOn w (do
      Forge.makeDirectories (dirname (targetPath opts w.disk))
      match ← Forge.attempt (fetchTo o opts (targetPath opts w.disk) (partPath opts w.disk)) with
      | .ok size => return size
      | .error f =>
        Forge.change (·.removeFile (partPath opts w.disk))
        throw f) := by
  rw [run, runOn_bind, runOn_here]
  rfl

theorem runOn_run :
    runOn w (run o opts) =
      match (w.disk.makeDirectories (dirname (targetPath opts w.disk))).2 with
      | some f => (.error (.disk f), opening opts w)
      | none =>
        match runOn (opening opts w) (fetchTo o opts (targetPath opts w.disk) (partPath opts w.disk)) with
        | (.ok n, w') => (.ok n, w')
        | (.error e, w') =>
          match w'.disk.removeFile (partPath opts w.disk) with
          | .ok d => (.error e, { w' with disk := d })
          | .error f => (.error (.disk f), w') := by
  have hmade := runOn_makeDirectories w (dirname (targetPath opts w.disk))
  rw [runOn_run_here]
  cases hfault : (w.disk.makeDirectories (dirname (targetPath opts w.disk))).2 with
  | some f =>
    rw [hfault] at hmade
    exact runOn_bind_error hmade
  | none =>
    rw [hfault] at hmade
    rw [runOn_bind_ok hmade, runOn_bind, runOn_attempt]
    dsimp only [opening, opened]
    generalize runOn _ (fetchTo o opts (targetPath opts w.disk) (partPath opts w.disk)) = result
    obtain ⟨e | n, w'⟩ := result
    · dsimp only
      rw [runOn_bind, runOn_change]
      cases w'.disk.removeFile (partPath opts w.disk) <;> rfl
    · rfl

/-- An archive grows in the directory that it is downloaded to, under its name and an ending; the root has neither
a directory above it nor a name. -/
theorem exists_site (opts : DownloadOptions) (d : Disk) :
    ∃ ns r, (∀ p ∈ ns, IsName p) ∧ IsName r ∧ dirname (targetPath opts d) = absolute ns ∧
      partPath opts d = absolute (ns ++ [r]) ∧
      (targetPath opts d = "/" ∨
        ∃ q, IsName q ∧ shownPart r ≠ shownPart q ∧ targetPath opts d = absolute (ns ++ [q])) := by
  obtain ⟨ns, hns, htarget⟩ := exists_resolve d.hereText [opts.target]
  have hend : ".part".toList = '.' :: "part".toList := rfl
  rw [partPath, targetPath, htarget]
  induction ns using List.reverseRecOn with
  | nil => exact ⟨[], ".part".toList, hns, by decide, by decide, by decide, .inl (by decide)⟩
  | append_singleton ns q _ =>
    have hns' : ∀ p ∈ ns, IsName p := fun p hp => hns p (by simp [hp])
    have hq : IsName q := hns q (by simp)
    rw [absolute_append, hend]
    exact ⟨ns, _, hns', isName_dot hq (by decide), dirname_absolute hns' hq, rfl,
      .inr ⟨q, hq, shownPart_dot_ne q _, rfl⟩⟩

/-- Whether an archive was put in its place and nothing else was changed once its directory was there. -/
structure Delivered (opts : DownloadOptions) (d : Disk) (bytes : ByteArray) (d' : Disk) : Prop where
  target : ∃ p mode, (opened opts d).locateSelf (targetPath opts d) = .ok p ∧
    d'.get? p = some (.file bytes mode) ∧
    ((∀ t, d.named? (targetPath opts d) ≠ some (.link t)) →
      d'.named? (targetPath opts d) = some (.file bytes mode))
  part : d'.named? (partPath opts d) = none
  outside : ∀ p, (opened opts d).locateSelf (targetPath opts d) ≠ .ok p →
    (opened opts d).locateSelf (partPath opts d) ≠ .ok p → d'.get? p = (opened opts d).get? p

/-- Whether nothing is left of an archive, and nothing but that was changed once its directory was there. -/
structure Withdrawn (opts : DownloadOptions) (d d' : Disk) : Prop where
  target : d'.named? (targetPath opts d) = d.named? (targetPath opts d)
  part : Text.hasNull (partPath opts d) = false → Gone d' (partPath opts d)
  outside : ∀ p, (opened opts d).locateSelf (partPath opts d) ≠ .ok p → d'.get? p = (opened opts d).get? p

theorem makeDirectories_opened {ns : List Part} {fault : Option DiskFault}
    (hdir : dirname (targetPath opts w.disk) = absolute ns)
    (hmade : (w.disk.makeDirectories (dirname (targetPath opts w.disk))).2 = fault) :
    w.disk.makeDirectories (absolute ns) = (opened opts w.disk, fault) := by
  rw [← hmade, opened, hdir]

section Run

variable {ns : List Part} {r : Part} {root : Place} (htree : w.disk.Tree) (hns : ∀ p ∈ ns, IsName p)
  (hdir : dirname (targetPath opts w.disk) = absolute ns)
include htree hns hdir

theorem opened_named? {q : Part} (hq : IsName q) :
    (opened opts w.disk).named? (absolute (ns ++ [q])) = w.disk.named? (absolute (ns ++ [q])) := by
  rw [opened, hdir]
  exact makeDirectories_named? htree hns hq

variable (hr : IsName r) (hpart : partPath opts w.disk = absolute (ns ++ [r]))
  (hlink : ∀ t, w.disk.named? (partPath opts w.disk) ≠ some (.link t))
  (hmade : (w.disk.makeDirectories (dirname (targetPath opts w.disk))).2 = none)
include hr hpart hlink hmade

/-- Once there is a directory for an archive nothing has changed there. -/
theorem opened_besides :
    ∃ root, Reached (opened opts w.disk) ns root ∧ Besides ns root r (opened opts w.disk) (opened opts w.disk) := by
  obtain ⟨root, hroot, hget⟩ := makeDirectories_locate (makeDirectories_opened hdir hmade)
  have hreached : Reached (opened opts w.disk) ns root :=
    reached_of_locate (htree.makeDirectories _).tree hns hroot hget
  refine ⟨root, hreached, rfl, hreached, fun _ _ => rfl, fun t => ?_⟩
  rw [opened_named? htree hns hdir hr, ← hpart]
  exact hlink t

end Run

/-- Until an archive is moved to its place nothing changes but what is beside it. -/
theorem fetchTo_besides {ns : List Part} {r : Part} {root : Place} {d : Disk} (hr : IsName r)
    (h₀ : Reached d ns root) :
    Ends (On (Besides ns root r d)) (fetchTo o opts target (absolute (ns ++ [r])))
      (Ended (fun _ => true) (fun _ => True) (Besides ns root r d)) :=
  fetchTo_stages
    (fun _ => .change_on (fun _ _ h hw => (h.write hr h₀ hw).1) fun _ h => h) (fun _ h => h)
    (.change_on (fun _ _ _ _ => trivial) fun _ h => h)

/-- Whether a disk is what it was, but for an archive in its place; nothing is where it was until it was complete. -/
structure Stored (place beside : Place) (bytes : ByteArray) (d d' : Disk) : Prop where
  here : d'.here = d.here
  tree : d'.Tree
  stored : ∃ mode, d'.get? place = some (.file bytes mode)
  moved : d'.get? beside = none
  outside : ∀ p, p ≠ beside → p ≠ place → d'.get? p = d.get? p

theorem fetchTo_stored {ns : List Part} {q r : Part} {root : Place} {d : Disk} (hq : IsName q) (hr : IsName r)
    (hne : shownPart r ≠ shownPart q) (h₀ : Reached d ns root) (hbesides : Besides ns root r d w.disk)
    (h : runOn w (fetchTo o opts (absolute (ns ++ [q])) (absolute (ns ++ [r]))) = (.ok n, w')) :
    ∃ length bytes mode, Serves o opts w length bytes ∧ n = bytes.size ∧ exceeds opts (.ofNat n) = false ∧
      Stored (root ++ [shownPart q]) (root ++ [shownPart r]) bytes d w'.disk ∧
      d.locateSelf (absolute (ns ++ [q])) = .ok (root ++ [shownPart q]) ∧
      d.locateSelf (absolute (ns ++ [r])) = .ok (root ++ [shownPart r]) ∧
      w'.disk.get? (root ++ [shownPart q]) = some (.file bytes mode) ∧ w'.disk.named? (absolute (ns ++ [r])) = none ∧
      ((∀ t, d.named? (absolute (ns ++ [q])) ≠ some (.link t)) →
        w'.disk.named? (absolute (ns ++ [q])) = some (.file bytes mode)) := by
  obtain ⟨length, bytes, d₁, d₂, hserves, -, hsize, rfl, hd₁, hd₂, hd₃⟩ := fetchTo_ok h
  obtain ⟨hfirst, hself, -⟩ := hbesides.write hr h₀ hd₁
  obtain ⟨hsecond, -, mode, hfile⟩ := hfirst.write hr h₀ hd₂
  obtain ⟨htself, hreplaces, hnone, hnew⟩ := hsecond.rename hr h₀ hq hne hfile hd₃
  have hget := hreplaces.target.trans hfile
  refine ⟨length, bytes, mode, hserves, rfl, hsize, ⟨hreplaces.here.trans hsecond.here, hreplaces.tree, ⟨mode, hget⟩,
    hreplaces.source, fun p hp hpt => ?_⟩, htself, hself, hget, hnone, fun hno => hnew fun t => ?_⟩
  · rw [hreplaces.outside p hp hpt, hsecond.outside p (by rw [hself]; simpa using Ne.symm hp)]
  · rw [hsecond.named?_eq hr h₀ hq hne]
    exact hno t

/-- A download that succeeds has a directory for the archive, and fetches it. -/
theorem run_ok_fetched (h : runOn w (run o opts) = (.ok n, w')) :
    (w.disk.makeDirectories (dirname (targetPath opts w.disk))).2 = none ∧
      runOn (opening opts w) (fetchTo o opts (targetPath opts w.disk) (partPath opts w.disk)) = (.ok n, w') := by
  rw [runOn_run] at h
  cases hmade : (w.disk.makeDirectories (dirname (targetPath opts w.disk))).2 with
  | some f =>
    rw [hmade] at h
    cases h
  | none =>
    rw [hmade] at h
    dsimp only at h
    refine ⟨rfl, ?_⟩
    rcases hrun : runOn (opening opts w) (fetchTo o opts (targetPath opts w.disk) (partPath opts w.disk)) with
      ⟨e | m, w₁⟩
    · rw [hrun] at h
      dsimp only at h
      split at h <;> cases h
    · rw [hrun] at h
      cases h
      rfl

theorem run_ok (htree : w.disk.Tree) (hlink : ∀ t, w.disk.named? (partPath opts w.disk) ≠ some (.link t))
    (h : runOn w (run o opts) = (.ok n, w')) :
    ∃ length bytes, Serves o opts (opening opts w) length bytes ∧ n = bytes.size ∧
      exceeds opts (.ofNat n) = false ∧ Delivered opts w.disk bytes w'.disk := by
  obtain ⟨hmade, hrun⟩ := run_ok_fetched h
  obtain ⟨ns, r, hns, hr, hdir, hpart, hplace⟩ := exists_site opts w.disk
  obtain ⟨root, hreached, hbegin⟩ := opened_besides htree hns hdir hr hpart hlink hmade
  rw [hpart] at hrun
  rcases hplace with hslash | ⟨q, hq, hne, htarget⟩
  · -- nothing is moved to the root
    rw [hslash] at hrun
    obtain ⟨_, _, d₁, d₂, -, -, -, -, hd₁, hd₂, hd₃⟩ := fetchTo_ok hrun
    rw [opening_disk] at hd₁
    have hsecond := ((hbegin.write hr hreached hd₁).1.write hr hreached hd₂).1
    obtain ⟨p, q, hp, hq, -, -, hmoved⟩ := rename_ok hd₃
    rw [locateSelf, walkPath_root] at hq
    obtain rfl := hsecond.reached.place hr hp
    cases hq
    rcases hmoved with ⟨heq, -⟩ | ⟨-, hnot, -⟩
    · exact absurd heq (by simp)
    · exact absurd (List.nil_prefix) hnot
  rw [htarget] at hrun
  obtain ⟨length, bytes, mode, hserves, rfl, hsize, hstored, htself, hself, hget, hnone, hnew⟩ :=
    fetchTo_stored hq hr hne hreached (by rwa [opening_disk]) hrun
  refine ⟨length, bytes, hserves, rfl, hsize, ⟨_, mode, by rw [htarget]; exact htself, hget, fun hno => ?_⟩,
    by rw [hpart, hnone], fun p htp hpp => ?_⟩
  · rw [htarget] at hno ⊢
    refine hnew fun t => ?_
    rw [opened_named? htree hns hdir hq]
    exact hno t
  · rw [htarget] at htp
    rw [hpart] at hpp
    exact hstored.outside p (fun hc => hpp (hc ▸ hself)) fun hc => htp (hc ▸ htself)

/-- A download that fails once there is a directory for it leaves nothing but what was there. -/
theorem run_error_besides {ns : List Part} {r : Part} {root : Place} {d : Disk} (hr : IsName r)
    (hpart : partPath opts w.disk = absolute (ns ++ [r])) (h₀ : Reached d ns root)
    (hmade : (w.disk.makeDirectories (dirname (targetPath opts w.disk))).2 = none)
    (hbegin : Besides ns root r d (opened opts w.disk)) {e : Failure} (h : runOn w (run o opts) = (.error e, w')) :
    Besides ns root r d w'.disk ∧
      (Text.hasNull (partPath opts w.disk) = false → Gone w'.disk (partPath opts w.disk)) := by
  rw [runOn_run, hmade] at h
  dsimp only at h
  have hends : Ended (fun _ => true) (fun _ => True) (Besides ns root r d)
      (runOn (opening opts w) (fetchTo o opts (targetPath opts w.disk) (partPath opts w.disk))).1
      (runOn (opening opts w) (fetchTo o opts (targetPath opts w.disk) (partPath opts w.disk))).2 := by
    rw [hpart]
    refine ends_iff.1 (fetchTo_besides hr h₀) (opening opts w) ?_
    rwa [On, opening_disk]
  rcases hrun : runOn (opening opts w) (fetchTo o opts (targetPath opts w.disk) (partPath opts w.disk)) with
    ⟨f | m, w₁⟩
  · rw [hrun] at h hends
    have hbesides : Besides ns root r d w₁.disk := Ended.error.1 hends
    dsimp only at h
    cases hd : w₁.disk.removeFile (partPath opts w.disk) with
    | ok d =>
      rw [hd] at h
      cases h
      exact ⟨hbesides.removeFile hr h₀ (by rw [← hpart, hd]), fun _ => gone_of_removeFile hd⟩
    | error f =>
      rw [hd] at h
      cases h
      exact ⟨hbesides, fun hnull => gone_of_removeFile_error hnull hd⟩
  · rw [hrun] at h
    cases h

theorem run_error (htree : w.disk.Tree) (hlink : ∀ t, w.disk.named? (partPath opts w.disk) ≠ some (.link t))
    {e : Failure} (h : runOn w (run o opts) = (.error e, w')) : Withdrawn opts w.disk w'.disk := by
  obtain ⟨ns, r, hns, hr, hdir, hpart, hplace⟩ := exists_site opts w.disk
  cases hmade : (w.disk.makeDirectories (dirname (targetPath opts w.disk))).2 with
  | some f =>
    rw [runOn_run, hmade] at h
    cases h
    rw [opening_disk]
    refine ⟨?_, fun hnull => ?_, fun _ _ => rfl⟩
    · rcases hplace with hslash | ⟨q, hq, -, htarget⟩
      · rw [hslash, named?_root, named?_root]
      · rw [htarget, opened_named? htree hns hdir hq]
    · -- where there is no directory there is nothing in it either
      rw [hpart] at hnull ⊢
      have hno := makeDirectories_error htree hns (hasNull_of_concat hnull)
        (makeDirectories_opened hdir hmade)
      intro p e hp _
      have hall : ∀ p ∈ ns ++ [r], IsName p := List.forall_mem_append.2 ⟨hns, by simpa using hr⟩
      have htree' : (opened opts w.disk).Tree := (htree.makeDirectories _).tree
      rw [isDirectory_of_walkPath htree' hall hp] at hno
      cases hno
  | none =>
    obtain ⟨root, hreached, hbegin⟩ := opened_besides htree hns hdir hr hpart hlink hmade
    obtain ⟨hafter, hgone⟩ := run_error_besides hr hpart hreached hmade hbegin h
    refine ⟨?_, hgone, fun p hp => hafter.outside p (by rwa [← hpart])⟩
    rcases hplace with hslash | ⟨q, hq, hne, htarget⟩
    · rw [hslash, named?_root, named?_root]
    · rw [htarget, hafter.named?_eq hr hreached hq hne, opened_named? htree hns hdir hq]

/-! ## In a directory of its own -/

section Sited

variable {ns : List Part} {q r : Part} {root : Place} {d : Disk}

/-- Whether an archive is downloaded to a name in a directory, and grows under another one beside it. -/
structure Sited (opts : DownloadOptions) (d : Disk) (ns : List Part) (q r : Part) : Prop where
  target : targetPath opts d = absolute (ns ++ [q])
  part : partPath opts d = absolute (ns ++ [r])
  names : ∀ p ∈ ns, IsName p
  name : IsName q
  beside : IsName r
  apart : shownPart r ≠ shownPart q

theorem Sited.dirname (h : Sited opts d ns q r) : dirname (targetPath opts d) = absolute ns := by
  rw [h.target, dirname_absolute h.names h.name]

theorem Sited.here {d' : Disk} (h : Sited opts d ns q r) (hhere : d'.here = d.here) : Sited opts d' ns q r := by
  have htext : d'.hereText = d.hereText := by rw [hereText, hereText, hhere]
  have htarget : targetPath opts d' = targetPath opts d := by rw [targetPath, targetPath, htext]
  exact ⟨by rw [htarget, h.target], by rw [partPath, htarget, ← h.part]; rfl, h.names, h.name, h.beside, h.apart⟩

/-- A download into a directory where nothing has changed stores the archive there. -/
theorem run_ok_stored (hs : Sited opts w.disk ns q r) (h₀ : Reached d ns root)
    (hbegin : Besides ns root r d (opened opts w.disk)) (h : runOn w (run o opts) = (.ok n, w')) :
    ∃ bytes, Stored (root ++ [shownPart q]) (root ++ [shownPart r]) bytes d w'.disk ∧
      d.locateSelf (absolute (ns ++ [q])) = .ok (root ++ [shownPart q]) ∧
      d.locateSelf (absolute (ns ++ [r])) = .ok (root ++ [shownPart r]) := by
  have hfetch := (run_ok_fetched h).2
  rw [hs.target, hs.part] at hfetch
  obtain ⟨-, bytes, -, -, -, -, hstored, hself, hself', -⟩ :=
    fetchTo_stored hs.name hs.beside hs.apart h₀ (by rwa [opening_disk]) hfetch
  exact ⟨bytes, hstored, hself, hself'⟩

/-- A download into a directory that is there, or is made by it, stores the archive or leaves what was there. -/
theorem run_stores (hs : Sited opts d ns q r) (hreached : Reached (opened opts d) ns root)
    (hmade : (d.makeDirectories (absolute ns)).2 = none)
    (hbegin : Besides ns root r (opened opts d) (opened opts d)) :
    Ends (On fun d' => d' = d ∨ Besides ns root r (opened opts d) d') (run o opts)
      (Ended (fun _ => true)
        (fun d' => ∃ bytes, Stored (root ++ [shownPart q]) (root ++ [shownPart r]) bytes (opened opts d) d' ∧
          (opened opts d).locateSelf (absolute (ns ++ [q])) = .ok (root ++ [shownPart q]) ∧
          (opened opts d).locateSelf (absolute (ns ++ [r])) = .ok (root ++ [shownPart r]))
        (fun d' => d' = d ∨ Besides ns root r (opened opts d) d')) := by
  refine ends_iff.2 fun w hw => ?_
  have hopen : (opened opts d).here = d.here := by
    rw [opened, (makeDirectories_adds d _).here]
  -- a directory that was made once is not made again
  obtain ⟨hs', hmade', hbegin'⟩ : Sited opts w.disk ns q r ∧ (w.disk.makeDirectories (absolute ns)).2 = none ∧
      Besides ns root r (opened opts d) (opened opts w.disk) := by
    rcases hw with heq | hw
    · rw [heq]
      exact ⟨hs, hmade, hbegin⟩
    · have hs' := hs.here (hw.here.trans hopen)
      have hsame : w.disk.makeDirectories (absolute ns) = (w.disk, none) :=
        hw.reached.makeDirectories_of_made (Prod.ext rfl hmade)
      have hopened : opened opts w.disk = w.disk := by rw [opened, hs'.dirname, hsame]
      exact ⟨hs', by rw [hsame], by rwa [hopened]⟩
  rcases hrun : runOn w (run o opts) with ⟨e | n, w'⟩
  · rw [← hs'.dirname] at hmade'
    exact Ended.error.2 (.inr (run_error_besides hs'.beside hs'.part hreached hmade' hbegin' hrun).1)
  · exact Ended.ok.2 (run_ok_stored hs' hreached hbegin' hrun)

/-- A download without a directory for the archive, which cannot be made, stores nothing. -/
theorem run_stores_nothing (hs : Sited opts d ns q r) :
    Ends (On fun d' => d'.here = d.here ∧ d'.Tree ∧ (d'.makeDirectories (absolute ns)).2.isSome = true) (run o opts)
      (Ended (fun _ => true) (fun _ => False)
        (fun d' => d'.here = d.here ∧ d'.Tree ∧ (d'.makeDirectories (absolute ns)).2.isSome = true)) := by
  refine ends_iff.2 fun w ⟨hhere, htree, hfails⟩ => ?_
  have hs' := hs.here hhere
  obtain ⟨f, hf⟩ := Option.isSome_iff_exists.1 hfails
  have hfault := hf
  rw [← hs'.dirname] at hfault
  rw [runOn_run, hfault]
  refine Ended.error.2 ?_
  rw [opening_disk, opened, hs'.dirname]
  have hmade : w.disk.makeDirectories (absolute ns) = ((w.disk.makeDirectories (absolute ns)).1, some f) :=
    Prod.ext rfl hf
  refine ⟨?_, (htree.makeDirectories _).tree, makeDirectories_again htree hs.names hmade⟩
  rw [(makeDirectories_adds w.disk _).here, hhere]

end Sited

/-! ## Archives that are served -/

/-- Whether there is a place for an archive: its directory is there or can be made, and there a file can be written
and moved to the archive's name. -/
def HasPlace (opts : DownloadOptions) (d : Disk) : Prop :=
  (d.makeDirectories (dirname (targetPath opts d))).2 = none ∧
    Storable (opened opts d) (targetPath opts d) (partPath opts d)

theorem run_isOk (hserves : Serves o opts (opening opts w) length bytes) :
    (runOn w (run o opts)).1.isOk = true ↔
      length.any (exceeds opts) = false ∧ exceeds opts (.ofNat bytes.size) = false ∧ HasPlace opts w.disk := by
  have hfetch : (runOn (opening opts w) (fetchTo o opts (targetPath opts w.disk) (partPath opts w.disk))).1.isOk =
        true ↔ length.any (exceeds opts) = false ∧ exceeds opts (.ofNat bytes.size) = false ∧
      Storable (opening opts w).disk (targetPath opts w.disk) (partPath opts w.disk) := fetchTo_isOk hserves
  rw [runOn_run, HasPlace]
  cases hmade : (w.disk.makeDirectories (dirname (targetPath opts w.disk))).2 with
  | some f => simp [Except.isOk, Except.toBool]
  | none =>
    rw [opening_disk] at hfetch
    rw [eq_self_iff_true, true_and, ← hfetch]
    dsimp only
    rcases runOn (opening opts w) (fetchTo o opts (targetPath opts w.disk) (partPath opts w.disk)) with
      ⟨e | n, w₁⟩
    · dsimp only
      split <;> simp [Except.isOk, Except.toBool]
    · rfl

/-- A download that does not find a link beside its target is complete or invisible: either all that was served is
there under the target's name, or that names what it named before; and nothing is left beside it. Where what is
served does not break off, its length and the announced one decide, and not how it is cut. -/
theorem run_complete_or_invisible (opts : DownloadOptions) (w : World) (htree : w.disk.Tree)
    (hlink : ∀ t, w.disk.named? (partPath opts w.disk) ≠ some (.link t)) (o : Outside) :
    (∀ n w', runOn w (run o opts) = (.ok n, w') →
        ∃ length bytes, Serves o opts (opening opts w) length bytes ∧ n = bytes.size ∧
          (0 < opts.maxBytes → ¬ opts.maxBytes < .ofNat n) ∧ Delivered opts w.disk bytes w'.disk) ∧
      (∀ e w', runOn w (run o opts) = (.error e, w') → Withdrawn opts w.disk w'.disk) ∧
      ∀ length bytes, Serves o opts (opening opts w) length bytes →
        ((runOn w (run o opts)).1.isOk = true ↔
          length.any (exceeds opts) = false ∧ exceeds opts (.ofNat bytes.size) = false ∧ HasPlace opts w.disk) := by
  refine ⟨fun n w' h => ?_, fun e w' h => run_error htree hlink h, fun length bytes h => run_isOk h⟩
  obtain ⟨length, bytes, hserves, hn, hsize, hdelivered⟩ := run_ok htree hlink h
  refine ⟨length, bytes, hserves, hn, fun hpositive hlt => ?_, hdelivered⟩
  rw [exceeds_iff.2 ⟨hpositive, hlt⟩] at hsize
  cases hsize

/-- An outside that answers every request with one body. -/
def sending (body : List Chunk) : Outside where
  run w _ := ⟨w.disk, false, .ok ⟨some 0, "", ""⟩⟩
  fetch _ _ := (false, .response ⟨200, [], some body⟩)
  cancelsWait _ := false
  clock _ := default
  searchPath := none
  processors := 1

def archive : DownloadOptions where
  url := "https://dl.test/ndk.zip"
  target := "/ndk.zip"
  timeoutMs := 1
  maxBytes := 3

/-- A world with an older archive and something beside it. -/
def older (beside : Entry) : World :=
  ⟨⟨[(["ndk.zip"], .file (Utf8.encode "old") 0o644), (["ndk.zip.part"], beside)], []⟩, false, 0, []⟩

theorem older_tree {beside : Entry} : (older beside).disk.Tree := by
  intro q n hq
  cases q with
  | nil => rfl
  | cons a rest => exact absurd (by simp [Disk.get?, older]) hq

theorem run_complete_or_invisible_cut :
    (older (.file .empty 0o644)).disk.Tree ∧
      (∀ t, (older (.file .empty 0o644)).disk.named? (partPath archive (older (.file .empty 0o644)).disk) ≠
        some (.link t)) ∧
      HasPlace archive (older (.file .empty 0o644)).disk ∧
      ∃ n bytes w', runOn (older (.file .empty 0o644))
          (run (sending [.bytes (Utf8.encode "n"), .bytes (Utf8.encode "ew")]) archive) = (.ok n, w') ∧
        Delivered archive (older (.file .empty 0o644)).disk bytes w'.disk := by
  have hlink : ∀ t, (older (.file .empty 0o644)).disk.named? (partPath archive (older (.file .empty 0o644)).disk) ≠
      some (.link t) := by
    have hfile : ((older (.file .empty 0o644)).disk.named?
        (partPath archive (older (.file .empty 0o644)).disk)).all Entry.isFile = true := by
      decide +kernel
    intro t ht
    rw [ht] at hfile
    cases hfile
  have hok : (runOn (older (.file .empty 0o644))
      (run (sending [.bytes (Utf8.encode "n"), .bytes (Utf8.encode "ew")]) archive)).1.isOk = true := by
    decide +kernel
  obtain ⟨hdelivers, -, hserved⟩ := run_complete_or_invisible archive (older (.file .empty 0o644)) older_tree hlink
    (sending [.bytes (Utf8.encode "n"), .bytes (Utf8.encode "ew")])
  rcases hrun : runOn (older (.file .empty 0o644))
      (run (sending [.bytes (Utf8.encode "n"), .bytes (Utf8.encode "ew")]) archive) with ⟨e | n, w'⟩
  · rw [hrun] at hok
    cases hok
  obtain ⟨length, bytes, hserves, -, -, hdelivered⟩ := hdelivers n w' hrun
  exact ⟨older_tree, hlink, ((hserved length bytes hserves).1 hok).2.2, n, bytes, w', rfl, hdelivered⟩

/-- What is written beside an archive is written through a link that is there. If that leads to the archive, the old
one is lost first, and the link then takes the place of the new one. -/
theorem run_through_link_not_delivered :
    Serves (sending [.bytes (Utf8.encode "new")]) archive (opening archive (older (.link "ndk.zip"))) none
        (Utf8.encode "new") ∧
      (older (.link "ndk.zip")).disk.isFile "/ndk.zip" = true ∧
      (runOn (older (.link "ndk.zip")) (run (sending [.bytes (Utf8.encode "new")]) archive)).1.isOk = true ∧
      (runOn (older (.link "ndk.zip")) (run (sending [.bytes (Utf8.encode "new")]) archive)).2.disk.isFile
        "/ndk.zip" = false := by
  refine ⟨⟨rfl, _, _, rfl, rfl, rfl, rfl, ?_⟩, by decide +kernel, by decide +kernel, by decide +kernel⟩
  decide +kernel

end Download

end VariantForge
