import VariantForge.Text.Utf8
import VariantForge.World

/-!
Downloading an archive. It grows beside its place under a name of its own and is moved there when
it is complete, so that a download that was cut off never looks like one that was not.
-/

namespace VariantForge

/-- What to download and where to. No bound is set by a bound that is not positive. -/
structure DownloadOptions where
  url : String
  target : String
  timeoutMs : Number
  maxBytes : Number
  logs : Bool := true
  heedsCancel : Bool := true

namespace Download

/-- So many bytes lie between two reports of progress. -/
def reportStep : Nat := 64 * 1024 * 1024

/-- Writes to the log, if the download has one. -/
def log (opts : DownloadOptions) (message : String) (extra : Members Data) : Forge Unit := do
  if opts.logs then Forge.log .debug message (some extra)

/-- Whether a number of bytes is past the bound. -/
def exceeds (opts : DownloadOptions) (n : Number) : Bool :=
  (0 : Number) < opts.maxBytes && opts.maxBytes < n

/-- What a response's headers of a name say, with commas between them if there are several. -/
def header? (r : Response) (name : String) : Option String :=
  match (r.headers.filter fun h => Text.lower h.1 == name).map (·.2) with
  | [] => none
  | values => some (", ".intercalate (values.map Text.trim))

/-- The length that a response announces. -/
def announced? (r : Response) : Option Number := do
  let value ← Text.nonBlank? (← header? r "content-length")
  let n ← Number.readChars? value.toList
  if n.isFinite then some n else none

/-- Whether a status stands for success. -/
def isSuccess (status : Nat) : Bool := 200 ≤ status && status ≤ 299

/-- The bytes of a body, unless it breaks off. -/
def wholeBody : List Chunk → Option ByteArray
  | [] => some .empty
  | .bytes data :: rest => (wholeBody rest).map (data ++ ·)
  | .broken _ :: _ => none

/-- The text of a body, without a mark of byte order; blank if it breaks off. -/
def bodyText (body : Option (List Chunk)) : String :=
  match (body.getD []) |> wholeBody with
  | some bytes =>
    match Utf8.decodeChars bytes with
    | c :: rest => String.ofList (if c = '\uFEFF' then rest else c :: rest)
    | [] => ""
  | none => ""

/-- Receives a body after what is in `done`. Progress is reported when `next` bytes are there, once
for a chunk. -/
def receive (opts : DownloadOptions) (total : Option Number) (done : ByteArray) (next : Nat) :
    List Chunk → Forge ByteArray
  | [] => return done
  | .broken text :: _ => throw (.other text)
  | .bytes data :: rest => do
    let size := done.size + data.size
    if exceeds opts (.ofNat size) then throw (.download (.tooLong opts.maxBytes))
    if next ≤ size then
      log opts "NDK download progress"
        [("bytes", .ofNat size), ("total", total.elim .null .number)]
      receive opts total (done ++ data) (next + reportStep) rest
    else receive opts total (done ++ data) next rest

/-- Sends the request. A run that was cancelled sends none; one that gets no answer ends when it is
cancelled, or when the time is up. -/
def request (o : Outside) (opts : DownloadOptions) : Forge Response := do
  let w ← get
  let before := opts.heedsCancel && w.cancelled
  let (cancels, answer) := o.fetch w opts.url
  if before then
    set { w with journal := w.journal ++ [Event.fetched opts.url true] }
    throw .cancelled
  set { w with cancelled := w.cancelled || cancels, journal := w.journal ++ [Event.fetched opts.url false] }
  match answer with
  | .response r => return r
  | .failed text => throw (.network text)
  | .silent =>
    if opts.heedsCancel && cancels then throw .cancelled
    throw (.download (.timedOut opts.timeoutMs))

/-- Receives the archive and puts it into its place; gives its size. -/
def fetchTo (o : Outside) (opts : DownloadOptions) (target part : String) : Forge Nat := do
  let r ← request o opts
  if !isSuccess r.status then throw (.download (.refused r.status (bodyText r.body)))
  match r.body with
  | none => throw (.download .noBody)
  | some body =>
    let total := announced? r
    match total with
    | some n => if exceeds opts n then throw (.download (.announcedTooLong opts.maxBytes n))
    | none => pure ()
    Forge.change (·.write part .empty)
    let bytes ← receive opts total .empty reportStep body
    Forge.change (·.write part bytes)
    Forge.change (·.rename part target)
    log opts "NDK archive saved" [("file", .text target), ("bytes", .ofNat bytes.size)]
    return bytes.size

/-- Downloads an archive and gives its size. What was received of one that fails is removed. -/
def run (o : Outside) (opts : DownloadOptions) : Forge Nat := do
  let target := Path.resolve (← Forge.here) [opts.target]
  let part := target ++ ".part"
  Forge.makeDirectories (Path.dirname target)
  match ← Forge.attempt (fetchTo o opts target part) with
  | .ok size => return size
  | .error f =>
    Forge.change (·.removeFile part)
    throw f

end Download

end VariantForge
