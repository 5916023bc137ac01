import VariantForge.Disk.Operations
import VariantForge.Shell.Script
import VariantForge.Text.Utf8

/-!
The machine that shells run on: a disk, a clock, and streams.

What is written to a pipe is kept with the time, in order; a pipe that is read from has all its bytes from
the start. A stream may be known under many numbers, and all of them move on together.
-/

namespace VariantForge.Shell

/-- An open stream: the end of a pipe that is written to, or that is read from, a file at some position,
nothing at all, or zeros without end. A socket is a pipe that cannot be opened by a path. -/
inductive Stream where
  | sink (pipe : Nat) (socket : Bool)
  | source (bytes : ByteArray) (position : Nat)
  | file (place : Place) (position : Nat) (reads writes extends_ : Bool)
  | nothing
  | zeros
  deriving Inhabited

/-- Bytes that were written to a pipe at some time. -/
structure Written where
  time : Nat
  pipe : Nat
  bytes : ByteArray

/-- A machine. What was written stands in reverse order; time is counted in millionths of a second. Signals
wait for the process that they were sent to. -/
structure Machine where
  disk : Disk
  time : Nat := 0
  streams : Array Stream := #[]
  written : List Written := []
  pipes : Nat := 0
  processes : Nat := 4242
  signals : List (Nat × Nat) := []

/-- What stood in the way of a stream. -/
inductive StreamReason where
  | disk (reason : DiskReason)
  | noDevice
  | badStream
  deriving DecidableEq

/-- The words for the reason of a fault on the disk. -/
def reasonText : DiskReason → String
  | .missing => "No such file or directory"
  | .taken => "File exists"
  | .isDirectory => "Is a directory"
  | .notDirectory => "Not a directory"
  | .notEmpty => "Directory not empty"
  | .denied => "Permission denied"
  | .tooManyLinks => "Too many levels of symbolic links"
  | .nameTooLong => "File name too long"
  | .invalid => "Invalid argument"

/-- The words for a fault on the disk. -/
def faultText : DiskFault → String
  | .call reason .. => reasonText reason
  | .directoryKept _ => reasonText .isDirectory
  | .argument _ => reasonText .invalid

/-- The words for what stood in the way of a stream. -/
def StreamReason.text : StreamReason → String
  | .disk r => reasonText r
  | .noDevice => "No such device or address"
  | .badStream => "Bad file descriptor"

/-- The most writes to a pipe inside the machine before its reader is taken to have gone. -/
def writeLimit : Nat := 40000

namespace Machine

/-- Adds a stream and gives its number. -/
def open_ (m : Machine) (s : Stream) : Nat × Machine := (m.streams.size, { m with streams := m.streams.push s })

/-- Puts another stream in the place of one. -/
def setStream (m : Machine) (n : Nat) (s : Stream) : Machine :=
  { m with streams := m.streams.setIfInBounds n s }

/-- The bytes and the mode of a file. -/
def fileAt (m : Machine) (p : Place) : ByteArray × Nat :=
  match m.disk.get? p with
  | some (.file bytes mode) => (bytes, mode)
  | _ => (.empty, newFileMode)

/-- Bytes put into others at a position, with zeros where nothing was. -/
def splice (old : ByteArray) (position : Nat) (bytes : ByteArray) : ByteArray :=
  let gap : ByteArray := ⟨(List.replicate (position - old.size) 0).toArray⟩
  old.extract 0 position ++ gap ++ bytes ++ old.extract (position + bytes.size) old.size

/-- Writes bytes to a stream; none if it cannot be written to. -/
def write (m : Machine) (n : Nat) (bytes : ByteArray) : Option Machine :=
  match m.streams[n]? with
  | some (.sink pipe _) =>
    if bytes.isEmpty then some m
    else some { m with written := ⟨m.time, pipe, bytes⟩ :: m.written }
  | some .nothing => some m
  | some .zeros => some m
  | some (.file p position reads true extends_) =>
    let (old, mode) := m.fileAt p
    let position := if extends_ then old.size else position
    let after := Stream.file p (position + bytes.size) reads true extends_
    some ({ m with disk := m.disk.put p (.file (splice old position bytes) mode) }.setStream n after)
  | _ => none

/-- The bytes that a stream still has, as many as are asked for; none if it cannot be read. -/
def ahead (m : Machine) (n most : Nat) : Option ByteArray :=
  match m.streams[n]? with
  | some (.source bytes position) => some (bytes.extract position (position + most))
  | some (.file p position true _ _) =>
    let (bytes, _) := m.fileAt p
    some (bytes.extract position (position + most))
  | some .nothing => some .empty
  | some .zeros => some ⟨(List.replicate (min most 1048576) 0).toArray⟩
  | _ => none

/-- Goes past bytes of a stream. -/
def pass (m : Machine) (n count : Nat) : Machine :=
  match m.streams[n]? with
  | some (.source bytes position) => m.setStream n (.source bytes (position + count))
  | some (.file p position reads writes extends_) =>
    m.setStream n (.file p (position + count) reads writes extends_)
  | _ => m

/-- The bytes that were written to a pipe, those that came first in time first. -/
def through (m : Machine) (pipe : Nat) : ByteArray :=
  let mine := (m.written.filter (·.pipe == pipe)).reverse
  (mine.mergeSort fun a b => a.time ≤ b.time).foldl (fun all w => all ++ w.bytes) .empty

/-- Opens a file to write. -/
def openWrite (m : Machine) (mask : Nat) (path : String) (kind : RedirectKind) (keeping : Bool) :
    Except StreamReason (Stream × Machine) :=
  let d := m.disk
  match d.locateFile path with
  | .error r => .error (.disk r)
  | .ok p =>
    let old? := d.get? p
    let fresh := kind = .write true || kind = .write false
    match old? with
    | some (.file bytes mode) =>
      if fresh && keeping && kind != .write true then .error (.disk .taken)
      else if !mayWrite mode || (kind = .both && !mayRead mode) then .error (.disk .denied)
      else
        let disk := if fresh then d.put p (.file .empty mode) else d.put p (.file bytes mode)
        .ok (.file p 0 (kind = .both) true (kind = .extend), { m with disk })
    | some .directory => .error (.disk .isDirectory)
    | some (.link _) => .error (.disk .tooManyLinks)
    | none =>
      let mode := 0o666 &&& ((0o777 : Nat) ^^^ (mask &&& 0o777))
      .ok (.file p 0 (kind = .both) true (kind = .extend), { m with disk := d.put p (.file .empty mode) })

/-- Opens a file to read. A directory can be opened but has nothing to read. -/
def openRead (m : Machine) (path : String) : Except StreamReason (Stream × Machine) :=
  match m.disk.locate path with
  | .error r => .error (.disk r)
  | .ok p =>
    match m.disk.get? p with
    | some (.file _ mode) =>
      if mayRead mode then .ok (.file p 0 true false false, m) else .error (.disk .denied)
    | some .directory => .ok (.nothing, m)
    | some (.link _) => .error (.disk .tooManyLinks)
    | none => .error (.disk .missing)

/-- Opens again what is open under a number, from the start if it is a file. -/
def openAgain (m : Machine) (stream? : Option Nat) : Except StreamReason (Stream × Machine) :=
  match stream?.bind (m.streams[·]?) with
  | some (.sink _ true) => .error .noDevice
  | some (.file p _ reads writes extends_) => .ok (.file p 0 reads writes extends_, m)
  | some s => .ok (s, m)
  | none => .error (.disk .missing)

/-- The number of the stream that a path to a device stands for. -/
def streamOfPath? (path : String) : Option Nat :=
  match path with
  | "/dev/stdin" => some 0
  | "/dev/stdout" => some 1
  | "/dev/stderr" => some 2
  | path =>
    match path.toList with
    | '/' :: 'd' :: 'e' :: 'v' :: '/' :: 'f' :: 'd' :: '/' :: [n] => if n.isDigit then some (n.toNat - 48) else none
    | _ => none

/-- Opens a path. -/
def openPath (m : Machine) (table : List (Nat × Nat)) (mask : Nat) (octets : String) (kind : RedirectKind)
    (keeping : Bool) : Except StreamReason (Stream × Machine) :=
  let path := Octets.toString octets
  match streamOfPath? path with
  | some n => m.openAgain ((table.find? (·.1 == n)).map (·.2))
  | none =>
    if path = "/dev/null" then .ok (.nothing, m)
    else if path = "/dev/zero" then .ok (.zeros, m)
    else if path = "/dev/tty" then .error .noDevice
    else if kind = .read then m.openRead path
    else m.openWrite mask path kind keeping

end Machine

end VariantForge.Shell
