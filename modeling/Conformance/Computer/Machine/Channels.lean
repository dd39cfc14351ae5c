import Conformance.Computer.Machine.Basic

/-!
# Reading and writing

Descriptors lead to files and to ends of pipes.  Reading from a pipe takes what is there; writing to
a pipe that nobody reads ends the writer by a signal.
-/

namespace Conformance

namespace Channels

def get? (c : Channels) (n : Nat) : Option Channel := c.lookup n

def put (c : Channels) (n : Nat) (channel : Channel) : Channels :=
  (n, channel) :: c.filter (·.1 != n)

def close (c : Channels) (n : Nat) : Channels := c.filter (·.1 != n)

end Channels

namespace Machine

def emptyPipe : Pipe := ⟨[], 0, none, 0, 0⟩

def newPipe (m : Machine) : Nat × Machine :=
  let (id, m) := m.freshId
  (id, { m with pipes := (id, emptyPipe) :: m.pipes })

def updatePipe (m : Machine) (pipe : Nat) (f : Pipe → Pipe) : Machine :=
  { m with pipes := m.pipes.map fun (id, p) => if id = pipe then (id, f p) else (id, p) }

def pipeWith (m : Machine) (s : Octets) : Nat × Machine :=
  let (pipe, m) := m.newPipe
  if s.isEmpty then (pipe, m)
  else (pipe, m.updatePipe pipe fun p => { p with chunks := [s], size := s.length })

def openNumber (m : Machine) (number : Nat) (readable writable appends : Bool) :
    Channel × Machine :=
  let (id, m) := m.freshId
  (.file id, { m with files := (id, ⟨number, 0, appends, readable, writable⟩) :: m.files })

inductive OpenMode where
  | read
  | write
  | append
  | readWrite
  deriving DecidableEq, Repr

namespace OpenMode

def reads : OpenMode → Bool
  | read | readWrite => true
  | write | append => false

def writes : OpenMode → Bool
  | read => false
  | write | append | readWrite => true

end OpenMode

def namedPipe (m : Machine) (number : Nat) : Nat × Machine :=
  match m.pipes.find? fun p => p.2.entry = some number with
  | some (id, _) =>
      if m.hasReader id || m.hasWriter id then (id, m)
      else (id, m.updatePipe id fun p => { p with chunks := [], size := 0 })
  | none =>
      let (id, m) := m.newPipe
      (id, m.updatePipe id fun p => { p with entry := some number })

/-- Opens a pipe by its name.  Whoever opens it for one thing waits for someone who opens it for the
other. -/
def openNamedPipe (m : Machine) (number : Nat) (mode : OpenMode) :
    Channel × Option Rendezvous × Machine :=
  let (id, m) := m.namedPipe number
  let pipe := (m.pipes.lookup id).getD emptyPipe
  let meeting? : Option Rendezvous := match mode with
    | .readWrite => none
    | .read => if m.hasWriter id then none else some ⟨id, true, pipe.writerCount⟩
    | .write | .append => if m.hasReader id then none else some ⟨id, false, pipe.readerCount⟩
  let m := m.updatePipe id fun p =>
    { p with
      readerCount := p.readerCount + (if mode.reads then 1 else 0)
      writerCount := p.writerCount + (if mode.writes then 1 else 0) }
  (.pipeEnd id mode.reads mode.writes, meeting?, m)

/-- The other side of a named pipe has not come yet. -/
def isAwaited (m : Machine) (r : Rendezvous) : Bool :=
  match m.pipes.lookup r.pipe with
  | none => false
  | some p => (if r.forWriter then p.writerCount else p.readerCount) = r.seen

structure Opened where
  channel : Channel
  meeting : Option Rendezvous
  machine : Machine

def openPath (m : Machine) (dir : Location) (mask : Nat) (path : Path) (mode : OpenMode) :
    Except IoError Opened := do
  let spot ← m.tree.locate dir path true
  let plain (m : Machine) (number : Nat) : Opened :=
    let (channel, m) := m.openNumber number mode.reads mode.writes (mode = .append)
    ⟨channel, none, m⟩
  match spot.found?, m.tree.node? spot.location with
  | some entry, some node => do
      if mode.reads && !node.stamp.isReadable then throw (.os .accessDenied)
      if mode.writes && !node.stamp.isWritable then throw (.os .accessDenied)
      match entry with
      | .directory =>
          if mode.writes then throw (.os .isDirectory) else return plain m node.stamp.number
      | .link _ => throw (.os .linkLoop)
      | .file .fifo =>
          let (channel, meeting, m) := m.openNamedPipe node.stamp.number mode
          return ⟨channel, meeting, m⟩
      | .file content =>
          let m := match mode, content with
            | .write, .bytes _ | .write, .program _ =>
                { m with tree := m.tree.rewrite node.stamp.number (.bytes []) }
            | _, _ => m
          return plain m node.stamp.number
  | _, _ => do
      if mode = .read then throw (.os .noEntry)
      if path.endsWithSlash then throw (.os .isDirectory)
      if !(m.tree.stamp? spot.location.dropLast).any (fun s => s.isWritable && s.isExecutable) then
        throw (.os .accessDenied)
      let number := m.tree.nextNumber
      let tree := m.tree.insertWith (0o666 &&& (0o7777 ^^^ (mask &&& 0o7777))) spot.location
        (.file (.bytes []))
      return plain { m with tree } number

inductive Written where
  | done
  /-- The file has come to the length up to which the process may write it. -/
  | tooLong
  | broken
  | refused (e : Errno)
  deriving DecidableEq, Repr

def putFile (m : Machine) (id : Nat) (f : OpenFile) : Machine :=
  { m with files := m.files.map fun g => if g.1 = id then (id, f) else g }

/-- Writes bytes over those from an offset on; a gap is filled with zeros. -/
def overwrite (data : Bytes) (offset : Nat) (new : Bytes) : Bytes :=
  data.take offset ++ List.replicate (offset - data.length) 0 ++ new ++
    data.drop (offset + new.length)

/-- Gives the file with a number new content, be it in the tree or not. -/
def rewrite (m : Machine) (number : Nat) (content : Content) : Machine :=
  if (m.tree.withNumber? number).isSome then { m with tree := m.tree.rewrite number content }
  else { m with orphans := m.orphans.map fun (n, old) =>
    if n = number then (n, content) else (n, old) }

def badDescriptor : Errno := ⟨9⟩

def noRoom : Errno := ⟨28⟩

/-- Writes to a channel, to a file at most up to a length. -/
def write (m : Machine) (most : Option Nat) (channel : Channel) (data : Octets) :
    Written × Machine :=
  match channel with
  | .pipeEnd pipe _ true =>
      if data.isEmpty then (.done, m)
      else if !m.hasReader pipe then (.broken, m)
      else (.done, m.updatePipe pipe fun p =>
        { p with chunks := data :: p.chunks, size := p.size + data.length })
  | .pipeEnd _ _ false => (.refused badDescriptor, m)
  | .file id =>
      match m.files.lookup id with
      | none => (.refused badDescriptor, m)
      | some f =>
          if !f.writable then (.refused badDescriptor, m)
          else match m.entry? f.number with
            | some (.file (.bytes old)) =>
                if data.isEmpty then (.done, m)
                else
                  let offset := if f.appends then old.length else f.offset
                  let fitting := match most with
                    | none => data
                    | some n => data.take (n - offset)
                  let outcome : Written := if most.any (· < offset + data.length) then .tooLong
                    else .done
                  if fitting.isEmpty then (outcome, m)
                  else
                    let new := Octets.toBytes fitting
                    let content := Content.bytes (overwrite old offset new)
                    (outcome, (m.rewrite f.number content).putFile id
                      { f with offset := offset + new.length })
            | some (.file .full) => (if data.isEmpty then .done else .refused noRoom, m)
            | _ => (.done, m)

/-- Opens what the name of a device stands for: a file anew, or a pipe once more. -/
def openDevice (m : Machine) (channel : Channel) (mode : OpenMode) : Channel × Machine :=
  match channel with
  | .pipeEnd .. => (channel, m)
  | .file id =>
      match m.files.lookup id with
      | none => (channel, m)
      | some f =>
          let m := match mode, m.entry? f.number with
            | .write, some (.file (.bytes _)) => m.rewrite f.number (.bytes [])
            | _, _ => m
          m.openNumber f.number mode.reads mode.writes (mode = .append)

/-- What a read gives: data, the end, or nothing yet. -/
inductive Taken where
  | data (s : Octets)
  | ended
  | later
  | refused (e : Errno)
  deriving Repr

def zeroBlock : Nat := 65536

def read (m : Machine) (channel : Channel) : Taken × Machine :=
  match channel with
  | .pipeEnd _ false _ => (.refused badDescriptor, m)
  | .pipeEnd pipe true _ =>
      match ((m.pipes.lookup pipe).getD emptyPipe).chunks with
      | [] => if m.hasWriter pipe then (.later, m) else (.ended, m)
      | chunks =>
          (.data chunks.reverse.flatten,
            m.updatePipe pipe fun p => { p with chunks := [], size := 0 })
  | .file id =>
      match m.files.lookup id with
      | none => (.refused badDescriptor, m)
      | some f =>
          if !f.readable then (.refused badDescriptor, m)
          else match m.entry? f.number with
            | some .directory => (.refused .isDirectory, m)
            | some (.file .zeros) | some (.file .full) =>
                (.data (List.replicate zeroBlock '\x00'), m)
            | some (.file content) =>
                let data := content.data
                let fresh := data.drop f.offset
                if fresh.isEmpty then (.ended, m)
                else (.data (Octets.ofBytes fresh), m.putFile id { f with offset := data.length })
            | _ => (.ended, m)

/-- Puts back what was read too much. -/
def unread (m : Machine) (channel : Channel) (s : Octets) : Machine :=
  if s.isEmpty then m
  else match channel with
    | .pipeEnd pipe _ _ =>
        m.updatePipe pipe fun p => { p with chunks := p.chunks ++ [s], size := p.size + s.length }
    | .file id =>
        match m.files.lookup id with
        | none => m
        | some f => m.putFile id { f with offset := f.offset - s.length }

def isReadable (m : Machine) (channel : Channel) : Bool :=
  match channel with
  | .pipeEnd pipe true _ =>
      !((m.pipes.lookup pipe).getD emptyPipe).chunks.isEmpty || !m.hasWriter pipe
  | _ => true

def pipeRoom : Nat := 65536

def isFull (m : Machine) (channel : Channel) : Bool :=
  match channel with
  | .pipeEnd pipe _ true =>
      match m.pipes.lookup pipe with
      | some p => p.size ≥ pipeRoom && !m.outside.contains pipe && m.hasReader pipe
      | none => false
  | _ => false

/-- Where a process finds what it knows about itself. -/
def selfPlace : Location := ["proc", "self"]

/-- Entries that show what channels lead to, each as a link by the number of the descriptor. -/
def descriptorNodes (m : Machine) (channels : Channels) : List Node :=
  let place := selfPlace ++ ["fd"]
  let dirs : List Node := [⟨selfPlace, .directory, ⟨4026531841, 0o555, 0, 0, 0⟩⟩,
    ⟨place, .directory, ⟨4026531842, 0o500, 0, 0, 0⟩⟩]
  let linked := (channels.filter (·.1 < 1000)).flatMap fun (n, channel) =>
    let link (target : String) : Node :=
      ⟨place ++ [toString n], .link ⟨target⟩, ⟨4026532000 + n, 0o700, 0, 0, 0⟩⟩
    let apart (name : String) (content : Content) : List Node :=
      [link name, ⟨place ++ [name], .file content, ⟨4026533000 + n, 0o600, 0, 0, 0⟩⟩]
    match channel with
    | .pipeEnd pipe .. =>
        apart ("pipe:[" ++ toString pipe ++ "]") .fifo
    | .file id =>
        match m.files.lookup id with
        | none => []
        | some f =>
            match m.tree.withNumber? f.number, m.orphans.lookup f.number with
            | some found, _ => [link (Location.toPath found.location).text]
            | none, some content => apart ("deleted:[" ++ toString id ++ "]") content
            | none, none => []
  dirs ++ linked

def view (m : Machine) (channels : Channels) (t : FileTree) : FileTree :=
  { t with nodes := m.descriptorNodes channels ++ t.nodes }

def unviewed (t : FileTree) : FileTree := t.erase selfPlace

def placeOf (m : Machine) (channel : Channel) : Option Location :=
  match channel with
  | .pipeEnd .. => none
  | .file id => (m.files.lookup id).bind fun f => (m.tree.withNumber? f.number).map Node.location

end Machine

end Conformance
