import PodGauges.Config
import PodGauges.File.Tree
import PodGauges.Target

/-!
The part of the disk that an exporter looks at, read into a tree.
-/

namespace PodGauges.Disk

open File

/-- The error number of a code, which may be its negative in 32 bits. -/
def errnoOfCode (code : UInt32) : Errno :=
  ⟨if code.toNat < 0x80000000 then code.toNat else 0x100000000 - code.toNat⟩

/-- The error number behind a failure. -/
def errnoOf : IO.Error → Errno
  | .alreadyExists _ code _ | .otherError code _ | .resourceBusy code _
  | .resourceVanished code _ | .unsupportedOperation code _ | .hardwareFault code _
  | .unsatisfiedConstraints code _ | .illegalOperation code _ | .protocolError code _
  | .timeExpired code _ | .interrupted _ code _ | .noFileOrDirectory _ code _
  | .invalidArgument _ code _ | .permissionDenied _ code _ | .resourceExhausted _ code _
  | .inappropriateType _ code _ | .noSuchThing _ code _ => errnoOfCode code
  | .unexpectedEof | .userError _ => ⟨5⟩

/-- A path as the entry of a directory, by which it is looked up. -/
def handle (path : Path) : IO.FS.DirEntry := ⟨path.toString, "."⟩

/-- The names in a directory; none if it cannot be listed. -/
def names (path : Path) : IO (List String) := do
  try
    let entries ← (handle path).path.readDir
    return entries.toList.map (·.fileName)
  catch _ => return []

/-- The tree with a directory, if it is one. -/
def addDirectory (tree : Tree) (path : Path) : IO Tree := do
  if ← (handle path).path.isDir then return tree.put path.names .directory else return tree

/-- The tree with a file, or with the error that keeps it from being read. -/
def addFile (tree : Tree) (path : Path) : IO Tree := do
  try
    let bytes ← IO.FS.readBinFile path.toString
    return tree.put path.names (.file bytes.toList)
  catch error =>
    let errno := errnoOf error
    if errno = .noSuchFile ∨ errno = .notADirectory then return tree
    else if errno = .isADirectory then return tree.put path.names .directory
    else return tree.put path.names (.faulty errno)

def addFiles (tree : Tree) (path : Path) (files : List String) : IO Tree := do
  files.foldlM (fun tree name => addFile tree (path.child name)) (← addDirectory tree path)

/-- The files of a control group that a snapshot may read. -/
def cgroupFiles : List String :=
  ["cpu.stat", "cpu.max", "memory.events"] ++ Cgroup.MemoryAmount.all.map ("memory." ++ ·.name)

/-- The files of a process that a sample or a search may read. -/
def processFiles : List String := ["stat", "statm", "status", "io", "cmdline", "comm"]

/-- The names of the processes that a target may stand for. -/
def candidates (config : Config) : IO (List String) := do
  match config.target with
  | none => return []
  | some (.single pid) => return [Number.decimalText pid]
  | some (.listed pids) => return pids.map Number.decimalText
  | some (.matching _) =>
    return (← names config.procRoot).filter fun name => (Target.pidOfName? name).isSome

def load (config : Config) : IO Tree := do
  let tree ← addFiles Tree.empty config.cgroupRoot cgroupFiles
  let tree ← addFiles tree config.procRoot ["stat", "meminfo"]
  let tree ← addFiles tree (config.procRoot.child "net") ["tcp", "tcp6"]
  let interface := config.networkRoot.join (Path.ofString config.interface)
  let tree ← addFiles tree (interface.child "statistics") (Network.Counter.all.map (·.fileName))
  (← candidates config).foldlM
    (fun tree name => addFiles tree (config.procRoot.child name) processFiles) tree

/-- The tree with a volume. A link to a directory is not followed, which a link to the directory
that it stands in shows as well. -/
partial def addVolume (tree : Tree) (path : Path) : IO Tree := do
  (← names path).foldlM (fun tree name => addEntry tree (path.child name))
    (← addDirectory tree path)
where
  addEntry (tree : Tree) (path : Path) : IO Tree := do
    let isDirectory ← (handle path).path.isDir
    match isDirectory, (← isLink path) with
    | true, false => addVolume tree path
    | true, true => return tree.put path.names (.linkTo ".")
    | false, _ => addFile tree path
  isLink (path : Path) : IO Bool := do
    try
      let entry : IO.FS.DirEntry := ⟨(⟨path.anchor, path.names.dropLast⟩ : Path).toString,
        path.names.getLast?.getD "."⟩
      return (← entry.path.symlinkMetadata).type == .symlink
    catch _ => return false

end PodGauges.Disk
