import MetricsAgent.Machine.Basic
import MetricsAgent.Machine.Path
import MetricsAgent.Name.Map

/-!
# A machine in memory

A `Bench` stands in for a machine where it matters what is done to it: a tree of files, some processes,
and programs that do what a daemon's wrapper may do.  All files may be read and written.
-/

namespace MetricsAgent

namespace Bench

/-- What a program on a bench does when it is launched. -/
inductive Script where
  /-- Starts the daemon of the root that it is told, and notes its process. -/
  | daemonize
  /-- Notes the given text as the process, and starts nothing. -/
  | note (text : String)
  | exit (code : Nat)
  deriving DecidableEq, Repr

inductive Node where
  | dir
  | file (mode : Nat) (text : String)
  | program (mode : Nat) (script : Script)
  deriving DecidableEq, Repr

/-- A launch, and whether its configuration file was empty. -/
structure Call where
  launch : Launch
  unconfigured : Bool

/-- What the launched program notes: its arguments, their number, and its variables. -/
def Call.text (c : Call) : String :=
  let arg (i : Nat) := c.launch.arguments.getD i ""
  let var (name : String) := (c.launch.environment.lookup name).getD ""
  toString c.launch.arguments.length ++ " " ++ arg 0 ++ " " ++ arg 2 ++ " BASEDIR=" ++ var "BASEDIR"
    ++ " PID=" ++ arg 3 ++ " PRELOAD=[" ++ var "LD_PRELOAD"
    ++ "] INSERT=[" ++ var "DYLD_INSERT_LIBRARIES" ++ "]\n"
    ++ if c.unconfigured then "empty\n" else ""

end Bench

open Bench in
/-- Files, processes, and what was launched last. -/
structure Bench where
  /-- What is there, by its path from the root without detours. -/
  nodes : NameMap Node := .empty
  processes : List (Int × List String) := []
  nextPid : Nat := 1000
  nextName : Nat := 0
  lastCall : Option Call := none

namespace Bench

/-! ## Files -/

/-- The path to names below the root, the last one first. -/
def pathOf (place : List String) : String :=
  "/" ++ "/".intercalate place.reverse

def nodeAt? (b : Bench) (place : List String) : Option Node :=
  if place = [] then some .dir else b.nodes.get? (pathOf place)

def isDirAt (b : Bench) (place : List String) : Bool := b.nodeAt? place == some .dir

/-- Follows names from a directory; all but the last must lead to directories. -/
def walk (b : Bench) (place : List String) : List String → Option (List String)
  | [] => some place
  | name :: names =>
    if b.isDirAt place then b.walk (if name = ".." then place.tail else name :: place) names else none

/-- Where a path leads.  Relative paths start at the root. -/
def locate? (b : Bench) (path : String) : Option (List String) :=
  if path = "" then none
  else (b.walk [] (Path.names path)).filter fun place => !Path.isOpen path || b.isDirAt place

def node? (b : Bench) (path : String) : Option Node := (b.locate? path).bind b.nodeAt?

def put (b : Bench) (place : List String) (n : Node) : Bench :=
  { b with nodes := b.nodes.insert (pathOf place) n }

/-- Puts something at a path whose directory is there. -/
def putAt (b : Bench) (path : String) (n : Node) : Bench :=
  match b.locate? path with
  | none => b
  | some place => b.put place n

/-- Makes the directories on the way. -/
def makeDirsFrom (place : List String) : List String → Bench → Bool × Bench
  | [], b => (b.isDirAt place, b)
  | name :: names, b =>
    if !b.isDirAt place then (false, b)
    else if name = ".." then makeDirsFrom place.tail names b
    else if (b.nodeAt? (name :: place)).isSome then makeDirsFrom (name :: place) names b
    else makeDirsFrom (name :: place) names (b.put (name :: place) .dir)

def makeDirs (path : String) (b : Bench) : Bool × Bench :=
  makeDirsFrom [] (Path.names path) b

/-- The text of a file. -/
def readText? (path : String) (b : Bench) : Option String :=
  match b.node? path with
  | some (.file _ text) => some text
  | _ => none

/-- Writes to a file, or to a new one in a directory that is there. -/
def write (path text : String) (b : Bench) : Bool × Bench :=
  match b.locate? path with
  | none => (false, b)
  | some place =>
    match b.nodeAt? place with
    | none => if b.isDirAt place.tail then (true, b.put place (.file 0o644 text)) else (false, b)
    | some (.file mode _) => (true, b.put place (.file mode text))
    | some _ => (false, b)

/-- Makes a file for its owner only, under a name that was not used before. -/
def makeConfFile (start : String) (b : Bench) : Option String × Bench :=
  let path := "/tmp/" ++ start ++ toString b.nextName ++ ".conf"
  (some path, { b.putAt path (.file 0o600 "") with nextName := b.nextName + 1 })

/-- Writes to a file, and makes the directories above it. -/
def provide (path text : String) (b : Bench) : Bench :=
  (write path text (makeDirsFrom [] (Path.names path).dropLast b).2).2

/-- Deletes what is at a path. -/
def delete (path : String) (b : Bench) : Bench :=
  match b.locate? path with
  | none => b
  | some place => { b with nodes := b.nodes.erase (pathOf place) }

/-- A bench with some directories and files. -/
def ofPaths (dirs files : List String) : Bench :=
  files.foldl (fun b path => b.provide path "") (dirs.foldl (fun b path => (makeDirs path b).2) {})

/-- Deletes a directory and all below it. -/
def deleteTree (path : String) (b : Bench) : Bench :=
  (b.nodes.names.filter fun name => name = path || name.startsWith (path ++ "/")).foldl
    (fun b name => { b with nodes := b.nodes.erase name }) b

/-- Installs a daemon and its wrapper, or something else in place of the wrapper, or none. -/
def install (root : String) (wrapper : Option Node) (b : Bench) : Bench :=
  let path := Path.join root "usr/sbin/collectd_wrapper"
  let b := (provide (Path.join root "collectd") "" (b.deleteTree path)).provide path ""
  match wrapper with
  | none => b.delete path
  | some n => b.putAt path n

/-! ## Processes -/

/-- Starts a process: its number. -/
def spawn (words : List String) (b : Bench) : Nat × Bench :=
  (b.nextPid, { b with processes := (b.nextPid, words) :: b.processes, nextPid := b.nextPid + 1 })

def commandLine? (pid : Int) (b : Bench) : Option (List String) := b.processes.lookup pid

/-- Ends a process; whether it was there. -/
def terminate (pid : Int) (b : Bench) : Bool × Bench :=
  ((b.commandLine? pid).isSome, { b with processes := b.processes.filter (·.1 != pid) })

/-- What a program does with its launch. -/
def run (l : Launch) (b : Bench) : Script → Bool × Bench
  | .daemonize =>
    let root := (l.environment.lookup "BASEDIR").getD ""
    let (pid, b) := b.spawn [root ++ "/collectd", "30"]
    b.write (l.arguments.getD 3 "") (toString pid ++ "\n")
  | .note text => b.write (l.arguments.getD 3 "") text
  | .exit code => (code == 0, b)

/-- Launches a program, and takes note of the call. -/
def launch (l : Launch) (b : Bench) : LaunchResult × Bench :=
  match b.node? l.program with
  | some (.program _ script) =>
    let unconfigured := b.readText? (l.arguments.getD 1 "") == some ""
    let (ok, b) := run l { b with lastCall := some ⟨l, unconfigured⟩ } script
    (if ok then .succeeded else .failed, b)
  | _ => (.notRun, b)

/-! ## Hosts -/

/-- A number as in addresses: decimal, octal after a zero, or hexadecimal after `0x`. -/
def addressNumber? (part : List Char) : Option Nat :=
  let read (base : Nat) (digits : List Char) : Option Nat :=
    let values := digits.map fun c =>
      if c.isDigit then c.toNat - 48 else if c.isAlpha then c.toLower.toNat - 87 else 36
    if digits = [] || !values.all (· < base) then none
    else some (values.foldl (fun n d => n * base + d) 0)
  match part with
  | '0' :: 'x' :: digits | '0' :: 'X' :: digits => read 16 digits
  | '0' :: digit :: digits => read 8 (digit :: digits)
  | _ => read 10 part

/-- Whether text is an address of up to four numbers, of which the last fills the remaining bytes. -/
def isAddress (host : String) : Bool :=
  match (host.splitOn ".").reverse.map fun part => addressNumber? part.toList with
  | [] => false
  | last :: before =>
    before.length ≤ 3 && before.all (fun n => n.any (· ≤ 255))
      && last.any (· < Nat.pow 256 (4 - before.length))

/-- Addresses and the machine itself have an address, names have none. -/
def resolves (host : String) : Bool :=
  isAddress host || host.toLower == "localhost"

/-! ## The machine -/

/-- The operations on a bench. -/
def machine : Machine Bench where
  workDir? _ := some "/"
  programDir? _ := some "/opt/agent"
  hasPath path b := (b.node? path).isSome
  isDir path b := b.node? path == some .dir
  isFile path b :=
    match b.node? path with
    | some (.file ..) | some (.program ..) => true
    | _ => false
  isWritable path b := (b.node? path).isSome
  isExecutable path b :=
    match b.node? path with
    | some (.program mode _) => mode &&& 0o111 != 0
    | _ => false
  readText? := readText?
  makeDirs := makeDirs
  makeConfFile := makeConfFile
  write := write
  delete := delete
  commandLine? := commandLine?
  terminate := terminate
  launch := launch
  pause b := b
  resolves host _ _ := resolves host

end Bench

end MetricsAgent
