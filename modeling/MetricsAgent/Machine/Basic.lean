/-!
# The machine that the agent runs on

What the agent needs of the machine to look after the daemon: directories and files, processes, and
the addresses of hosts.  The operations are functions on the machine's states, which change by other
hands too.
-/

namespace MetricsAgent

/-- A program that is to run until it ends. -/
structure Launch where
  program : String
  arguments : List String
  /-- Variables that are set for it. -/
  environment : List (String × String)
  deriving DecidableEq, Repr

/-- How a launched program ended. -/
inductive LaunchResult where
  /-- It did not run at all. -/
  | notRun
  /-- It reported a failure. -/
  | failed
  | succeeded
  deriving DecidableEq, Repr

/-- The operations on a machine with states `σ`. -/
structure Machine (σ : Type) where
  /-- The directory that relative paths start from. -/
  workDir? : σ → Option String
  /-- The directory that the agent's program is in. -/
  programDir? : σ → Option String
  /-- Whether there is anything at a path. -/
  hasPath : String → σ → Bool
  isDir : String → σ → Bool
  /-- Whether there is a plain file at a path. -/
  isFile : String → σ → Bool
  isWritable : String → σ → Bool
  isExecutable : String → σ → Bool
  /-- The text of a file. -/
  readText? : String → σ → Option String
  /-- Makes a directory and those above it; whether it is there afterwards. -/
  makeDirs : String → σ → Bool × σ
  /-- Makes an empty configuration file that only its owner may read and write.  Its new name starts
  with the given text; the answer is its path. -/
  makeConfFile : String → σ → Option String × σ
  /-- Replaces the text of a file; whether that succeeded. -/
  write : String → String → σ → Bool × σ
  delete : String → σ → σ
  /-- The words of the command line of a live process. -/
  commandLine? : Int → σ → Option (List String)
  /-- Asks a process to end; whether it could be asked. -/
  terminate : Int → σ → Bool × σ
  /-- Runs a program to its end. -/
  launch : Launch → σ → LaunchResult × σ
  /-- Lets some time pass. -/
  pause : σ → σ
  /-- Whether a host has an address for a port. -/
  resolves : String → UInt16 → σ → Bool

end MetricsAgent
