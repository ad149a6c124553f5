import MetricsAgent.Daemon.Lifecycle
import MetricsAgent.Daemon.PidFile
import MetricsAgent.Daemon.Preparation

/-!
# Looking after the daemon

A `Supervisor` writes the daemon's configuration files, launches it through the wrapper that is
installed with it, and tracks its process by the file that the daemon writes.  Nothing here fails: what
goes wrong shows in the state that the daemon is in afterwards, and the next check of its health starts
it again.
-/

namespace MetricsAgent

/-- How to look after a daemon. -/
structure Supervision where
  identity : Identity := ⟨"", "", "", ""⟩
  /-- Others look after the daemon: it is never launched, and always well. -/
  external : Bool := false
  /-- How often to look for the daemon's process after a launch, after the first time. -/
  furtherLooks : Nat := 5

/-- The configuration files that a supervisor made. -/
structure ConfFiles where
  daemon : String
  upload : String
  deriving DecidableEq, Repr

/-- A supervisor, and the machine that it acts on. -/
structure Supervisor (σ : Type) where
  supervision : Supervision
  state : DaemonState := .init
  /-- The process of the daemon. -/
  pid? : Option Int := none
  /-- What the daemon was configured with last. -/
  conf? : Option DaemonConf := none
  files? : Option ConfFiles := none
  machine : σ

namespace Supervisor

variable {σ : Type} (m : Machine σ)

/-! ## The tracked process -/

/-- Asks the tracked process to end, and tracks it no more. -/
def endTracked (s : Supervisor σ) : Supervisor σ :=
  match s.pid? with
  | none => s
  | some pid =>
    if s.state = .stopped then s
    else
      match m.terminate pid s.machine with
      | (true, w) => { s with state := .stopped, pid? := none, machine := w }
      | (false, w) => { s with state := .unknown, pid? := none, machine := w }

/-- Looks for the daemon by its file.  A tracked daemon without file is ended. -/
def lookUp (pidFile : String) (s : Supervisor σ) : Option Int × Supervisor σ :=
  if m.hasPath pidFile s.machine then (PidFile.daemon? m pidFile s.machine, s)
  else (none, s.endTracked m)

/-- Ends a daemon that is there already. -/
def endPrevious (pidFile : String) (s : Supervisor σ) : Supervisor σ :=
  match s.lookUp m pidFile with
  | (none, s) => s
  | (some pid, s) => endTracked m { s with pid? := some pid, state := .started }

/-- Waits for the daemon's process, with a number of looks after the first. -/
def await (pidFile : String) : Nat → Supervisor σ → DaemonState × Supervisor σ
  | looks, s =>
    match s.lookUp m pidFile with
    | (some pid, s) => (.started, { s with pid? := some pid })
    | (none, s) =>
      match looks with
      | 0 => (.broken, s)
      | looks + 1 => await pidFile looks { s with machine := m.pause s.machine }

/-! ## Starting -/

/-- Where the wrapper is, relative to the daemon's root. -/
def wrapperPath : String := "usr/sbin/collectd_wrapper"

/-- The daemon's root, if it is installed. -/
def root? (t : Settings) (w : σ) : Option String :=
  (t.daemonRoot <|> (m.programDir? w).map (Path.join · "collectd")).filter (m.isDir · w)

/-- The program that launches the daemon. -/
def wrapper? (root : String) (w : σ) : Option String :=
  some (Path.join root wrapperPath) |>.filter fun path => m.isFile path w && m.isExecutable path w

/-- Makes the configuration files, both or none. -/
def makeFiles (w : σ) : Except PreparationError ConfFiles × σ :=
  match m.makeConfFile "ds-collectd-" w with
  | (none, w) => (.error (.refused "creating ds-collectd-*.conf"), w)
  | (some daemon, w) =>
    match m.makeConfFile "ds-collectd-insights-" w with
    | (none, w) => (.error (.refused "creating ds-collectd-insights-*.conf"), m.delete daemon w)
    | (some upload, w) => (.ok ⟨daemon, upload⟩, w)

/-- The configuration files, which are made once. -/
def openFiles (s : Supervisor σ) : Except PreparationError ConfFiles × Supervisor σ :=
  match s.files? with
  | some files => (.ok files, s)
  | none =>
    match makeFiles m s.machine with
    | (.error e, w) => (.error e, { s with machine := w })
    | (.ok files, w) => (.ok files, { s with files? := some files, machine := w })

def writeFile (path text : String) (w : σ) : Except PreparationError Unit × σ :=
  match m.write path text w with
  | (true, w) => (.ok (), w)
  | (false, w) => (.error (.refused ("writing " ++ path)), w)

/-- Writes the upload configuration of some settings. -/
def writeUpload (files : ConfFiles) (t : Settings) (w : σ) : Except PreparationError Unit × σ :=
  match UploadConf.ofSettings m t w with
  | (.error e, w) => (.error e, w)
  | (.ok conf, w) => writeFile m files.upload conf.text w

/-- Writes both configuration files. -/
def writeFiles (files : ConfFiles) (conf : DaemonConf) (t : Settings) (w : σ) :
    Except PreparationError Unit × σ :=
  match writeFile m files.daemon conf.text w with
  | (.error e, w) => (.error e, w)
  | (.ok (), w) => writeUpload m files t w

/-- How the wrapper is launched.  Libraries that the agent itself was told to load are not for the
daemon. -/
def launchOf (program : String) (conf : DaemonConf) : Launch where
  program := program
  arguments := ["-C", conf.confFile, "-P", conf.pidFile]
  environment := [("BASEDIR", conf.root), ("LD_PRELOAD", ""), ("DYLD_INSERT_LIBRARIES", "")]

/-- Launches the daemon, and waits until it is there. -/
def launch (program : String) (conf : DaemonConf) (s : Supervisor σ) :
    Except PreparationError DaemonState × Supervisor σ :=
  match m.launch (launchOf program conf) s.machine with
  | (.notRun, w) => (.error (.refused ("running " ++ program)), { s with machine := w })
  | (.failed, w) => (.ok .unknown, { s with conf? := some conf, machine := w })
  | (.succeeded, w) =>
    let (state, s) := await m conf.pidFile s.supervision.furtherLooks
      { s with conf? := some conf, machine := w }
    (.ok state, s)

/-- Configures and launches the daemon, after one that is there already has been ended. -/
def restart (conf : DaemonConf) (files : ConfFiles) (t : Settings) (s : Supervisor σ) :
    Except PreparationError DaemonState × Supervisor σ :=
  let s := s.endPrevious m conf.pidFile
  match wrapper? m conf.root s.machine with
  | none => (.ok .broken, { s with conf? := some conf })
  | some program =>
    match writeFiles m files conf t s.machine with
    | (.error e, w) => (.error e, { s with machine := w })
    | (.ok (), w) => launch m program conf { s with machine := w }

/-- Tries to bring the daemon up: the state that it is in then, or why that failed. -/
def tryStart (socket : ByteArray) (t : Settings) (s : Supervisor σ) :
    Except PreparationError DaemonState × Supervisor σ :=
  match root? m t s.machine with
  | none => (.ok .broken, s)
  | some root =>
    match s.openFiles m with
    | (.error e, s) => (.error e, s)
    | (.ok files, s) =>
      match DaemonConf.prepare m root t.logDir socket files.daemon files.upload
          s.supervision.identity s.machine with
      | (.error e, w) => (.error e, { s with machine := w })
      | (.ok conf, w) => restart m conf files t { s with machine := w }

/-- The state after an attempt to start. -/
def stateOf : Except PreparationError DaemonState → DaemonState
  | .ok state => state
  | .error _ => .unknown

/-- Starts the daemon with a socket. -/
def start (socket : ByteArray) (t : Settings) (s : Supervisor σ) : DaemonState × Supervisor σ :=
  if s.supervision.external then (.started, { s with state := .started, pid? := none })
  else
    let (outcome, s) := s.tryStart m socket t
    (stateOf outcome, { s with state := stateOf outcome })

/-! ## The other operations -/

/-- Whether the daemon is alive and the one that was launched. -/
def check (s : Supervisor σ) : Bool × Supervisor σ :=
  if s.supervision.external then (true, s)
  else
    match s.pid?, s.conf? with
    | some pid, some conf =>
      if s.state = .started then
        let (found, s) := s.lookUp m conf.pidFile
        (found == some pid, s)
      else (false, s)
    | _, _ => (false, s)

/-- Stops the daemon. -/
def stop (s : Supervisor σ) : DaemonState × Supervisor σ :=
  ((s.endTracked m).state, s.endTracked m)

/-- Writes the upload configuration of a running daemon anew. -/
def reload (t : Settings) (s : Supervisor σ) : DaemonState × Supervisor σ :=
  if s.state = .started then
    match s.files? with
    | none => (s.state, s)
    | some files =>
      match writeUpload m files t s.machine with
      | (.error _, w) => (.unknown, { s with state := .unknown, machine := w })
      | (.ok (), w) => (s.state, { s with machine := w })
  else (s.state, s)

/-- Deletes the configuration files of a supervisor that is given up: what is left of the machine. -/
def release (s : Supervisor σ) : σ :=
  match s.files? with
  | none => s.machine
  | some files => m.delete files.upload (m.delete files.daemon s.machine)

/-- A supervisor as what the rest of the agent asks of the daemon. -/
def life : Lifecycle (Supervisor σ) where
  start := start m
  check := check m
  stop := stop m
  reload := reload m

end Supervisor

end MetricsAgent
