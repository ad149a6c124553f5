import MetricsAgent.CommandLine.Options

/-!
# Arguments

Arguments are options with their values, `--name value` or `--name=value`, and flags.  An option is
given once at most, and nothing else is accepted.  A value that follows its option is looked at when
the next option begins; a mistake that is seen before that comes first.
-/

namespace MetricsAgent

/-- Why arguments give no options. -/
inductive ArgumentError where
  /-- Help was asked for. -/
  | help
  /-- The version was asked for. -/
  | version
  | unknown
  /-- A value is missing or empty. -/
  | noValue
  /-- A value is none of those that the option takes. -/
  | badValue
  /-- A flag has a value. -/
  | surplusValue
  /-- An option is given twice. -/
  | repeated
  | missingConfig
  deriving DecidableEq, Repr

/-- The names of the options. -/
inductive OptionName where
  | config | verbosity | host | datacenter | rack | cluster | daemonRoot | externalSocket
  | rateUnit | durationUnit
  deriving DecidableEq, Repr

def OptionName.text : OptionName → String
  | .config => "config"
  | .verbosity => "verbosity"
  | .host => "host"
  | .datacenter => "datacenter"
  | .rack => "rack"
  | .cluster => "cluster"
  | .daemonRoot => "collectd-root"
  | .externalSocket => "external-daemon-socket"
  | .rateUnit => "rate-unit"
  | .durationUnit => "duration-unit"

def OptionName.all : List OptionName :=
  [.config, .verbosity, .host, .datacenter, .rack, .cluster, .daemonRoot, .externalSocket,
    .rateUnit, .durationUnit]

def OptionName.ofText? (text : String) : Option OptionName :=
  all.find? (·.text == text)

/-- The options that were given. -/
structure Given where
  config : Option String := none
  verbosity : Option Verbosity := none
  host : Option String := none
  datacenter : Option String := none
  rack : Option String := none
  cluster : Option String := none
  daemonRoot : Option String := none
  externalSocket : Option String := none
  rateUnit : Option TimeUnit := none
  durationUnit : Option TimeUnit := none

/-- The value of an option that was not given before. -/
def once {α : Type} (earlier : Option α) (value : Except ArgumentError α) :
    Except ArgumentError (Option α) :=
  match earlier with
  | some _ => .error .repeated
  | none => value.map some

/-- A path must not be empty. -/
def pathValue (value : String) : Except ArgumentError String :=
  if value = "" then .error .noValue else .ok value

/-- A value that must be one of the texts of a type. -/
def wordValue {α : Type} : Option α → Except ArgumentError α
  | none => .error .badValue
  | some a => .ok a

namespace Given

/-- Adds an option with its value. -/
def set (g : Given) (name : OptionName) (value : String) : Except ArgumentError Given := do
  match name with
  | .config => return { g with config := ← once g.config (pathValue value) }
  | .verbosity =>
    return { g with verbosity := ← once g.verbosity (wordValue (Verbosity.ofText? value)) }
  | .host => return { g with host := ← once g.host (.ok value) }
  | .datacenter => return { g with datacenter := ← once g.datacenter (.ok value) }
  | .rack => return { g with rack := ← once g.rack (.ok value) }
  | .cluster => return { g with cluster := ← once g.cluster (.ok value) }
  | .daemonRoot => return { g with daemonRoot := ← once g.daemonRoot (pathValue value) }
  | .externalSocket => return { g with externalSocket := ← once g.externalSocket (pathValue value) }
  | .rateUnit => return { g with rateUnit := ← once g.rateUnit (wordValue (TimeUnit.ofText? value)) }
  | .durationUnit =>
    return { g with durationUnit := ← once g.durationUnit (wordValue (TimeUnit.ofText? value)) }

/-- The options, of which one is required. -/
def options (g : Given) : Except ArgumentError Options :=
  match g.config with
  | none => .error .missingConfig
  | some config => .ok {
    config
    verbosity := g.verbosity
    host := g.host
    datacenter := g.datacenter.getD ""
    rack := g.rack.getD ""
    cluster := g.cluster.getD ""
    daemonRoot := g.daemonRoot
    externalSocket := g.externalSocket
    rateUnit := g.rateUnit.getD .seconds
    durationUnit := g.durationUnit.getD .microseconds }

end Given

/-- An option whose value was not looked at yet. -/
structure Pending where
  name : OptionName
  value : Option String

/-- Adds the option that is pending. -/
def Given.settle (g : Given) : Option Pending → Except ArgumentError Given
  | none => .ok g
  | some ⟨_, none⟩ => .error .noValue
  | some ⟨name, some value⟩ => g.set name value

/-- What an argument looks like. -/
inductive ArgumentForm where
  /-- Ends the options. -/
  | separator
  | long (name : String) (value : Option String)
  /-- Flags of one letter each. -/
  | short (letters : List Char)
  | plain

def ArgumentForm.ofText (argument : String) : ArgumentForm :=
  match argument.toList with
  | ['-', '-'] => .separator
  | '-' :: '-' :: rest =>
    match rest.span (· != '=') with
    | (name, _ :: value) => .long (String.ofList name) (some (String.ofList value))
    | (name, []) => .long (String.ofList name) none
  | '-' :: c :: rest => .short (c :: rest)
  | _ => .plain

/-- The flags, which ask for a text instead of a run. -/
def flagOfName? (name : String) : Option ArgumentError :=
  if name = "help" then some .help else if name = "version" then some .version else none

def flagOfLetter? (letter : Char) : Option ArgumentError :=
  if letter = 'h' then some .help else if letter = 'V' then some .version else none

/-- Answers a flag, after the pending option was looked at. -/
def Given.answerFlag (g : Given) (pending : Option Pending) (flag : ArgumentError) :
    Except ArgumentError Given := do
  let _ ← g.settle pending
  .error flag

/-- Reads arguments, given the options before them. -/
def Given.read (g : Given) (pending : Option Pending) :
    List String → Except ArgumentError Given
  | [] => g.settle pending
  | argument :: rest =>
    match ArgumentForm.ofText argument with
    | .separator => if rest = [] then g.settle pending else .error .unknown
    | .long name value =>
      match flagOfName? name, value with
      | some _, some _ => .error .surplusValue
      | some flag, none => g.answerFlag pending flag
      | none, _ =>
        match OptionName.ofText? name, value with
        | none, _ => .error .unknown
        | some option, some value => do
          let g ← g.settle pending
          let g ← g.set option value
          g.read none rest
        | some option, none => do
          let g ← g.settle pending
          g.read (some ⟨option, none⟩) rest
    | .short letters =>
      match letters.head?.bind flagOfLetter? with
      | none => .error .unknown
      | some flag => g.answerFlag pending flag
    | .plain =>
      match pending with
      | some ⟨name, none⟩ => g.read (some ⟨name, some argument⟩) rest
      | _ => .error .unknown

/-- The options that the arguments after the name of the program give. -/
def Options.ofArguments (arguments : List String) : Except ArgumentError Options := do
  (← Given.read {} none arguments).options

end MetricsAgent
