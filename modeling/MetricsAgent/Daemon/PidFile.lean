import MetricsAgent.Machine.Basic
import MetricsAgent.Unicode.Property

/-!
# The file that names the daemon's process

The daemon writes the number of its process to a file.  The file may be stale: the process counts as
the daemon only if it is alive and its command line names the daemon.
-/

namespace MetricsAgent.PidFile

def isBlank (c : Char) : Bool := Unicode.whiteSpace.contains c

/-- Text without blanks at either end. -/
def trim (cs : List Char) : List Char :=
  ((cs.dropWhile isBlank).reverse.dropWhile isBlank).reverse

/-- The value of digits, if it is positive and fits 32 bits with sign. -/
def positive? (digits : List Char) : Option Int :=
  if digits = [] || !digits.all Char.isDigit then none
  else
    some (digits.foldl (fun n c => n * 10 + Int.ofNat (c.toNat - '0'.toNat)) 0)
      |>.filter fun n => 0 < n && n < 2147483648

/-- A positive number, which may have a plus sign. -/
def number? : List Char → Option Int
  | '+' :: digits => positive? digits
  | digits => positive? digits

/-- The process that the text of the file names in its first line. -/
def pid? (text : String) : Option Int :=
  number? (trim (text.toList.takeWhile (· != '\n')))

/-- Whether text holds other text. -/
def holds (part : List Char) : List Char → Bool
  | [] => part.isEmpty
  | c :: cs => part.isPrefixOf (c :: cs) || holds part cs

/-- Whether a command line is one of the daemon.  Only letters A to Z have a lower case form in its
name. -/
def namesDaemon (words : List String) : Bool :=
  holds "collectd".toList ((" ".intercalate words).toList.map Char.toLower)

variable {σ : Type}

/-- Whether a process is alive and the daemon. -/
def isDaemon (m : Machine σ) (pid : Int) (w : σ) : Bool :=
  match m.commandLine? pid w with
  | none => false
  | some words => namesDaemon words

/-- The live daemon that a file names. -/
def daemon? (m : Machine σ) (path : String) (w : σ) : Option Int :=
  ((m.readText? path w).bind pid?).filter (isDaemon m · w)

/-! ## Laws -/

theorem pos_of_positive? {cs : List Char} {pid : Int} (h : positive? cs = some pid) : 0 < pid := by
  simp only [positive?] at h
  split at h
  · simp at h
  · have := (Option.filter_eq_some_iff.1 h).2
    simp only [Bool.and_eq_true, decide_eq_true_eq] at this
    exact this.1

theorem pos_of_number? {cs : List Char} {pid : Int} (h : number? cs = some pid) : 0 < pid := by
  simp only [number?] at h
  split at h <;> exact pos_of_positive? h

theorem holds_iff {part cs : List Char} : holds part cs = true ↔ part <:+: cs := by
  induction cs with
  | nil => simp [holds]
  | cons c cs ih => simp [holds, ih, List.infix_cons_iff]

theorem isDaemon_iff {m : Machine σ} {pid : Int} {w : σ} :
    isDaemon m pid w = true ↔ ∃ words, m.commandLine? pid w = some words ∧
      "collectd".toList <:+: (" ".intercalate words).toList.map Char.toLower := by
  unfold isDaemon
  split
  · rename_i h
    simp [h]
  · rename_i words h
    simp [h, namesDaemon, holds_iff]

theorem daemon?_eq_some_iff {m : Machine σ} {path : String} {w : σ} {pid : Int} :
    daemon? m path w = some pid ↔
      (∃ text, m.readText? path w = some text ∧ pid? text = some pid) ∧ isDaemon m pid w = true := by
  rw [daemon?, Option.filter_eq_some_iff, Option.bind_eq_some_iff]

theorem pos_of_daemon? {m : Machine σ} {path : String} {w : σ} {pid : Int}
    (h : daemon? m path w = some pid) : 0 < pid := by
  obtain ⟨⟨text, -, hp⟩, -⟩ := daemon?_eq_some_iff.1 h
  exact pos_of_number? hp

theorem isDaemon_of_daemon? {m : Machine σ} {path : String} {w : σ} {pid : Int}
    (h : daemon? m path w = some pid) : isDaemon m pid w = true :=
  (daemon?_eq_some_iff.1 h).2

end MetricsAgent.PidFile
