/-!
# Outlines of configuration files

The daemon's configuration files have fixed lines, some of which hold a value.  An `Outline` says which
lines, and where the values go; filling it in yields the text of a file.
-/

namespace MetricsAgent.Conf

/-- A line of a file with values that are named by `φ`. -/
inductive Line (φ : Type) where
  | fixed (text : String)
  | filled (before : String) (field : φ) (after : String)
  deriving DecidableEq, Repr

/-- The lines of a file. -/
abbrev Outline (φ : Type) := List (Line φ)

variable {φ : Type}

/-- A line with a value in double quotes, and more text after the value within them. -/
def Line.quoted (before : String) (field : φ) (more : String := "") : Line φ :=
  .filled (before ++ " \"") field (more ++ "\"")

/-- A line that ends in a value. -/
def Line.bare (before : String) (field : φ) : Line φ :=
  .filled (before ++ " ") field ""

/-- The text of a line. -/
def Line.fill (value : φ → String) : Line φ → String
  | .fixed text => text
  | .filled before field after => before ++ value field ++ after

/-- The text of a file: each line ends with a line break. -/
def Outline.fill (o : Outline φ) (value : φ → String) : String :=
  String.join (o.map fun line => line.fill value ++ "\n")

end MetricsAgent.Conf
