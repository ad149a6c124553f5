import MetricsAgent.Settings.Record
import MetricsAgent.Yaml.Node

/-!
# Settings in YAML

Settings are written as a YAML document.  Scalars have no types of their own: a plain one is a text,
a truth value or a number as the field asks for, a quoted one only a text.
-/

namespace MetricsAgent

namespace Yaml

/-! ## Typed scalars -/

/-- The full tag of a standard type. -/
def standardTag (name : String) : String := "tag:yaml.org,2002:" ++ name

/-- Whether a scalar may be something else than a text, `tag` being the tag of what it should be. -/
def isUntyped (style : Style) (tag : Option String) (expected : String) : Bool :=
  style == .plain || (style == .literal && tag == some expected)

def truth? (text : String) : Option Bool :=
  if ["true", "True", "TRUE"].contains text then some true
  else if ["false", "False", "FALSE"].contains text then some false
  else none

def isNull (text : String) : Bool :=
  ["null", "Null", "NULL", "~"].contains text

/-- The value of digits in a base of at most 16. -/
def digits? (base : Nat) (digits : List Char) : Option Nat :=
  if digits = [] then none
  else digits.foldlM (fun n c => do
    let d ← Unicode.hexDigit? c
    if d < base then some (base * n + d) else none) 0

/-- A whole number: decimal without leading zeros, or with the mark of its base. -/
def natural? (text : List Char) : Option Nat :=
  let text := match text with
    | '+' :: rest => rest
    | _ => text
  match text with
  | '0' :: 'x' :: rest => digits? 16 rest
  | '0' :: 'o' :: rest => digits? 8 rest
  | '0' :: 'b' :: rest => digits? 2 rest
  | ['0'] => some 0
  | '0' :: _ => none
  | _ => digits? 10 text

/-! ## Nodes as trees of records -/

/-- The members of a mapping by their keys.  Nothing at all stands for an empty mapping. -/
def Document.members? (d : Document) (n : Node) : Option (List (String × Node)) :=
  match d.resolve n with
  | .map members => members.mapM fun m =>
    match d.resolve m.1 with
    | .scalar key _ _ => some (key, m.2)
    | _ => none
  | .scalar "" .plain _ => some []
  | _ => none

def Document.form (d : Document) : Form Node where
  members? _ n := d.members? n
  items? n := match d.resolve n with
    | .list items => some items
    | .scalar "" .plain _ => some []
    | _ => none
  text? n := match d.resolve n with
    | .scalar text _ _ => some text
    | _ => none
  bool? n := match d.resolve n with
    | .scalar text style tag => if isUntyped style tag (standardTag "bool") then truth? text else none
    | _ => none
  uint64? n := match d.resolve n with
    | .scalar text style tag =>
      if isUntyped style tag (standardTag "int") then do
        let value ← natural? text.toList
        if value < UInt64.size then some (UInt64.ofNat value) else none
      else none
    | _ => none
  isPresent? n := match d.resolve n with
    | .scalar text .plain tag =>
      if tag = some (standardTag "null") then if isNull text then some false else none
      else if tag.isSome then some true
      else some (text != "" && !isNull text)
    | _ => some true

end Yaml

namespace Settings

/-- The settings of a YAML text, which need not be valid. -/
def ofYaml? (text : String) : Option Settings := do
  let d ← Yaml.Document.ofText? text
  ofTree? d.form d.root

/-- Valid settings of a YAML text. -/
def parse (text : String) : Except SettingsError Settings := do
  match ofYaml? text with
  | none => .error .malformed
  | some s => s.validate.map fun _ => s

end Settings

end MetricsAgent
