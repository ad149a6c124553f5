import MetricsAgent.Yaml.Token

/-!
# YAML nodes

The tokens of a YAML text stand for a tree of scalars, lists and mappings.  A node may be anchored,
and an alias stands for the node with its anchor.  A text holds one document.
-/

namespace MetricsAgent.Yaml

inductive Node where
  | scalar (text : String) (style : Style) (tag : Option String)
  | list (items : List Node)
  | map (members : List (Node × Node))
  /-- A node with the number of its anchor. -/
  | anchored (id : Nat) (node : Node)
  | alias (id : Nat)

/-- What stands where nothing is written. -/
def Node.empty : Node := .scalar "" .plain none

/-! ## Tags -/

/-- What the handles of tags stand for. -/
abbrev Handles := List (String × String)

def standardHandles : Handles :=
  [("!", "!"), ("!!", "tag:yaml.org,2002:")]

/-- The full tag of a handle and the text after it. -/
def fullTag? (handles : Handles) (handle suffix : String) : Option String :=
  if handle = "" then some suffix else (handles.lookup handle).map (· ++ suffix)

/-! ## Anchors -/

/-- The anchors seen so far with their numbers. -/
abbrev Anchors := List (String × Nat)

/-- Gives an anchor its number: how many names there are before it. -/
def Anchors.define (anchors : Anchors) (name : String) : Anchors :=
  (name, anchors.length) :: anchors.filter (·.1 != name)

/-- What comes before the content of a node. -/
structure Properties where
  anchor : Option String
  tag : Option String

/-- Splits off an anchor and a tag, in either order. -/
def properties? (handles : Handles) : List Token → Option (Properties × List Token)
  | .anchor a :: .tag h s :: rest => (fullTag? handles h s).map (⟨some a, some ·⟩, rest)
  | .tag h s :: .anchor a :: rest => (fullTag? handles h s).map (⟨some a, some ·⟩, rest)
  | .anchor a :: rest => some (⟨some a, none⟩, rest)
  | .tag h s :: rest => (fullTag? handles h s).map (⟨none, some ·⟩, rest)
  | rest => some (⟨none, none⟩, rest)

/-- The anchors after a node with these properties has begun. -/
def Properties.enter (p : Properties) (anchors : Anchors) : Anchors :=
  match p.anchor with
  | none => anchors
  | some name => anchors.define name

/-- The node with these properties, given the anchors before it. -/
def Properties.wrap (p : Properties) (anchors : Anchors) (n : Node) : Node :=
  match p.anchor with
  | none => n
  | some _ => .anchored anchors.length n

/-! ## Grammar

Each part of the tree is read with the anchors before it, and returned with those after it and the
tokens that are left.
-/

/-- Whether nothing is written where a node of a block collection may stand. -/
def endsEntry : List Token → Bool
  | [] => true
  | t :: _ => t == .entry || t == .blockEnd

def endsIndentlessEntry : List Token → Bool
  | [] => true
  | t :: _ => t == .entry || t == .key || t == .value || t == .blockEnd

def endsMember : List Token → Bool
  | [] => true
  | t :: _ => t == .key || t == .value || t == .blockEnd

/-- Whether nothing is written where a node of a flow collection may stand. -/
def endsFlowMember (close : Token) : List Token → Bool
  | [] => true
  | t :: _ => t == .comma || t == close

def endsFlowKey (close : Token) (tokens : List Token) : Bool :=
  endsFlowMember close tokens || tokens.head? == some .value

/-- Where a node stands. -/
inductive Place where
  | block
  /-- In a member of a block mapping, where a list need not be indented. -/
  | member
  | flow
  deriving DecidableEq

mutual
/-- The node at the beginning of the tokens. -/
def node? (handles : Handles) (place : Place) (anchors : Anchors) (tokens : List Token) :
    (fuel : Nat) → Option (Node × Anchors × List Token)
  | 0 => none
  | fuel + 1 =>
    match tokens with
    | .alias name :: rest => (anchors.lookup name).map fun id => (.alias id, anchors, rest)
    | _ => do
      let (properties, tokens) ← properties? handles tokens
      let (n, after, rest) ←
        content? handles place properties (properties.enter anchors) tokens fuel
      return (properties.wrap anchors n, after, rest)

/-- The node at the beginning of the tokens without its anchor and tag. -/
def content? (handles : Handles) (place : Place) (properties : Properties) (anchors : Anchors)
    (tokens : List Token) : (fuel : Nat) → Option (Node × Anchors × List Token)
  | 0 => none
  | fuel + 1 =>
    match tokens with
    | .entry :: rest =>
      if place = .member then do
        let (items, anchors, rest) ← indentlessItems? handles anchors (.entry :: rest) fuel
        return (.list items, anchors, rest)
      else if properties.anchor.isSome ∨ properties.tag.isSome then
        some (.scalar "" .plain properties.tag, anchors, tokens)
      else none
    | .scalar text style :: rest => some (.scalar text style properties.tag, anchors, rest)
    | .flowListStart :: rest => do
      let (items, anchors, rest) ← flowItems? handles true anchors rest fuel
      return (.list items, anchors, rest)
    | .flowMapStart :: rest => do
      let (members, anchors, rest) ← flowMembers? handles true anchors rest fuel
      return (.map members, anchors, rest)
    | .blockListStart :: rest =>
      if place = .flow then none
      else do
        let (items, anchors, rest) ← blockItems? handles anchors rest fuel
        return (.list items, anchors, rest)
    | .blockMapStart :: rest =>
      if place = .flow then none
      else do
        let (members, anchors, rest) ← blockMembers? handles anchors rest fuel
        return (.map members, anchors, rest)
    | _ =>
      if properties.anchor.isSome ∨ properties.tag.isSome then
        some (.scalar "" .plain properties.tag, anchors, tokens)
      else none

/-- The node of an entry or member, which is empty if its end comes next. -/
def nodeUnless? (handles : Handles) (place : Place) (ended : Bool) (anchors : Anchors)
    (tokens : List Token) : (fuel : Nat) → Option (Node × Anchors × List Token)
  | 0 => none
  | fuel + 1 =>
    if ended then some (.empty, anchors, tokens) else node? handles place anchors tokens fuel

/-- The items of a list in block style. -/
def blockItems? (handles : Handles) (anchors : Anchors) (tokens : List Token) :
    (fuel : Nat) → Option (List Node × Anchors × List Token)
  | 0 => none
  | fuel + 1 =>
    match tokens with
    | .entry :: rest => do
      let (n, anchors, rest) ← nodeUnless? handles .block (endsEntry rest) anchors rest fuel
      let (ns, anchors, rest) ← blockItems? handles anchors rest fuel
      return (n :: ns, anchors, rest)
    | .blockEnd :: rest => some ([], anchors, rest)
    | _ => none

/-- The items of a list in block style that is not indented in its mapping. -/
def indentlessItems? (handles : Handles) (anchors : Anchors) (tokens : List Token) :
    (fuel : Nat) → Option (List Node × Anchors × List Token)
  | 0 => none
  | fuel + 1 =>
    match tokens with
    | .entry :: rest => do
      let (n, anchors, rest) ←
        nodeUnless? handles .block (endsIndentlessEntry rest) anchors rest fuel
      let (ns, anchors, rest) ← indentlessItems? handles anchors rest fuel
      return (n :: ns, anchors, rest)
    | _ => some ([], anchors, tokens)

/-- The members of a mapping in block style. -/
def blockMembers? (handles : Handles) (anchors : Anchors) (tokens : List Token) :
    (fuel : Nat) → Option (List (Node × Node) × Anchors × List Token)
  | 0 => none
  | fuel + 1 =>
    match tokens with
    | .key :: rest => do
      let (k, anchors, rest) ← nodeUnless? handles .member (endsMember rest) anchors rest fuel
      let (v, anchors, rest) ← match rest with
        | .value :: rest => nodeUnless? handles .member (endsMember rest) anchors rest fuel
        | _ => some (.empty, anchors, rest)
      let (ms, anchors, rest) ← blockMembers? handles anchors rest fuel
      return ((k, v) :: ms, anchors, rest)
    | .blockEnd :: rest => some ([], anchors, rest)
    | _ => none

/-- The value of a member in flow style, if there is one. -/
def flowValue? (handles : Handles) (close : Token) (anchors : Anchors) (tokens : List Token) :
    (fuel : Nat) → Option (Node × Anchors × List Token)
  | 0 => none
  | fuel + 1 =>
    match tokens with
    | .value :: rest => nodeUnless? handles .flow (endsFlowMember close rest) anchors rest fuel
    | _ => some (.empty, anchors, tokens)

/-- The items of a list in flow style.  A member without braces is a mapping of its own. -/
def flowItems? (handles : Handles) (first : Bool) (anchors : Anchors) (tokens : List Token) :
    (fuel : Nat) → Option (List Node × Anchors × List Token)
  | 0 => none
  | fuel + 1 =>
    match tokens with
    | .flowListEnd :: rest => some ([], anchors, rest)
    | _ => do
      let tokens ← match first, tokens with
        | true, _ => some tokens
        | false, .comma :: rest => some rest
        | false, _ => none
      match tokens with
      | .flowListEnd :: rest => return ([], anchors, rest)
      | .key :: rest =>
        let (k, anchors, rest) ←
          nodeUnless? handles .flow (endsFlowKey .flowListEnd rest) anchors rest fuel
        let (v, anchors, rest) ← flowValue? handles .flowListEnd anchors rest fuel
        let (ns, anchors, rest) ← flowItems? handles false anchors rest fuel
        return (.map [(k, v)] :: ns, anchors, rest)
      | _ =>
        let (n, anchors, rest) ← node? handles .flow anchors tokens fuel
        let (ns, anchors, rest) ← flowItems? handles false anchors rest fuel
        return (n :: ns, anchors, rest)

/-- The members of a mapping in flow style. -/
def flowMembers? (handles : Handles) (first : Bool) (anchors : Anchors) (tokens : List Token) :
    (fuel : Nat) → Option (List (Node × Node) × Anchors × List Token)
  | 0 => none
  | fuel + 1 =>
    match tokens with
    | .flowMapEnd :: rest => some ([], anchors, rest)
    | _ => do
      let tokens ← match first, tokens with
        | true, _ => some tokens
        | false, .comma :: rest => some rest
        | false, _ => none
      match tokens with
      | .flowMapEnd :: rest => return ([], anchors, rest)
      | .key :: rest =>
        let (k, anchors, rest) ←
          nodeUnless? handles .flow (endsFlowKey .flowMapEnd rest) anchors rest fuel
        let (v, anchors, rest) ← flowValue? handles .flowMapEnd anchors rest fuel
        let (ms, anchors, rest) ← flowMembers? handles false anchors rest fuel
        return ((k, v) :: ms, anchors, rest)
      | _ =>
        let (k, anchors, rest) ← node? handles .flow anchors tokens fuel
        let (ms, anchors, rest) ← flowMembers? handles false anchors rest fuel
        return ((k, .empty) :: ms, anchors, rest)
end

/-! ## Documents -/

/-- The directives before a document: whether a version was given, and the handles of tags. -/
def directives? (version : Bool) (handles : Handles) : List Token → Option (Handles × List Token)
  | .version major minor :: rest =>
    if version ∨ major ≠ 1 ∨ (minor ≠ 1 ∧ minor ≠ 2) then none else directives? true handles rest
  | .tagHandle h meaning :: rest =>
    if (handles.lookup h).isSome then none else directives? version ((h, meaning) :: handles) rest
  | rest => some (handles ++ standardHandles, rest)

def isDirective : Token → Bool
  | .version _ _ | .tagHandle _ _ => true
  | _ => false

/-- Whether a token comes after a document. -/
def endsDocument (t : Token) : Bool :=
  isDirective t || t == .documentStart || t == .documentEnd

/-- How many calls the tree of some tokens may take. -/
def fuelFor (tokens : List Token) : Nat := 4 * tokens.length + 4

/-- The root of the first document of some tokens, and the tokens after it. -/
def root? (tokens : List Token) : Option (Node × List Token) :=
  match tokens with
  | [] => some (.empty, [])
  | t :: _ =>
    if isDirective t ∨ t = .documentStart then do
      let (handles, tokens) ← directives? false [] tokens
      match tokens with
      | .documentStart :: rest =>
        if rest.head?.all endsDocument then some (.empty, rest)
        else
          let (n, _, rest) ← node? handles .block [] rest (fuelFor rest)
          return (n, rest)
      | _ => none
    else do
      let (n, _, rest) ← node? standardHandles .block [] tokens (fuelFor tokens)
      return (n, rest)

mutual
/-- The anchored nodes of a tree by their numbers, in reading order. -/
def Node.anchors : Node → List (Nat × Node)
  | .scalar _ _ _ => []
  | .list items => anchorsOfItems items
  | .map members => anchorsOfMembers members
  | .anchored id n => (id, n) :: n.anchors
  | .alias _ => []

def Node.anchorsOfItems : List Node → List (Nat × Node)
  | [] => []
  | n :: rest => n.anchors ++ anchorsOfItems rest

def Node.anchorsOfMembers : List (Node × Node) → List (Nat × Node)
  | [] => []
  | (k, v) :: rest => k.anchors ++ v.anchors ++ anchorsOfMembers rest
end

/-- A document: its root, and the nodes that aliases stand for. -/
structure Document where
  root : Node
  anchored : List (Nat × Node)

/-- The document of a text that holds no second one. -/
def Document.ofText? (text : String) : Option Document := do
  let (root, rest) ← root? (← tokens? text)
  if rest.all (· == .documentEnd) then some ⟨root, root.anchors.reverse⟩ else none

/-- The node that a node stands for; of a number that was given twice the last node counts. -/
def Document.resolve (d : Document) : Node → Node
  | .alias id => (d.anchored.lookup id).getD .empty
  | .anchored _ n => n
  | n => n

end MetricsAgent.Yaml
