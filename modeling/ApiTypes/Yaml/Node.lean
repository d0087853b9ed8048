/-
Nodes: the scalars, lists and mappings that tokens describe.

An alias stands for the node of its anchor, which must be complete. A mapping takes the entries of the mappings under
its merge keys, in front of its own.

Main statement: `merged_own`, a mapping without merge keys keeps its entries, but for a key `=`, which is a text.
-/
import ApiTypes.Yaml.Kind
import ApiTypes.Yaml.Token

namespace ApiTypes.Yaml

inductive Node where
  | scalar (kind : Kind) (text : String)
  | list (kind : Kind) (items : List Node)
  | map (kind : Kind) (entries : List (Node × Node))
  /-- a mapping with something under a merge key that is no mapping -/
  | unmerged (kind : Kind)
  deriving Repr

namespace Node

instance : Inhabited Node := ⟨.scalar .null ""⟩

def kind : Node → Kind
  | scalar kind _ => kind
  | list kind _ => kind
  | map kind _ => kind
  | unmerged kind => kind

/-- what stands where nothing is written -/
def nothing : Node := .scalar .null ""

/-! ## Merge keys -/

def entries? : Node → Option (List (Node × Node))
  | map _ entries => some entries
  | _ => none

/-- the entries that the value of a merge key gives: those of a mapping, or of a list of mappings, the last one first -/
def mergedEntries? : Node → Option (List (Node × Node))
  | map _ entries => some entries
  | list _ items => (items.mapM entries?).map fun groups => groups.reverse.flatten
  | _ => none

def asText : Node → Node
  | scalar .standard text => .scalar .text text
  | other => other

def isMerge (entry : Node × Node) : Bool := entry.1.kind == .merge

/-- the entries under other keys than merge keys -/
def own (entries : List (Node × Node)) : List (Node × Node) :=
  (entries.filter (!isMerge ·)).map fun e => (e.1.asText, e.2)

/-- a mapping with its merge keys resolved -/
def ofEntries (kind : Kind) (entries : List (Node × Node)) : Node :=
  match (entries.filter isMerge).mapM fun e => e.2.mergedEntries? with
  | some groups => .map kind (groups.flatten ++ own entries)
  | none => .unmerged kind

theorem merged_own (kind : Kind) {entries : List (Node × Node)} (h : ∀ e ∈ entries, isMerge e = false) :
    ofEntries kind entries = .map kind (entries.map fun e => (e.1.asText, e.2)) := by
  have none_merge : entries.filter isMerge = [] := List.filter_eq_nil_iff.2 fun e he => by simp [h e he]
  have all_own : entries.filter (!isMerge ·) = entries := List.filter_eq_self.2 fun e he => by simp [h e he]
  simp [ofEntries, none_merge, own, all_own]

/-! ## From tokens -/

/-- the tokens that are left, and what was declared before them -/
structure Source where
  tokens : List Token
  /-- the starts of tags that handles stand for -/
  handles : List (String × String) := []
  /-- the nodes of anchors; nothing while a node is incomplete -/
  anchors : List (String × Option Node) := []

abbrev Parse (α : Type) := StateT Source Option α

def next? : Parse (Option Token) := fun s => some (s.tokens.head?, s)

def advance : Parse Unit := fun s => some ((), { s with tokens := s.tokens.tail })

def fail {α : Type} : Parse α := fun _ => none

/-- is the next token one of these, or are there none left where the end counts too? -/
def nextIn (tokens : List Token) : Parse Bool := do
  match ← next? with
  | some token => return tokens.contains token
  | none => return false

/-- the tag in full -/
def expand (handle : Option String) (suffix : String) : Parse String := fun s =>
  match handle with
  | none => some (suffix, s)
  | some handle => (s.handles.lookup handle).map fun start => (start ++ suffix, s)

def tag? : Parse (Option String) := do
  match ← next? with
  | some (.tag handle suffix) => do
    advance
    return some (← expand handle suffix)
  | _ => return none

def anchor? : Parse (Option String) := do
  match ← next? with
  | some (.anchor name) => do
    advance
    return some name
  | _ => return none

/-- the anchor and the tag in front of a node, in either order -/
def properties : Parse (Option String × Option String) := do
  match ← anchor? with
  | some name => return (some name, ← tag?)
  | none => do
    match ← tag? with
    | some tag => return (← anchor?, some tag)
    | none => return (none, none)

/-- an anchor before its node; each may be declared once -/
def declare : Option String → Parse Unit
  | none => return ()
  | some name => fun s =>
    if (s.anchors.lookup name).isSome then none else some ((), { s with anchors := (name, none) :: s.anchors })

/-- an anchor with its node -/
def complete (node : Node) : Option String → Parse Unit
  | none => return ()
  | some name => fun s => some ((), { s with anchors := (name, some node) :: s.anchors })

/-- the node of an alias -/
def referred (name : String) : Parse Node := fun s =>
  match s.anchors.lookup name with
  | some (some node) => some (node, s)
  | _ => none

/-- the kind of a collection by its tag -/
def collectionKind (usual : Kind) : Option String → Kind
  | none => usual
  | some "!" => usual
  | some tag => .ofTag tag

/-- the kind of a scalar: by its tag, or by its form if it is plain -/
def scalarKind (text : String) (plain : Bool) : Option String → Kind
  | none => if plain then .ofForm text else .text
  | some "!" => .ofForm text
  | some tag => .ofTag tag

/-- where a node stands: inside brackets, in a block, or where a list need not be indented further -/
inductive Setting where
  | flow
  | block
  | entry
  deriving DecidableEq, Repr

mutual

def parse (setting : Setting) : (fuel : Nat) → Parse Node
  | 0 => fail
  | fuel + 1 => do
    match ← next? with
    | some (.alias name) => do
      advance
      referred name
    | _ => do
      let (anchor, tag) ← properties
      declare anchor
      let node ← parseContent setting (anchor.isSome || tag.isSome) tag fuel
      complete node anchor
      return node

/-- a node behind its anchor and tag; `given` says that there is one of them, so that nothing need follow -/
def parseContent (setting : Setting) (given : Bool) (tag : Option String) : (fuel : Nat) → Parse Node
  | 0 => fail
  | fuel + 1 => do
    match ← next? with
    | some (.scalar text plain) => do
      advance
      return .scalar (scalarKind text plain tag) text
    | some .openList => do
      advance
      return .list (collectionKind .list tag) (← parseFlowItems true fuel)
    | some .openMap => do
      advance
      return ofEntries (collectionKind .map tag) (← parseFlowEntries true fuel)
    | some token =>
      if token = .item ∧ setting = .entry then return .list (collectionKind .list tag) (← parseBareItems fuel)
      else if token = .listStart ∧ setting ≠ .flow then do
        advance
        return .list (collectionKind .list tag) (← parseItems fuel)
      else if token = .mapStart ∧ setting ≠ .flow then do
        advance
        return ofEntries (collectionKind .map tag) (← parseEntries fuel)
      else if given then return .scalar (scalarKind "" true tag) ""
      else fail
    | none => if given then return .scalar (scalarKind "" true tag) "" else fail

/-- a node, or nothing where one of these tokens follows -/
def parseUnless (setting : Setting) (enders : List Token) : (fuel : Nat) → Parse Node
  | 0 => fail
  | fuel + 1 => do
    if ← nextIn enders then return nothing
    parse setting fuel

/-- the items of an indented list -/
def parseItems : (fuel : Nat) → Parse (List Node)
  | 0 => fail
  | fuel + 1 => do
    match ← next? with
    | some .item => do
      advance
      let item ← parseUnless .block [.item, .blockEnd] fuel
      return item :: (← parseItems fuel)
    | some .blockEnd => do
      advance
      return []
    | _ => fail

/-- the items of a list that is not indented further than the mapping that holds it -/
def parseBareItems : (fuel : Nat) → Parse (List Node)
  | 0 => fail
  | fuel + 1 => do
    match ← next? with
    | some .item => do
      advance
      let item ← parseUnless .block [.item, .key, .value, .blockEnd] fuel
      return item :: (← parseBareItems fuel)
    | _ => return []

/-- the entries of an indented mapping -/
def parseEntries : (fuel : Nat) → Parse (List (Node × Node))
  | 0 => fail
  | fuel + 1 => do
    match ← next? with
    | some .key => do
      advance
      let key ← parseUnless .entry [.key, .value, .blockEnd] fuel
      let value ← parseValue .entry [.key, .value, .blockEnd] fuel
      return (key, value) :: (← parseEntries fuel)
    | some .blockEnd => do
      advance
      return []
    | _ => fail

/-- the value of a key, which may be left out -/
def parseValue (setting : Setting) (enders : List Token) : (fuel : Nat) → Parse Node
  | 0 => fail
  | fuel + 1 => do
    match ← next? with
    | some .value => do
      advance
      parseUnless setting enders fuel
    | _ => return nothing

/-- the items of a list in brackets; after the first, each follows a comma -/
def parseFlowItems (first : Bool) : (fuel : Nat) → Parse (List Node)
  | 0 => fail
  | fuel + 1 => do
    if ← nextIn [.closeList] then do
      advance
      return []
    if !first then do
      if !(← nextIn [.comma]) then fail
      advance
    match ← next? with
    | some .closeList => do
      advance
      return []
    | some .key => do
      advance
      let key ← parseUnless .flow [.value, .comma, .closeList] fuel
      let value ← parseValue .flow [.comma, .closeList] fuel
      return ofEntries .map [(key, value)] :: (← parseFlowItems false fuel)
    | _ => do
      let item ← parse .flow fuel
      return item :: (← parseFlowItems false fuel)

/-- the entries of a mapping in brackets; after the first, each follows a comma -/
def parseFlowEntries (first : Bool) : (fuel : Nat) → Parse (List (Node × Node))
  | 0 => fail
  | fuel + 1 => do
    if ← nextIn [.closeMap] then do
      advance
      return []
    if !first then do
      if !(← nextIn [.comma]) then fail
      advance
    match ← next? with
    | some .closeMap => do
      advance
      return []
    | some .key => do
      advance
      let key ← parseUnless .flow [.value, .comma, .closeMap] fuel
      let value ← parseValue .flow [.comma, .closeMap] fuel
      return (key, value) :: (← parseFlowEntries false fuel)
    | _ => do
      let key ← parse .flow fuel
      return (key, nothing) :: (← parseFlowEntries false fuel)

end

/-! ## Documents -/

def standardHandles : List (String × String) := [("!", "!"), ("!!", Kind.tagStart)]

/-- the handles that directives declare, in front of the standard ones; `version` says that one was given -/
def directives : List Token → (version : Bool) → (handles : List (String × String)) →
    Option (List (String × String) × List Token)
  | .directive (.version major) :: rest, version, handles =>
    if version || major != 1 then none else directives rest true handles
  | .directive (.handle handle start) :: rest, version, handles =>
    if (handles.lookup handle).isSome then none else directives rest version ((handle, start) :: handles)
  | .directive .other :: rest, version, handles => directives rest version handles
  | rest, _, handles => some (handles ++ standardHandles, rest)

/-- may the node of a document be left out before this token? -/
def endsDocument : Option Token → Bool
  | none => true
  | some .documentStart => true
  | some .documentEnd => true
  | some (.directive _) => true
  | _ => false

/-- enough for every step of the longest descent -/
def fuelFor (tokens : List Token) : Nat := 4 * tokens.length + 4

def parseDocument (handles : List (String × String)) (tokens : List Token) : Option (Node × List Token) :=
  (parse .block (fuelFor tokens) ⟨tokens, handles, []⟩).map fun r => (r.1, r.2.tokens)

/-- the node of the only document, and what follows it -/
def firstDocument (tokens : List Token) : Option (Node × List Token) :=
  match tokens with
  | [] => some (nothing, [])
  | .documentEnd :: _ => none
  | first :: _ =>
    if endsDocument (some first) then
      match directives tokens false [] with
      | some (handles, .documentStart :: rest) =>
        if endsDocument rest.head? then some (nothing, rest) else parseDocument handles rest
      | _ => none
    else parseDocument standardHandles tokens

/-- the node of a text with one document at most -/
def ofTokens? (tokens : List Token) : Option Node := do
  let (node, rest) ← firstDocument tokens
  if rest.all (· == .documentEnd) then some node else none

end Node

end ApiTypes.Yaml
