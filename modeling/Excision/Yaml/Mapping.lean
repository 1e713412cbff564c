import Excision.Yaml.Token

/-!
# YAML mappings of scalars

The document that tokens make up, as far as a job needs it: a single document that is one
scalar, or one mapping whose keys and values are scalars or aliases of them. An alias stands
for the scalar that has its anchor. Every anchor gets a number, which is how many names of
anchors there are before it, and a name stands for the number that it got last; when a name
has been given twice, a later anchor can get a number that is taken, and then takes over
the aliases of it.
-/

namespace Excision

namespace Yaml

/-- A scalar with its tag. -/
structure Scalar where
  /-- The tag, written out in full. -/
  tag : Option Text := none
  style : Style := .plain
  text : Text := []
deriving DecidableEq, Repr

/-- A key or a value of a mapping. -/
inductive Leaf where
  | scalar (anchor : Option Text) (scalar : Scalar)
  | alias (name : Text)
deriving DecidableEq, Repr

/-- A leaf that is left out. -/
def Leaf.empty : Leaf := .scalar none {}

/-- What a document holds. -/
inductive Content where
  | scalar (scalar : Scalar)
  | mapping (anchor : Option Text) (pairs : List (Leaf × Leaf))
deriving DecidableEq, Repr

/-! ### Tags -/

/-- The handles of tags with the beginnings for which they stand. -/
abbrev Handles := List (Text × Text)

/-- The beginning of the tags of the types that YAML knows itself. -/
def coreTag : Text := "tag:yaml.org,2002:".toList

/-- The handles that need no directive. -/
def commonHandles : Handles := [(['!'], ['!']), (['!', '!'], coreTag)]

/-- A tag written out in full. The handle must be known, or empty for a tag that is complete
already. -/
def fullTag? (handles : Handles) (handle suffix : Text) : Option Text :=
  if handle = [] then some suffix else (handles.lookup handle).map (· ++ suffix)

/-- The anchor and the tag before a node, in either order, and the tokens after them. -/
def properties? (handles : Handles) :
    List Token → Option (Option Text × Option Text × List Token)
  | .anchor name :: .tag handle suffix :: tokens
  | .tag handle suffix :: .anchor name :: tokens =>
    (fullTag? handles handle suffix).map fun tag => (some name, some tag, tokens)
  | .anchor name :: tokens => some (some name, none, tokens)
  | .tag handle suffix :: tokens =>
    (fullTag? handles handle suffix).map fun tag => (none, some tag, tokens)
  | tokens => some (none, none, tokens)

/-! ### Leaves and pairs -/

/-- The leaf here, and the tokens after it. A tag that is only an exclamation mark says
nothing about a scalar. An anchor or a tag may stand before nothing. -/
def leaf? (handles : Handles) : List Token → Option (Leaf × List Token)
  | .alias name :: tokens => some (.alias name, tokens)
  | tokens => do
    let (anchor, tag, tokens) ← properties? handles tokens
    match tokens with
    | .scalar style text :: tokens =>
      return (.scalar anchor ⟨tag.filter (· != ['!']), style, text⟩, tokens)
    | .blockStart :: _ | .flowStart :: _ => none
    | tokens =>
      if anchor.isNone && tag.isNone then none
      else some (.scalar anchor { tag }, tokens)

/-- The leaf here, which may be left out before a token for which `ends` holds. -/
def leafBefore? (handles : Handles) (ends : Token → Bool) (tokens : List Token) :
    Option (Leaf × List Token) :=
  if tokens.head?.any ends then some (.empty, tokens) else leaf? handles tokens

/-- The value here, with the token that announces it. Without that there is none. -/
def valueBefore? (handles : Handles) (ends : Token → Bool) :
    List Token → Option (Leaf × List Token)
  | .value :: tokens => leafBefore? handles ends tokens
  | tokens => some (.empty, tokens)

/-- Whether a token ends a key or a value of a mapping marked by its indentation. -/
def endsBlockLeaf (token : Token) : Bool :=
  token == .key || token == .value || token == .blockEnd

/-- Whether a token ends a value between braces. -/
def endsFlowValue (token : Token) : Bool := token == .flowEntry || token == .flowEnd

/-- Whether a token ends a key between braces. -/
def endsFlowKey (token : Token) : Bool := token == .value || endsFlowValue token

/-- At most `count` pairs of a mapping marked by its indentation, and the tokens after its
end. -/
def blockPairs? (handles : Handles) :
    (count : Nat) → List Token → Option (List (Leaf × Leaf) × List Token)
  | _, .blockEnd :: tokens => some ([], tokens)
  | count + 1, .key :: tokens => do
    let (key, tokens) ← leafBefore? handles endsBlockLeaf tokens
    let (value, tokens) ← valueBefore? handles endsBlockLeaf tokens
    let (pairs, tokens) ← blockPairs? handles count tokens
    return ((key, value) :: pairs, tokens)
  | _, _ => none

/-- A pair between braces. Without the token that announces a key, the key is all of it. -/
def flowPair? (handles : Handles) : List Token → Option ((Leaf × Leaf) × List Token)
  | .key :: tokens => do
    let (key, tokens) ← leafBefore? handles endsFlowKey tokens
    let (value, tokens) ← valueBefore? handles endsFlowValue tokens
    return ((key, value), tokens)
  | tokens => (leaf? handles tokens).map fun (key, tokens) => ((key, .empty), tokens)

/-- At most `count` pairs between braces, and the tokens after the closing one. There is a
comma between two pairs, and there may be one after the last. -/
def flowPairs? (handles : Handles) :
    (count : Nat) → List Token → Option (List (Leaf × Leaf) × List Token)
  | _, .flowEnd :: tokens => some ([], tokens)
  | count + 1, tokens => do
    let (pair, tokens) ← flowPair? handles tokens
    match tokens with
    | .flowEnd :: tokens => return ([pair], tokens)
    | .flowEntry :: tokens =>
      let (pairs, tokens) ← flowPairs? handles count tokens
      return (pair :: pairs, tokens)
    | _ => none
  | 0, _ => none

/-! ### Documents -/

/-- What a document holds, and the tokens after it. -/
def content? (handles : Handles) (tokens : List Token) : Option (Content × List Token) := do
  let (anchor, tag, inner) ← properties? handles tokens
  match inner with
  | .blockStart :: inner =>
    let (pairs, rest) ← blockPairs? handles inner.length inner
    return (.mapping anchor pairs, rest)
  | .flowStart :: inner =>
    let (pairs, rest) ← flowPairs? handles inner.length inner
    return (.mapping anchor pairs, rest)
  | .scalar style text :: rest => return (.scalar ⟨tag, style, text⟩, rest)
  | _ => if anchor.isNone && tag.isNone then none else some (.scalar { tag }, inner)

/-- Whether a token is a directive. -/
def isDirective : Token → Bool
  | .version .. | .tagHandle .. => true
  | _ => false

/-- Whether a token ends a document. -/
def endsDocument (token : Token) : Bool :=
  isDirective token || token == .documentStart || token == .documentEnd

/-- The handles that directives make known. The version may stand once, and must be one of
the known ones; no handle may stand twice. -/
def handles? (directives : List Token) : Option Handles := do
  let versions := directives.filterMap fun
    | .version major minor => some (major, minor)
    | _ => none
  let handles := directives.filterMap fun
    | .tagHandle handle meaning => some (handle, meaning)
    | _ => none
  if versions.length ≤ 1 && versions.all (fun v => v == (1, 1) || v == (1, 2))
      && (handles.map Prod.fst).Nodup then
    return handles ++ commonHandles
  else none

/-- What the only document of a text holds. A text without a document holds an empty
scalar. -/
def onlyContent? (tokens : List Token) : Option Content := do
  let (content, rest) ← match tokens with
    | [] => some (.scalar {}, [])
    | first :: _ =>
      if isDirective first || first == .documentStart then do
        let handles ← handles? (tokens.takeWhile isDirective)
        match tokens.dropWhile isDirective with
        | .documentStart :: inner =>
          if inner.head?.all endsDocument then some (.scalar {}, inner)
          else content? handles inner
        | _ => none
      else content? commonHandles tokens
  if rest.all (· == .documentEnd) then return content else none

/-! ### Aliases -/

/-- The anchors of a document. -/
structure Anchors where
  /-- The number that a name got last. Every name stands once. -/
  numbers : List (Text × Nat) := []
  /-- What has a number, the latest first. Only scalars can stand for an alias. -/
  targets : List (Nat × Option Scalar) := []

namespace Anchors

/-- The anchors with one more. -/
def add (anchors : Anchors) (name : Text) (target : Option Scalar) : Anchors :=
  let number := anchors.numbers.length
  { numbers := (name, number) :: anchors.numbers.filter (·.1 != name)
    targets := (number, target) :: anchors.targets }

/-- The anchors with that of a node. -/
def addGiven (anchors : Anchors) (name : Option Text) (target : Option Scalar) : Anchors :=
  match name with
  | some name => anchors.add name target
  | none => anchors

/-- A leaf with the number in the place of the name of an alias, which must be known, and the
anchors after it. -/
def enter? (anchors : Anchors) : Leaf → Option ((Scalar ⊕ Nat) × Anchors)
  | .alias name => (anchors.numbers.lookup name).map fun number => (.inr number, anchors)
  | .scalar anchor scalar => some (.inl scalar, anchors.addGiven anchor (some scalar))

/-- The pairs with numbers in the place of the names of aliases, and the anchors after
them. -/
def enterPairs? :
    Anchors → List (Leaf × Leaf) → Option (List ((Scalar ⊕ Nat) × (Scalar ⊕ Nat)) × Anchors)
  | anchors, [] => some ([], anchors)
  | anchors, (key, value) :: pairs => do
    let (key, anchors) ← anchors.enter? key
    let (value, anchors) ← anchors.enter? value
    let (pairs, anchors) ← enterPairs? anchors pairs
    return ((key, value) :: pairs, anchors)

/-- The scalar that a leaf is or stands for. -/
def scalar? (anchors : Anchors) : Scalar ⊕ Nat → Option Scalar
  | .inl scalar => some scalar
  | .inr number => (anchors.targets.lookup number).join

end Anchors

/-- The pairs of a mapping with the scalars for which aliases stand. -/
def scalarPairs? (anchor : Option Text) (pairs : List (Leaf × Leaf)) :
    Option (List (Scalar × Scalar)) := do
  let (numbered, anchors) ← (({} : Anchors).addGiven anchor none).enterPairs? pairs
  numbered.mapM fun (key, value) => do
    return (← anchors.scalar? key, ← anchors.scalar? value)

end Yaml

end Excision
