import SliceSelection.Yaml.Scanner

/-!
# The tree of a document

The lexemes of a document make a tree of scalars, sequences and mappings. A node may carry a tag,
and an anchor under which aliases refer to it. An alias refers to the node of that name that
stands last before it; the number it is given counts the names seen so far, so a name that is
used again moves to a new number, and a later node may take over a number.
-/

namespace SliceSelection.Yaml

/-- What a node carries. -/
structure Properties where
  /-- The number of its anchor. -/
  anchor : Option Nat
  tag : Option String
deriving DecidableEq, Repr

/-- A node of a document. -/
inductive Node where
  | alias (target : Nat)
  | scalar (p : Properties) (style : Style) (text : String)
  | sequence (p : Properties) (items : List Node)
  | mapping (p : Properties) (entries : List (Node × Node))
deriving Repr, Inhabited

/-- Nothing where a node could stand. -/
def Node.empty : Node := .scalar ⟨none, none⟩ .plain ""

/-! ### Reading nodes -/

/-- What is left to read, and the anchors seen so far. -/
structure Pending where
  tokens : List Token
  /-- The numbers of the anchors by name, each name once. -/
  anchors : List (String × Nat)
  /-- What the tag handles stand for. -/
  handles : List (String × String)
deriving Repr

namespace Pending

/-- Go on to other lexemes. -/
def withTokens (s : Pending) (tokens : List Token) : Pending := { s with tokens := tokens }

/-- Name an anchor: its number is the number of names before it. -/
def name (s : Pending) (n : String) : Nat × Pending :=
  (s.anchors.length, { s with anchors := (n, s.anchors.length) :: s.anchors.filter (·.1 != n) })

/-- The tag of a handle and a suffix. -/
def tagOf (s : Pending) (handle suffix : String) : Except Fault String :=
  if handle.isEmpty then .ok suffix
  else match s.handles.lookup handle with
    | some start => .ok (start ++ suffix)
    | none => .error .badTag

/-- Read the properties of a node, in either order. -/
def properties (s : Pending) : Except Fault (Option String × Option String × Pending) :=
  match s.tokens with
  | .anchor a :: .tag h t :: rest => do return (some a, some (← s.tagOf h t), s.withTokens rest)
  | .tag h t :: .anchor a :: rest => do return (some a, some (← s.tagOf h t), s.withTokens rest)
  | .anchor a :: rest => .ok (some a, none, s.withTokens rest)
  | .tag h t :: rest => do return (none, some (← s.tagOf h t), s.withTokens rest)
  | _ => .ok (none, none, s)

end Pending

/-- Whether a lexeme ends an entry of a block. -/
def endsBlockEntry : List Token → Bool
  | .key :: _ => true
  | .value :: _ => true
  | .blockEnd :: _ => true
  | _ => false

/-- Whether a lexeme ends an entry inside of brackets. -/
def endsFlowEntry (close : Token) : List Token → Bool
  | .flowEntry :: _ => true
  | t :: _ => t == close
  | [] => false

/-- Go over the comma before a further entry. -/
def afterComma (first : Bool) (tokens : List Token) : Except Fault (List Token) :=
  if first then .ok tokens
  else match tokens with
    | .flowEntry :: rest => .ok rest
    | _ => .error .badStructure

mutual

/-- Read a node, in at most a number of steps. In a block a node may be a block, and inside of a
mapping a sequence need not be indented further. -/
def readNode (steps : Nat) (inBlock indentless : Bool) (s : Pending) :
    Except Fault (Node × Pending) :=
  match steps with
  | 0 => .error .endOfText
  | steps + 1 =>
    match s.tokens with
    | .alias n :: rest =>
      match s.anchors.lookup n with
      | some target => .ok (.alias target, s.withTokens rest)
      | none => .error .unknownAlias
    | _ => do
      let (anchor, tag, s) ← s.properties
      let (anchor, s) := match anchor with
        | some n => let (k, s) := s.name n; (some k, s)
        | none => (none, s)
      let p : Properties := ⟨anchor, tag⟩
      match s.tokens with
      | .scalar style text :: rest =>
        return (.scalar p style text, s.withTokens rest)
      | .flowSequenceStart :: rest => do
        let (items, s) ← readFlowItems steps true (s.withTokens rest)
        return (.sequence p items, s)
      | .flowMappingStart :: rest => do
        let (entries, s) ← readFlowEntries steps true (s.withTokens rest)
        return (.mapping p entries, s)
      | t :: rest =>
        if indentless && t == .blockEntry then do
          let (items, s) ← readItems steps true s
          return (.sequence p items, s)
        else if inBlock && t == .blockSequenceStart then do
          let (items, s) ← readItems steps false (s.withTokens rest)
          return (.sequence p items, s)
        else if inBlock && t == .blockMappingStart then do
          let (entries, s) ← readEntries steps (s.withTokens rest)
          return (.mapping p entries, s)
        else if p.anchor.isSome || p.tag.isSome then return (.scalar p .plain "", s)
        else throw .badStructure
      | [] =>
        if p.anchor.isSome || p.tag.isSome then return (.scalar p .plain "", s)
        else throw .badStructure

/-- Read the items of a block sequence. One that is not indented ends where no item follows. -/
def readItems (steps : Nat) (indentless : Bool) (s : Pending) :
    Except Fault (List Node × Pending) :=
  match steps with
  | 0 => .error .endOfText
  | steps + 1 =>
    match s.tokens with
    | .blockEntry :: rest => do
      let isEmpty := rest.head? == some .blockEntry || rest.head? == some .blockEnd ||
        (indentless && endsBlockEntry rest)
      let (item, s) ← if isEmpty then pure (Node.empty, s.withTokens rest)
        else readNode steps true false (s.withTokens rest)
      let (items, s) ← readItems steps indentless s
      return (item :: items, s)
    | .blockEnd :: rest => if indentless then .ok ([], s) else .ok ([], s.withTokens rest)
    | _ => if indentless then .ok ([], s) else .error .badStructure

/-- Read the entries of a block mapping. -/
def readEntries (steps : Nat) (s : Pending) : Except Fault (List (Node × Node) × Pending) :=
  match steps with
  | 0 => .error .endOfText
  | steps + 1 =>
    match s.tokens with
    | .key :: rest => do
      let (k, s) ← if endsBlockEntry rest then pure (Node.empty, s.withTokens rest)
        else readNode steps true true (s.withTokens rest)
      let (v, s) ← match s.tokens with
        | .value :: rest =>
          if endsBlockEntry rest then pure (Node.empty, s.withTokens rest)
          else readNode steps true true (s.withTokens rest)
        | _ => pure (Node.empty, s)
      let (entries, s) ← readEntries steps s
      return ((k, v) :: entries, s)
    | .blockEnd :: rest => .ok ([], s.withTokens rest)
    | _ => .error .badStructure

/-- Read the items between brackets, each a node or a single entry of a mapping. -/
def readFlowItems (steps : Nat) (first : Bool) (s : Pending) :
    Except Fault (List Node × Pending) :=
  match steps with
  | 0 => .error .endOfText
  | steps + 1 =>
    match s.tokens with
    | .flowSequenceEnd :: rest => .ok ([], s.withTokens rest)
    | tokens => do
      let tokens ← afterComma first tokens
      match tokens with
      | .flowSequenceEnd :: rest => return ([], s.withTokens rest)
      | .key :: rest =>
        let (k, s) ←
          if rest.head? == some .value || endsFlowEntry .flowSequenceEnd rest then
            pure (Node.empty, s.withTokens (rest.drop 1))
          else readNode steps false false (s.withTokens rest)
        let (v, s) ← readFlowValue steps .flowSequenceEnd s
        let (items, s) ← readFlowItems steps false s
        return (.mapping ⟨none, none⟩ [(k, v)] :: items, s)
      | tokens =>
        let (item, s) ← readNode steps false false (s.withTokens tokens)
        let (items, s) ← readFlowItems steps false s
        return (item :: items, s)

/-- Read the value of an entry between brackets, if there is one. -/
def readFlowValue (steps : Nat) (close : Token) (s : Pending) : Except Fault (Node × Pending) :=
  match steps with
  | 0 => .error .endOfText
  | steps + 1 =>
    match s.tokens with
    | .value :: rest =>
      if endsFlowEntry close rest then .ok (Node.empty, s.withTokens rest)
      else readNode steps false false (s.withTokens rest)
    | _ => .ok (Node.empty, s)

/-- Read the entries between braces; one without a colon has no value. -/
def readFlowEntries (steps : Nat) (first : Bool) (s : Pending) :
    Except Fault (List (Node × Node) × Pending) :=
  match steps with
  | 0 => .error .endOfText
  | steps + 1 =>
    match s.tokens with
    | .flowMappingEnd :: rest => .ok ([], s.withTokens rest)
    | tokens => do
      let tokens ← afterComma first tokens
      match tokens with
      | .flowMappingEnd :: rest => return ([], s.withTokens rest)
      | .key :: rest =>
        let (k, s) ←
          if rest.head? == some .value || endsFlowEntry .flowMappingEnd rest then
            pure (Node.empty, s.withTokens rest)
          else readNode steps false false (s.withTokens rest)
        let (v, s) ← readFlowValue steps .flowMappingEnd s
        let (entries, s) ← readFlowEntries steps false s
        return ((k, v) :: entries, s)
      | tokens =>
        let (k, s) ← readNode steps false false (s.withTokens tokens)
        let (entries, s) ← readFlowEntries steps false s
        return ((k, Node.empty) :: entries, s)

end

/-! ### Documents -/

/-- Take the directives before a document: a version that is understood, and tag handles, each
once. -/
def readDirectives (versioned : Bool) (handles : List (String × String)) :
    List Token → Except Fault (List (String × String) × List Token)
  | .version major minor :: rest =>
    if versioned || major != 1 || (minor != 1 && minor != 2) then .error .badDirective
    else readDirectives true handles rest
  | .tagHandle handle start :: rest =>
    if handles.any (·.1 == handle) then .error .badDirective
    else readDirectives versioned (handles ++ [(handle, start)]) rest
  | rest => .ok (handles, rest)

/-- Whether a document has no content. -/
def isBare : List Token → Bool
  | [] => true
  | .version _ _ :: _ => true
  | .tagHandle _ _ :: _ => true
  | .documentStart :: _ => true
  | .documentEnd :: _ => true
  | _ => false

/-- The tag handles that need not be declared. -/
def defaultHandles : List (String × String) := [("!", "!"), ("!!", "tag:yaml.org,2002:")]

/-- Whether lexemes begin with a directive or an indicator of a document. -/
def beginsExplicitly : List Token → Bool
  | .version _ _ :: _ => true
  | .tagHandle _ _ :: _ => true
  | .documentStart :: _ => true
  | _ => false

/-- Go over the beginning of a document: what its tag handles stand for, and its content. -/
def readBeginning (tokens : List Token) :
    Except Fault (List (String × String) × List Token) :=
  if beginsExplicitly tokens then do
    let (handles, rest) ← readDirectives false [] tokens
    match rest with
    | .documentStart :: rest => return (handles ++ defaultHandles, rest)
    | _ => throw .badStructure
  else .ok (defaultHandles, tokens)

/-- Read the only document that lexemes hold. -/
def Node.ofTokens (tokens : List Token) : Except Fault Node := do
  if tokens.isEmpty then throw .noDocument
  let (handles, rest) ← readBeginning tokens
  let s : Pending := ⟨rest, [], handles⟩
  let (node, s) ← if beginsExplicitly tokens && isBare rest then pure (Node.empty, s)
    else readNode (4 * tokens.length + 4) true false s
  if (s.tokens.dropWhile (· == .documentEnd)).isEmpty then return node else throw .manyDocuments

/-! ### Anchors -/

mutual

/-- The nodes with an anchor, in the order of the document. -/
def Node.anchored : Node → List (Nat × Node)
  | .alias _ => []
  | .scalar p style text => p.anchor.toList.map fun k => (k, .scalar p style text)
  | .sequence p items =>
    p.anchor.toList.map (fun k => (k, .sequence p items)) ++ anchoredItems items
  | .mapping p entries =>
    p.anchor.toList.map (fun k => (k, .mapping p entries)) ++ anchoredEntries entries

/-- The nodes with an anchor in items. -/
def anchoredItems : List Node → List (Nat × Node)
  | [] => []
  | n :: items => n.anchored ++ anchoredItems items

/-- The nodes with an anchor in entries. -/
def anchoredEntries : List (Node × Node) → List (Nat × Node)
  | [] => []
  | (k, v) :: entries => k.anchored ++ v.anchored ++ anchoredEntries entries

end

/-! ### Size -/

mutual

/-- The size of a node: one for a scalar and for an alias, and one for each end of a collection. -/
def Node.size : Node → Nat
  | .alias _ => 1
  | .scalar _ _ _ => 1
  | .sequence _ items => 2 + sizeOfItems items
  | .mapping _ entries => 2 + sizeOfEntries entries

/-- The size of items. -/
def sizeOfItems : List Node → Nat
  | [] => 0
  | n :: items => n.size + sizeOfItems items

/-- The size of entries. -/
def sizeOfEntries : List (Node × Node) → Nat
  | [] => 0
  | (k, v) :: entries => k.size + v.size + sizeOfEntries entries

end

/-- A document: its tree, and the nodes that aliases refer to. -/
structure Document where
  root : Node
  /-- The nodes with an anchor, the last one first. -/
  anchored : List (Nat × Node)

/-- Read the document that a text holds. -/
def Document.parse (s : String) : Except Fault Document := do
  let node ← Node.ofTokens (← Token.ofGlyphs (← Glyph.ofDocument s))
  return ⟨node, node.anchored.reverse⟩

end SliceSelection.Yaml
