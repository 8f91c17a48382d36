import ConfigTree.Yaml.Mark
import ConfigTree.Yaml.Token

/-!
# Events

A document as a sequence of nodes, each list and mapping with its beginning and its
end.  The grammar of tokens is read from left to right.  Every rule takes one step of
a budget, which is larger than the count of rules that the tokens can need.

## Main definitions

* `Event` — the events.
* `Reader` — a rule of the grammar.
* `events` — the events of the one document of a text, if there is one.
-/

namespace ConfigTree.Yaml

/-- What is said about a node besides what it holds. -/
structure Properties where
  /-- Its anchor. -/
  anchor : Option String
  /-- Its tag. -/
  tag : Option String

/-- A node that holds no others, or the beginning or end of one that does.  References are names
at first. -/
inductive Event (ref : Type)
  /-- A text, and whether it is written without quotes. -/
  | scalar (properties : Properties) (text : String) (plain : Bool)
  /-- A reference to an anchor. -/
  | alias (target : ref)
  /-- The beginning of a list. -/
  | listStart (properties : Properties)
  /-- The end of a list. -/
  | listEnd
  /-- The beginning of a mapping. -/
  | mapStart (properties : Properties)
  /-- The end of a mapping. -/
  | mapEnd

namespace Properties

/-- Nothing is said. -/
def none : Properties := ⟨Option.none, Option.none⟩

end Properties

/-- A node that is not written. -/
def Event.absent (p : Properties) : Event String := .scalar p "" true

/-- The abbreviations for the start of tags. -/
abbrev Shorthands := List (String × String)

/-- The abbreviations that every document has. -/
def Shorthands.standard : Shorthands := [("!", "!"), ("!!", "tag:yaml.org,2002:")]

/-- A rule of the grammar: it adds events to those done, the last first, and leaves tokens. -/
abbrev Reader :=
  List Token → List (Event String) → Except Fault (List Token × List (Event String))

namespace Reader

/-- A tag written out. -/
def fullTag (shorthands : Shorthands) (handle rest : String) : Except Fault String :=
  if handle.isEmpty then .ok rest
  else
    match shorthands.lookup handle with
    | some start => .ok (start ++ rest)
    | none => .error .tag

/-- Anchor and tag of a node, in either order. -/
def properties (shorthands : Shorthands) (ts : List Token) :
    Except Fault (Properties × List Token) := do
  match ts with
  | .anchor a :: .tag h t :: ts => return (⟨some a, some (← fullTag shorthands h t)⟩, ts)
  | .anchor a :: ts => return (⟨some a, none⟩, ts)
  | .tag h t :: .anchor a :: ts => return (⟨some a, some (← fullTag shorthands h t)⟩, ts)
  | .tag h t :: ts => return (⟨none, some (← fullTag shorthands h t)⟩, ts)
  | ts => return (.none, ts)

/-- The event of a text.  The tag that says nothing leaves it to be read as a plain one. -/
def scalarEvent (p : Properties) (text : String) (plain : Bool) : Event String :=
  if p.tag == some "!" then .scalar { p with tag := none } text plain else .scalar p text plain

/-- Whether an empty node stands before a token of a block. -/
def endsEntry : List Token → Bool
  | .key :: _ => true
  | .value :: _ => true
  | .blockEnd :: _ => true
  | _ => false

/-- Whether an empty item stands before a token of a block. -/
def endsItem : List Token → Bool
  | .item :: _ => true
  | .blockEnd :: _ => true
  | _ => false

/-- Whether an empty value stands before a token of a mapping in braces. -/
def endsFlow : List Token → Bool
  | .comma :: _ => true
  | .mapEnd :: _ => true
  | _ => false

/-- Whether an empty key stands before a token of a mapping in braces. -/
def endsFlowKey : List Token → Bool
  | .value :: _ => true
  | ts => endsFlow ts

/-- Whether an empty value stands before a token of a pair in brackets. -/
def endsPair : List Token → Bool
  | .comma :: _ => true
  | .listEnd :: _ => true
  | _ => false

/-- The empty node. -/
def absent : Reader := fun ts done => .ok (ts, .absent .none :: done)

section Grammar

variable (shorthands : Shorthands)

/-- How a node is written: as a block or between brackets, and whether the items of a list may
stand at the margin of the mapping around. -/
inductive Place
  /-- A block. -/
  | block
  /-- A block whose items may stand at the margin around. -/
  | entry
  /-- Between brackets. -/
  | flow
  deriving DecidableEq

mutual

/-- A node. -/
def node (place : Place) : Nat → Reader
  | 0, _, _ => .error .grammar
  | n + 1, ts, done =>
    match ts with
    | .alias a :: ts => .ok (ts, .alias a :: done)
    | ts => do
      let (p, ts) ← properties shorthands ts
      match place, ts with
      | .entry, .item :: _ => items n ts (.listStart p :: done)
      | _, .scalar text plain :: ts => return (ts, scalarEvent p text plain :: done)
      | _, .listStart :: ts => flowItems true n ts (.listStart p :: done)
      | _, .mapStart :: ts => flowEntries true n ts (.mapStart p :: done)
      | .flow, ts => bare p ts done
      | _, .blockList :: ts => blockItems n ts (.listStart p :: done)
      | _, .blockMap :: ts => blockEntries n ts (.mapStart p :: done)
      | _, ts => bare p ts done
termination_by structural n => n

/-- A node with properties and nothing else. -/
def bare (p : Properties) : Reader := fun ts done =>
  if p.anchor.isSome || p.tag.isSome then .ok (ts, .absent p :: done) else .error .grammar

/-- The items of a list written as a block. -/
def blockItems : Nat → Reader
  | 0, _, _ => .error .grammar
  | n + 1, ts, done =>
    match ts with
    | .item :: ts => do
      let (ts, done) ← if endsItem ts then absent ts done else node .block n ts done
      blockItems n ts done
    | .blockEnd :: ts => .ok (ts, .listEnd :: done)
    | _ => .error .grammar
termination_by structural n => n

/-- The items of a list at the margin of the mapping around. -/
def items : Nat → Reader
  | 0, _, _ => .error .grammar
  | n + 1, ts, done =>
    match ts with
    | .item :: ts => do
      let (ts, done) ←
        if endsItem ts || endsEntry ts then absent ts done else node .block n ts done
      items n ts done
    | ts => .ok (ts, .listEnd :: done)
termination_by structural n => n

/-- The entries of a mapping written as a block. -/
def blockEntries : Nat → Reader
  | 0, _, _ => .error .grammar
  | n + 1, ts, done =>
    match ts with
    | .key :: ts => do
      let (ts, done) ← if endsEntry ts then absent ts done else node .entry n ts done
      let (ts, done) ← blockValue n ts done
      blockEntries n ts done
    | .blockEnd :: ts => .ok (ts, .mapEnd :: done)
    | _ => .error .grammar
termination_by structural n => n

/-- The value of an entry of a mapping written as a block. -/
def blockValue : Nat → Reader
  | 0, _, _ => .error .grammar
  | n + 1, ts, done =>
    match ts with
    | .value :: ts => if endsEntry ts then absent ts done else node .entry n ts done
    | ts => absent ts done
termination_by structural n => n

/-- The items of a list in brackets. -/
def flowItems (first : Bool) : Nat → Reader
  | 0, _, _ => .error .grammar
  | n + 1, ts, done =>
    match first, ts with
    | _, .listEnd :: ts => .ok (ts, .listEnd :: done)
    | false, .comma :: .listEnd :: ts => .ok (ts, .listEnd :: done)
    | false, .comma :: ts => flowItem n ts done
    | true, ts => flowItem n ts done
    | false, _ => .error .grammar
termination_by structural n => n

/-- An item of a list in brackets, and those after it. -/
def flowItem : Nat → Reader
  | 0, _, _ => .error .grammar
  | n + 1, ts, done =>
    match ts with
    | .key :: ts => do
      let (ts, done) ← flowPair n ts (.mapStart .none :: done)
      flowItems false n ts (.mapEnd :: done)
    | ts => do
      let (ts, done) ← node .flow n ts done
      flowItems false n ts done
termination_by structural n => n

/-- Key and value of a pair in brackets.  A key that is not written takes the token after it. -/
def flowPair : Nat → Reader
  | 0, _, _ => .error .grammar
  | n + 1, ts, done => do
    let (ts, done) ← match ts with
      | .value :: ts => absent ts done
      | .comma :: ts => absent ts done
      | .listEnd :: ts => absent ts done
      | ts => node .flow n ts done
    match ts with
    | .value :: ts => if endsPair ts then absent ts done else node .flow n ts done
    | ts => absent ts done
termination_by structural n => n

/-- The entries of a mapping in braces. -/
def flowEntries (first : Bool) : Nat → Reader
  | 0, _, _ => .error .grammar
  | n + 1, ts, done =>
    match first, ts with
    | _, .mapEnd :: ts => .ok (ts, .mapEnd :: done)
    | false, .comma :: .mapEnd :: ts => .ok (ts, .mapEnd :: done)
    | false, .comma :: ts => flowEntry n ts done
    | true, ts => flowEntry n ts done
    | false, _ => .error .grammar
termination_by structural n => n

/-- An entry of a mapping in braces, and those after it. -/
def flowEntry : Nat → Reader
  | 0, _, _ => .error .grammar
  | n + 1, ts, done =>
    match ts with
    | .key :: ts => do
      let (ts, done) ← if endsFlowKey ts then absent ts done else node .flow n ts done
      let (ts, done) ← match ts with
        | .value :: ts => if endsFlow ts then absent ts done else node .flow n ts done
        | ts => absent ts done
      flowEntries false n ts done
    | ts => do
      let (ts, done) ← node .flow n ts done
      flowEntries false n ts (.absent .none :: done)
termination_by structural n => n

end

end Grammar

/-! ### Documents -/

/-- The directives before a document: at most one version, which must be known, and abbreviations
that differ from each other.  The abbreviations come back with those that hold anyway. -/
def directives (versioned : Bool) (found : Shorthands) :
    List Token → Except Fault (Shorthands × List Token)
  | .version major minor :: ts =>
    if versioned || major != 1 || !(minor == 1 || minor == 2) then .error .directive
    else directives true found ts
  | .shorthand handle start :: ts =>
    if (found.lookup handle).isSome then .error .directive
    else directives versioned (found ++ [(handle, start)]) ts
  | ts => .ok (found ++ Shorthands.standard, ts)

/-- Whether a document begins with a directive or with the marker before it. -/
def isExplicit : List Token → Bool
  | .version _ _ :: _ => true
  | .shorthand _ _ :: _ => true
  | .documentStart :: _ => true
  | _ => false

/-- Whether there is nothing in a document. -/
def isEmptyDocument : List Token → Bool
  | .version _ _ :: _ => true
  | .shorthand _ _ :: _ => true
  | .documentStart :: _ => true
  | .documentEnd :: _ => true
  | .stop :: _ => true
  | _ => false

/-- The root of a document. -/
def root (ts : List Token) : Except Fault (List Token × List (Event String)) := do
  let budget := 4 * ts.length + 8
  if isExplicit ts then
    let (shorthands, ts) ← directives false [] ts
    match ts with
    | .documentStart :: ts =>
      if isEmptyDocument ts then absent ts [] else node shorthands .block budget ts []
    | _ => throw .grammar
  else node Shorthands.standard .block budget ts []

end Reader

/-- The events of the document of a text; a text with nothing in it has none. -/
def events (ts : List Token) : Except Fault (List (Event String)) :=
  match ts with
  | [.stop] => .ok []
  | ts => do
    let (ts, done) ← Reader.root ts
    let rest := ts.dropWhile fun t =>
      match t with
      | .documentEnd => true
      | _ => false
    match rest with
    | [.stop] => return done.reverse
    | _ => throw .severalDocuments

end ConfigTree.Yaml
