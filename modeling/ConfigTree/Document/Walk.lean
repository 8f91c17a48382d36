import ConfigTree.Document.Directive
import ConfigTree.Document.Library
import ConfigTree.Document.Loop
import ConfigTree.Eval.Expression
import ConfigTree.Files.Path
import ConfigTree.Value.Merge

/-!
# Walking documents

A document is resolved from top to bottom.  Each text in it is evaluated where the
tree resolved so far can be seen, so that it can refer to what stands before it.
That tree, the index, grows as the walk goes on: it holds containers from the moment
the walk enters them.

A mapping is made in four steps: from its base, the instances of its loop, its own
entries and its updates, each laid over what came before.

A document that is imported is walked with an index of its own.  While that goes on
its file is open, and a document whose file is open is not imported again.

## Main definitions

* `Progress` — index, log, open files, and the documents asked for; `Walk` — a step of
  a walk.
* `Surroundings` — what stays the same in all of a walk.
* `walk` — the value of a node.
* `walkDocument` — the value of a whole document, with those it imports.
-/

namespace ConfigTree

/-! ### The index -/

namespace Value

/-- The node one step away. -/
@[simp] def step? : Value → Step → Option Value
  | .map entries, .key k => Entries.get? entries k
  | .list items, .index i => items[i]?
  | _, _ => none

/-- The last mapping on the way to a place, the place included; `found` if there is none. -/
def lastMap (v : Value) (path : TreePath) (found : Value) : Value :=
  let found := if v.isMap then v else found
  match path with
  | [] => found
  | s :: rest =>
    match v.step? s with
    | none => found
    | some v => v.lastMap rest found

/-- The nearest mapping at or above a place, or nothing. -/
def nearestMap (tree : Value) (path : TreePath) : Value := tree.lastMap path .null

/-- The tree with a mapping at a place; what is there, if not a mapping, gives way to an empty
one. -/
def openMap (tree : Value) (path : TreePath) : Value :=
  match tree.at? path with
  | some (.map _) => tree
  | _ => tree.put path (.map [])

/-- The tree with entries laid over the mapping at a place. -/
def overlayAt (tree : Value) (path : TreePath) (entries : Mapping) : Value :=
  match tree.at? path with
  | some (.map under) => tree.put path (.map (Mapping.overlay under entries))
  | _ => tree.put path (.map entries)

/-- The tree without an entry of the mapping at a place. -/
def forget (tree : Value) (path : TreePath) (key : String) : Value :=
  match tree.at? path with
  | some (.map entries) => tree.put path (.map (Entries.erase entries key))
  | _ => tree

end Value

/-! ### Steps -/

/-- A document asked for, with the file of the document that asks and all open files. -/
structure Request where
  /-- The reference. -/
  reference : String
  /-- The file of the document that asks, if it came from one. -/
  origin : Option String
  /-- The open files, the innermost first. -/
  opened : List String

/-- The folder that a request is relative to. -/
def Request.folder? (r : Request) : Option String := r.origin.bind FileName.folder?

/-- Whether a file is open. -/
def Request.isOpen (r : Request) (file : String) : Bool := r.opened.any (FileName.same file)

/-- What a walk has done. -/
structure Progress where
  /-- The tree resolved so far. -/
  index : Value
  /-- What went wrong so far. -/
  log : Log
  /-- The documents asked for so far. -/
  requests : List Request
  /-- How many texts have been evaluated so far. -/
  texts : Nat
  /-- The file of the document being walked, if it came from one. -/
  origin : Option String
  /-- The files of the documents being walked, the innermost first. -/
  opened : List String
  /-- Which tree stood for `R` in the text of which number, as far as the texts are of the
  document being walked.  Only statements about walks speak of it. -/
  seen : Nat → Value → Prop

namespace Progress

/-- The progress before anything is done, in a document that came from a file or not. -/
def start (file : Option String) (log : Log) : Progress where
  index := .null
  log := log
  requests := []
  texts := 0
  origin := file
  opened := file.toList
  seen := fun _ _ => False

/-- One more text is evaluated. -/
def evaluating (p : Progress) : Progress :=
  { p with
    texts := p.texts + 1
    seen := fun n tree => p.seen n tree ∨ n = p.texts ∧ tree = p.index }

/-- Another document is entered; if it came from a file, that is open from now on. -/
def enter (p : Progress) (file : Option String) : Progress :=
  { p with
    index := .null
    origin := file.or p.origin
    opened := file.toList ++ p.opened
    seen := fun _ _ => False }

/-- The other document is left; what belongs to the one `outside` of it is set back. -/
def leave (p : Progress) (file : Option String) (outside : Progress) : Progress :=
  { p with
    index := outside.index
    origin := outside.origin
    opened := p.opened.drop file.toList.length
    seen := outside.seen }

end Progress

/-- A step of a walk, which can be its last. -/
abbrev Walk (α : Type) := ExceptT DocumentError (StateM Progress) α

namespace Walk

variable {α : Type}

/-- The outcome of a walk that starts from a progress, and the progress it leaves. -/
def run (act : Walk α) (p : Progress) : Except DocumentError α × Progress := act p

/-- Ends the walk. -/
def fail (path : TreePath) (fault : DocumentFault) : Walk α := throw ⟨path, fault⟩

/-- Changes the index. -/
def onIndex (f : Value → Value) : Walk Unit := modify fun p => { p with index := f p.index }

/-- Logs a text that is kept. -/
def logKept (path : TreePath) (e : EvalError) : Walk Unit :=
  modify fun p => { p with log := p.log.addKept path e }

/-- Records a request. -/
def ask (reference : String) : Walk Request := fun p =>
  let r : Request := ⟨reference, p.origin, p.opened⟩
  (.ok r, { p with requests := p.requests ++ [r] })

/-- Does something inside of another document.  Whether that ends the walk or not, the document
is left again. -/
def inside (file : Option String) (act : Walk α) : Walk α := fun p =>
  let (outcome, q) := act.run (p.enter file)
  (outcome, q.leave file p)

end Walk

open Walk

/-- What stays the same in all of a walk. -/
structure Surroundings where
  /-- The functions. -/
  functions : FunctionTable
  /-- The operators. -/
  operators : OperatorTable
  /-- The keys. -/
  keys : Keyring
  /-- The machine that the ranges of loops are computed on. -/
  machine : Number.Machine Evaluated

namespace Surroundings

/-- What an expression at a place can use. -/
def environment (s : Surroundings) (index : Value) (scope : Scope) (path : TreePath) :
    Environment :=
  { scope := scope, root := index, current := index.nearestMap path,
    functions := s.functions, operators := s.operators, keys := s.keys }

/-- What the expression of a number, at a place, can use.  It has an occasion of its own. -/
def environmentAt (s : Surroundings) (number : Nat) (index : Value) (scope : Scope)
    (path : TreePath) : Environment :=
  let env := s.environment index scope path
  { env with keys := env.keys.labelled [number] }

/-- What the next expression, at a place, can use. -/
def environmentNow (s : Surroundings) (scope : Scope) (path : TreePath) : Walk Environment :=
  fun p => (.ok (s.environmentAt p.texts p.index scope path), p.evaluating)

/-- The value of a text in a document. -/
def walkText (s : Surroundings) (source : String) (path : TreePath) (scope : Scope) :
    Walk Value := do
  let env ← s.environmentNow scope path.parent
  match env.settle source with
  | (v, none) => return v
  | (v, some e) =>
    logKept path e
    return v

/-- The mapping that an expression refers to. -/
def walkReference (s : Surroundings) (source : String) (path : TreePath) (scope : Scope) :
    Walk Mapping := do
  let env ← s.environmentNow scope path
  match env.evaluate source with
  | .ok (.map base) => return base
  | .ok v => fail path (.unresolved source (.notMapping v.kind))
  | .error e => fail path (.unresolved source (.failed e))

/-! ### Loops -/

/-- Where the values of a loop stand while they are resolved. -/
def scratchKey : String := "foreach"

/-- The values of a loop; `sequence` resolves them if they are a list of nodes. -/
def loopValues (s : Surroundings) (sequence : TreePath → Scope → Walk Value) (values : LoopValues)
    (path : TreePath) (scope : Scope) : Walk (List Value) :=
  match values with
  | .generator g => do
    let env ← s.environmentNow scope path
    match g.run s.machine env.evaluate with
    | .ok values => return values
    | .error fault => fail path (.malformedLoop fault)
  | .sequence _ => do
    let v ← sequence (path.entry scratchKey) scope
    onIndex (·.forget path scratchKey)
    return v.list?.getD []
  | .expression source => do
    let env ← s.environmentNow scope path
    match env.evaluate source with
    | .ok (.list values) => return values
    | .ok v => fail path (.malformedLoop (.notList source v.kind))
    | .error e => fail path (.malformedLoop (.valuesFailed source e))

/-- The key of the instance at a position: what the expression for it gives, or else the
position. -/
def loopKey (s : Surroundings) (key : Option String) (i : Nat) (path : TreePath) (scope : Scope) :
    Walk String :=
  match key with
  | none => return toString i
  | some source => do
    let env ← s.environmentNow scope path
    match env.evaluate source with
    | .error e => fail path (.unresolved source (.failed e))
    | .ok v =>
      match instanceKey? v with
      | some k => return k
      | none => fail path (.malformedLoop (.instanceKey source v.kind))

/-- The instances for the values from position `i` on, after those `made`. -/
def instances (s : Surroundings) (template : TreePath → Scope → Walk Value) (key : Option String)
    (path : TreePath) (scope : Scope) : List Value → Nat → Mapping → Walk Mapping
  | [], _, made => return made
  | item :: rest, i, made => do
    let inner := scope.enter .loop [("item", item), ("index", .int (Int64.ofNat i))]
    let k ← s.loopKey key i path inner
    if made.has k then fail path (.duplicateKey k)
    else
      let v ← template (path.entry k) inner
      onIndex (·.put (path.entry k) v)
      instances s template key path scope rest (i + 1) (made.insert k v)

end Surroundings

/-! ### Nodes -/

section Nodes

variable (s : Surroundings) (fetch : String → String → TreePath → Scope → Walk Mapping)

mutual

/-- The value of a node.  `fetch` gets the base that a directive imports. -/
def walk (v : Value) (path : TreePath) (scope : Scope) : Walk Value :=
  match v with
  | .map entries =>
    match Directive.conflict? entries with
    | some (key, previous) => fail path (.directive key (.conflict previous))
    | none => do
      onIndex (·.openMap path)
      let base ← walkBase entries path scope
      onIndex (·.overlayAt path base)
      let made ← walkLoop entries path scope base
      let own ← walkOwn entries path scope made
      return .map (← walkUpdates entries path scope own)
  | .list items => do
    onIndex (·.put path (.list []))
    return .list (← walkItems items path scope 0)
  | .str source => s.walkText source path scope
  | v => return v
termination_by structural v

/-- The items of a list from position `i` on. -/
def walkItems (items : List Value) (path : TreePath) (scope : Scope) (i : Nat) :
    Walk (List Value) :=
  match items with
  | [] => return []
  | item :: rest => do
    let v ← walk item (path.item i) scope
    onIndex (·.put (path.item i) v)
    return v :: (← walkItems rest path scope (i + 1))
termination_by structural items

/-- What a mapping starts from. -/
def walkBase (entries : List (String × Value)) (path : TreePath) (scope : Scope) :
    Walk Mapping :=
  match entries with
  | [] => return []
  | (key, v) :: rest =>
    match Directive.ofKey? key with
    | some .extend =>
      match v.str? with
      | some source => s.walkReference source path scope
      | none =>
        if v.isMap then do return (← walk v path scope).map?.getD []
        else fail path (.directive key (.operand v.kind))
    | some .fetch =>
      match v.str? with
      | some reference => fetch key reference path scope
      | none => fail path (.directive key (.operand v.kind))
    | _ => walkBase rest path scope
termination_by structural entries

/-- A mapping with the instances of its loop. -/
def walkLoop (entries : List (String × Value)) (path : TreePath) (scope : Scope)
    (base : Mapping) : Walk Mapping :=
  match entries with
  | [] => return base
  | (key, v) :: rest =>
    if Directive.ofKey? key = some .loop then do
      let generated ← walkInstances v path scope
      let result := Mapping.overlay base generated
      onIndex (·.overlayAt path result)
      return result
    else walkLoop rest path scope base
termination_by structural entries

/-- The instances of a loop. -/
def walkInstances (v : Value) (path : TreePath) (scope : Scope) : Walk Mapping :=
  match v with
  | .map fields =>
    match Loop.ofValue (.map fields) with
    | .error fault => fail path fault
    | .ok loop => do
      let values ← s.loopValues (walkEntry fields "values") loop.values path scope
      let outer := scope.enter .loop [("values", .list values)]
      s.instances (walkEntry fields "template") loop.key path outer values 0 []
  | _ => fail path (.malformedLoop .notMapping)
termination_by structural v

/-- The value of the entry with a key. -/
def walkEntry (entries : List (String × Value)) (key : String) (path : TreePath)
    (scope : Scope) : Walk Value :=
  match entries with
  | [] => return .null
  | (k, v) :: rest => if k = key then walk v path scope else walkEntry rest key path scope
termination_by structural entries

/-- A mapping with its own entries, those that are no directives. -/
def walkOwn (entries : List (String × Value)) (path : TreePath) (scope : Scope)
    (result : Mapping) : Walk Mapping :=
  match entries with
  | [] => return result
  | (key, v) :: rest =>
    if Directive.isKey key then walkOwn rest path scope result
    else do
      let v ← walk v (path.entry key) scope
      let result := result.alter key fun old => (old.getD .null).overlay v
      onIndex (·.put (path.entry key) ((result.get? key).getD .null))
      walkOwn rest path scope result
termination_by structural entries

/-- A mapping with its updates. -/
def walkUpdates (entries : List (String × Value)) (path : TreePath) (scope : Scope)
    (result : Mapping) : Walk Mapping :=
  match entries with
  | [] => return result
  | (key, v) :: rest =>
    if Directive.ofKey? key = some .update then walkTargets v key path scope result
    else walkUpdates rest path scope result
termination_by structural entries

/-- A mapping with the updates that a value lists. -/
def walkTargets (v : Value) (directive : String) (path : TreePath) (scope : Scope)
    (result : Mapping) : Walk Mapping :=
  match v with
  | .map targets => walkTargetEntries targets path scope result
  | v => fail path (.directive directive (.updates v.kind))
termination_by structural v

/-- A mapping with the updates for the given targets. -/
def walkTargetEntries (targets : List (String × Value)) (path : TreePath) (scope : Scope)
    (result : Mapping) : Walk Mapping :=
  match targets with
  | [] => return result
  | (target, v) :: rest => do
    let v ← walk v (path.dotted target) scope
    let result := Mapping.update result target v
    onIndex (·.put path (.map result))
    walkTargetEntries rest path scope result
termination_by structural targets

end

variable {s fetch} {path : TreePath} {scope : Scope}

@[simp] theorem walkItems_nil (i : Nat) : walkItems s fetch [] path scope i = pure [] := rfl

@[simp] theorem walkBase_nil : walkBase s fetch [] path scope = pure [] := rfl

@[simp] theorem walkLoop_nil (base : Mapping) :
    walkLoop s fetch [] path scope base = pure base := rfl

@[simp] theorem walkEntry_nil (key : String) :
    walkEntry s fetch [] key path scope = pure .null := rfl

@[simp] theorem walkOwn_nil (result : Mapping) :
    walkOwn s fetch [] path scope result = pure result := rfl

@[simp] theorem walkUpdates_nil (result : Mapping) :
    walkUpdates s fetch [] path scope result = pure result := rfl

@[simp] theorem walkTargetEntries_nil (result : Mapping) :
    walkTargetEntries s fetch [] path scope result = pure result := rfl

end Nodes

/-! ### Documents -/

/-- How deep imports may be nested. -/
def maxImports : Nat := 4096

/-- The mapping that a document holds; nothing counts as an empty one. -/
def importedMapping (directive reference : String) (path : TreePath) : Value → Walk Mapping
  | .map entries => return entries
  | .null => return []
  | v => fail path (.directive directive (.imported reference v.kind))

/-- The base that a directive imports, where imports may be nested `budget` deep from here. -/
def fetchBase (library : Library) (s : Surroundings) : Nat → String → String → TreePath →
    Scope → Walk Mapping
  | budget, directive, reference, path, scope => do
    let request ← ask reference
    match library reference request.folder? with
    | .error e => fail path (.importing reference e)
    | .ok document =>
      match document.file.filter request.isOpen with
      | some file => fail path (.circularImport file)
      | none =>
        match budget with
        | 0 => fail path .importDepth
        | budget + 1 =>
          let v ← inside document.file
            (walk s (fetchBase library s budget) document.content [] scope)
          importedMapping directive reference path v

/-- The value of a whole document, where imports may be nested `budget` deep. -/
def walkRoot (library : Library) (s : Surroundings) (budget : Nat) (document : Value)
    (scope : Scope) : Walk Value := do
  onIndex fun _ => .null
  let v ← walk s (fetchBase library s budget) document [] scope
  onIndex fun _ => v
  return v

/-- The value of a whole document. -/
def walkDocument (library : Library) (s : Surroundings) (document : Value) (scope : Scope) :
    Walk Value :=
  walkRoot library s maxImports document scope

end ConfigTree
