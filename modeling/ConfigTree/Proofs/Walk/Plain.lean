import ConfigTree.Cipher.Fernet
import ConfigTree.Proofs.Tree.Leaves
import ConfigTree.Proofs.Tree.Overlay
import ConfigTree.Proofs.Walk.Locality

/-!
# Documents without directives

A document without directives can always be resolved.  The result has the shape of the
document, and every text in it gives way to what it stands for where `R` is the result
cut off before the text.  This says what the result is without speaking of an index, and
there is one tree only of which it is true.

The walk meets the texts in document order, and the index is at each of them the tree
that has grown so far.  An induction over the document shows this, with what is done of
a container as a parameter.

## Main definitions

* `Value.Plain` — documents without directives.
* `Value.enclosing` — the nearest mapping at or above a place.
* `Surroundings.seeing` — what a text of a document can use.
* `Value.Resolves` — a tree with what the texts of a document evaluate to.
* `Settlement`, `settlements` — what texts stand for, one after the other.

## Main results

* `run_walk_of_plain` — the walk of a node without directives.
* `eq_of_shows` — the tree is determined by its texts.
* `walkRoot_plain` — the resolution of a document without directives.
-/

namespace ConfigTree

open Walk

/-! ### Without directives -/

/-- No key is that of a directive. -/
def Mapping.NoDirective (entries : Mapping) : Prop :=
  ∀ key ∈ Entries.keys entries, Directive.isKey key = false

instance (entries : Mapping) : Decidable (Mapping.NoDirective entries) :=
  inferInstanceAs (Decidable (∀ key ∈ Entries.keys entries, Directive.isKey key = false))

/-- A tree without directives, in whose mappings no key occurs twice. -/
structure Value.Plain (v : Value) : Prop where
  /-- No key occurs twice. -/
  unique : v.EveryMap Entries.Unique
  /-- There are no directives. -/
  noDirective : v.EveryMap Mapping.NoDirective

namespace Value.Plain

theorem entry {es : List (String × Value)} (h : Plain (.map es)) {k : String} {v : Value}
    (hv : (k, v) ∈ es) : v.Plain := by
  have hget : Entries.get? es k = some v := Entries.get?_of_mem h.unique.self hv
  exact ⟨h.unique.entry hget, h.noDirective.entry hget⟩

theorem item {xs : List Value} (h : Plain (.list xs)) {v : Value} (hv : v ∈ xs) : v.Plain :=
  ⟨h.unique.item hv, h.noDirective.item hv⟩

end Value.Plain

namespace Mapping.NoDirective

variable {key : String} {v : Value} {entries : List (String × Value)}

theorem head (h : NoDirective ((key, v) :: entries)) : Directive.isKey key = false :=
  h key List.mem_cons_self

theorem tail (h : NoDirective ((key, v) :: entries)) : NoDirective entries :=
  fun k hk => h k (List.mem_cons_of_mem key hk)

theorem ofKey?_head (h : NoDirective ((key, v) :: entries)) : Directive.ofKey? key = none := by
  have hkey := h.head
  unfold Directive.isKey at hkey
  rwa [Option.isSome_eq_false_iff, Option.isNone_iff_eq_none] at hkey

theorem conflict?_eq_none (h : NoDirective entries) : Directive.conflict? entries = none := by
  unfold Directive.conflict?
  induction entries with
  | nil => rfl
  | cons e entries ih =>
    obtain ⟨key, v⟩ := e
    rw [Directive.conflictAfter, h.ofKey?_head]
    exact ih h.tail

variable {s : Surroundings} {fetch : String → String → TreePath → Scope → Walk Mapping}

theorem walkBase_eq (h : NoDirective entries) (path : TreePath) (scope : Scope) :
    walkBase s fetch entries path scope = pure [] := by
  induction entries with
  | nil => rw [walkBase_nil]
  | cons e entries ih =>
    obtain ⟨key, v⟩ := e
    rw [walkBase, h.ofKey?_head]
    exact ih h.tail

theorem walkLoop_eq (h : NoDirective entries) (path : TreePath) (scope : Scope) (base : Mapping) :
    walkLoop s fetch entries path scope base = pure base := by
  induction entries with
  | nil => rw [walkLoop_nil]
  | cons e entries ih =>
    obtain ⟨key, v⟩ := e
    rw [walkLoop, h.ofKey?_head]
    exact ih h.tail

theorem noUpdate (h : NoDirective entries) : NoUpdate entries := by
  intro key hkey hup
  have hnone := h key hkey
  simp [Directive.isKey, hup] at hnone

/-- A mapping without directives where there is none yet: it is opened, and its entries are
walked. -/
theorem run_walk_eq (h : NoDirective entries) {path : TreePath} (scope : Scope) {p : Progress}
    (hnew : ∀ es, p.index.at? path ≠ some (.map es)) :
    (walk s fetch (.map entries) path scope).run p = (do
      let own ← walkOwn s fetch entries path scope []
      return .map own : Walk Value).run (p.withIndex (p.index.put path (.map []))) := by
  have hopen : p.index.openMap path = p.index.put path (.map []) := by
    unfold Value.openMap
    split
    · next es hes => exact absurd hes (hnew es)
    · rfl
  rw [walk_map_eq, h.conflict?_eq_none]
  simp only [walkMade, h.walkBase_eq, h.walkLoop_eq, h.noUpdate.walkUpdates_eq, bind_assoc,
    pure_bind, run_onIndex_bind, Progress.index_withIndex, Progress.withIndex_withIndex,
    Value.overlayAt_openMap]
  rw [hopen]

end Mapping.NoDirective

/-! ### What texts see -/

/-- The nearest mapping at or above a place: of all that stands on the way to it, the last that is
a mapping. -/
def Value.enclosing (tree : Value) (path : TreePath) : Value :=
  ((path.inits.filterMap tree.at?).reverse.find? isMap).getD .null

/-- The walk down to a place finds the mapping that the search back from it does. -/
theorem Value.lastMap_eq (v : Value) (path : TreePath) (found : Value) :
    v.lastMap path found = ((path.inits.filterMap v.at?).reverse.find? isMap).getD found := by
  induction path generalizing v found with
  | nil =>
    -- at the end of the way there is only the value itself
    by_cases hmap : v.isMap = true <;> simp [lastMap, hmap]
  | cons step rest ih =>
    -- the value itself is asked last
    have hmore : (List.inits (step :: rest)).filterMap v.at?
        = v :: rest.inits.filterMap fun place => (v.step? step).bind (·.at? place) := by
      simp only [List.inits_cons, List.filterMap_cons, at?_nil, List.filterMap_map]
      exact congrArg (v :: List.filterMap · rest.inits) (funext (v.at?_cons step))
    rw [hmore, lastMap]
    cases v.step? step with
    | none => by_cases hmap : v.isMap = true <;> simp [hmap]
    | some w =>
      have hbelow : rest.inits.filterMap (fun place => (some w).bind (·.at? place))
          = rest.inits.filterMap w.at? := rfl
      rw [hbelow, List.reverse_cons, List.find?_append]
      simp only [ih]
      -- a mapping further down is nearer than the value itself
      cases (rest.inits.filterMap w.at?).reverse.find? isMap with
      | some m => rfl
      | none => by_cases hmap : v.isMap = true <;> simp [hmap]

theorem Value.nearestMap_eq_enclosing (tree : Value) (path : TreePath) :
    tree.nearestMap path = tree.enclosing path :=
  tree.lastMap_eq path .null

/-- What the text of number `n` can use, in a tree that is cut off before it. -/
def Surroundings.seeing (s : Surroundings) (scope : Scope) (tree : Value) (leaf : Leaf) (n : Nat) :
    Environment :=
  let root := tree.before leaf.place
  { scope := scope, root := root, current := root.enclosing leaf.place.dropLast,
    keys := s.keys.labelled [n], functions := s.functions, operators := s.operators }

theorem Surroundings.environmentAt_before (s : Surroundings) (scope : Scope) (tree : Value)
    (leaf : Leaf) (n : Nat) :
    s.environmentAt n (tree.before leaf.place) scope leaf.place.parent
      = s.seeing scope tree leaf n := by
  simp only [environmentAt, environment, Value.nearestMap_eq_enclosing, TreePath.parent, seeing]

/-- In a tree, the texts of a document have given way to what they evaluate to, where each sees the
tree cut off before it; those that fail are still there.  The first is the text of number `n`. -/
def Value.Resolves (s : Surroundings) (scope : Scope) (n : Nat) (document tree : Value) : Prop :=
  ∀ leaf i, (leaf, i) ∈ document.leaves.zipIdx n →
    (∀ v, (s.seeing scope tree leaf i).evaluate leaf.source = .ok v →
      tree.at? leaf.place = some v)
    ∧ ∀ e, (s.seeing scope tree leaf i).evaluate leaf.source = .error e →
      tree.at? leaf.place = some (.str leaf.source)

/-! ### What texts stand for -/

/-- What a text stands for. -/
structure Settlement where
  /-- The place of the text. -/
  place : TreePath
  /-- What it stands for; the text itself if that has no value. -/
  value : Value
  /-- Why the text has no value, if so. -/
  error : Option EvalError

namespace Settlement

/-- The settlement seen from one step further up. -/
def under (step : Step) (x : Settlement) : Settlement := { x with place := step :: x.place }

/-- What is logged of it, if the tree stands at `path`. -/
def logged? (path : TreePath) (x : Settlement) : Option LogEntry :=
  x.error.map fun e => ⟨path ++ x.place, .kept e⟩

theorem logged?_under (path : TreePath) (step : Step) (x : Settlement) :
    (x.under step).logged? path = x.logged? (path ++ [step]) := by
  simp only [logged?, under, List.append_assoc, List.singleton_append]

end Settlement

section Settlements

variable (s : Surroundings) (scope : Scope)

/-- What the leaves of a tree at `path` stand for, the first of them being the text of number
`n`.  The one at a place in the tree sees `sees place` as `R`. -/
def settlements (sees : TreePath → Value) (path : TreePath) (n : Nat) :
    List Leaf → List Settlement
  | [] => []
  | leaf :: rest =>
    let env := s.environmentAt n (sees leaf.place) scope (path ++ leaf.place).parent
    let (value, error) := env.settle leaf.source
    ⟨leaf.place, value, error⟩ :: settlements sees path (n + 1) rest

variable {s scope} {sees : TreePath → Value} {path : TreePath}

@[simp] theorem length_settlements (n : Nat) (ls : List Leaf) :
    (settlements s scope sees path n ls).length = ls.length := by
  induction ls generalizing n with
  | nil => rfl
  | cons leaf ls ih => simp [settlements, ih]

/-- What the texts of a document stand for, where they see the tree that they stand in. -/
theorem settlements_before (tree : Value) (n : Nat) (ls : List Leaf) :
    settlements s scope tree.before [] n ls = (ls.zipIdx n).map fun leaf =>
      let out := (s.seeing scope tree leaf.1 leaf.2).settle leaf.1.source
      ⟨leaf.1.place, out.1, out.2⟩ := by
  induction ls generalizing n with
  | nil => rfl
  | cons leaf ls ih =>
    rw [settlements, ih, List.zipIdx_cons, List.map_cons, List.nil_append, s.environmentAt_before]

theorem settlements_append (n : Nat) (ls ms : List Leaf) :
    settlements s scope sees path n (ls ++ ms)
      = settlements s scope sees path n ls
        ++ settlements s scope sees path (n + ls.length) ms := by
  induction ls generalizing n with
  | nil => rfl
  | cons leaf ls ih =>
    simp only [List.cons_append, settlements, ih, List.length_cons]
    rw [Nat.add_assoc, Nat.add_comm 1]

theorem settlements_under (step : Step) (n : Nat) (ls : List Leaf) :
    settlements s scope sees path n (ls.map (Leaf.under step))
      = (settlements s scope (fun place => sees (step :: place)) (path ++ [step]) n ls).map
          (Settlement.under step) := by
  induction ls generalizing n with
  | nil => rfl
  | cons leaf ls ih =>
    simp only [List.map_cons, settlements, ih, Leaf.under, Settlement.under, List.append_assoc,
      List.singleton_append]

/-- The texts in a mapping, from the entry with a key on: those in the entry, then the others. -/
theorem settlements_entryLeaves (t : Value) {done : Mapping} {k : String} (hk : k ∉ done.keys)
    (v w : Value) (es ws : List (String × Value)) (n : Nat) :
    settlements s scope (t.grown path (.map (done ++ (k, w) :: ws))) path n
        (Value.entryLeaves ((k, v) :: es))
      = (settlements s scope ((t.put path (.map done)).grown (path.entry k) w) (path.entry k) n
            v.leaves).map (Settlement.under (.key k))
        ++ settlements s scope (t.grown path (.map (done ++ [(k, w)] ++ ws))) path
            (n + v.leaves.length) (Value.entryLeaves es) := by
  have hsees : (fun place => t.grown path (.map (done ++ (k, w) :: ws)) (.key k :: place))
      = (t.put path (.map done)).grown (path.entry k) w :=
    funext fun place => (Value.grown_entry t path hk w ws place).symm
  rw [Value.entryLeaves, settlements_append, settlements_under, hsees, List.length_map,
    List.append_assoc, List.singleton_append]
  rfl

/-- The texts in a list, from an item on: those in the item, then the others. -/
theorem settlements_itemLeaves (t : Value) (done : List Value) (v w : Value) (vs ws : List Value)
    (n : Nat) :
    settlements s scope (t.grown path (.list (done ++ w :: ws))) path n
        (Value.itemLeaves (v :: vs) done.length)
      = (settlements s scope ((t.put path (.list done)).grown (path.item done.length) w)
            (path.item done.length) n v.leaves).map (Settlement.under (.index done.length))
        ++ settlements s scope (t.grown path (.list (done ++ [w] ++ ws))) path
            (n + v.leaves.length) (Value.itemLeaves vs (done ++ [w]).length) := by
  have hsees :
      (fun place => t.grown path (.list (done ++ w :: ws)) (.index done.length :: place))
        = (t.put path (.list done)).grown (path.item done.length) w :=
    funext fun place => (Value.grown_item t path done w ws place).symm
  rw [Value.itemLeaves, settlements_append, settlements_under, hsees, List.length_map,
    List.append_assoc, List.singleton_append, List.length_append]
  rfl

end Settlements

/-! ### What a tree shows -/

/-- At the places of the texts, the tree has what they stand for. -/
def Value.Shows (w : Value) (xs : List Settlement) : Prop :=
  ∀ x ∈ xs, w.at? x.place = some x.value

theorem Value.shows_append {w : Value} {xs ys : List Settlement} :
    w.Shows (xs ++ ys) ↔ w.Shows xs ∧ w.Shows ys := List.forall_mem_append

theorem Value.shows_entry {done : Mapping} {k : String} (hk : k ∉ done.keys) (w : Value)
    (ws : Mapping) (xs : List Settlement) :
    Value.Shows (.map (done ++ (k, w) :: ws)) (xs.map (Settlement.under (.key k)))
      ↔ w.Shows xs := by
  simp only [Shows, List.forall_mem_map, Settlement.under, at?_map_key,
    Entries.get?_append_cons hk, Option.bind_some]

theorem Value.shows_item (done : List Value) (w : Value) (ws : List Value)
    (xs : List Settlement) :
    Value.Shows (.list (done ++ w :: ws)) (xs.map (Settlement.under (.index done.length)))
      ↔ w.Shows xs := by
  have hget : (done ++ w :: ws)[done.length]? = some w := by simp
  simp only [Shows, List.forall_mem_map, Settlement.under, at?_list_index, hget, Option.bind_some]

/-- A tree shows what the texts of a document stand for if it has what they evaluate to. -/
theorem Value.shows_before_iff {s : Surroundings} {scope : Scope} {n : Nat}
    {document tree : Value} :
    tree.Shows (settlements s scope tree.before [] n document.leaves)
      ↔ document.Resolves s scope n tree := by
  rw [settlements_before, Shows, List.forall_mem_map, Prod.forall]
  refine forall₃_congr fun leaf i _ => ?_
  cases hvalue : (s.seeing scope tree leaf i).evaluate leaf.source with
  | ok v => simp [Environment.settle_of_ok hvalue]
  | error e => simp [Environment.settle_of_error hvalue]

/-- What is logged is why texts have failed. -/
theorem filterMap_logged?_before (s : Surroundings) (scope : Scope) (n : Nat) (tree : Value)
    (ls : List Leaf) :
    (settlements s scope tree.before [] n ls).filterMap (Settlement.logged? [])
      = (ls.zipIdx n).filterMap fun leaf =>
          match (s.seeing scope tree leaf.1 leaf.2).evaluate leaf.1.source with
          | .ok _ => none
          | .error e => some ⟨leaf.1.place, .kept e⟩ := by
  rw [settlements_before, List.filterMap_map]
  refine List.filterMap_congr fun leaf _ => ?_
  cases hvalue : (s.seeing scope tree leaf.1 leaf.2).evaluate leaf.1.source with
  | ok v => simp [Settlement.logged?, Environment.settle_of_ok hvalue]
  | error e => simp [Settlement.logged?, Environment.settle_of_error hvalue]

/-- The second progress comes from the first by the texts of a tree at `path`. -/
structure Progress.Settles (path : TreePath) (xs : List Settlement) (p q : Progress) : Prop where
  /-- Each text has a number. -/
  texts : q.texts = p.texts + xs.length
  /-- The ones that have no value are logged. -/
  log : q.log = p.log ++ xs.filterMap (Settlement.logged? path)

namespace Progress.Settles

variable {path : TreePath} {xs ys : List Settlement} {p q r : Progress}

theorem nil (path : TreePath) (p : Progress) : Settles path [] p p :=
  ⟨rfl, (List.append_nil _).symm⟩

theorem append (hpq : Settles path xs p q) (hqr : Settles path ys q r) :
    Settles path (xs ++ ys) p r := by
  constructor
  · rw [hqr.texts, hpq.texts, List.length_append, Nat.add_assoc]
  · rw [hqr.log, hpq.log, List.filterMap_append, List.append_assoc]

theorem under {step : Step} (h : Settles (path ++ [step]) xs p q) :
    Settles path (xs.map (Settlement.under step)) p q := by
  constructor
  · rw [h.texts, List.length_map]
  · have hlogged : Settlement.logged? path ∘ Settlement.under step
        = Settlement.logged? (path ++ [step]) := funext (Settlement.logged?_under path step)
    rw [h.log, List.filterMap_map, hlogged]

end Progress.Settles

/-! ### The walk of a node -/

section Run

variable (library : Library) (s : Surroundings) (budget : Nat)

theorem run_walkText_eq (source : String) (path : TreePath) (scope : Scope) (p : Progress) :
    ∃ w q, (s.walkText source path scope).run p = (.ok w, q)
      ∧ w.Shows (settlements s scope (p.index.grown path w) path p.texts [⟨[], source⟩])
      ∧ Progress.Settles path
          (settlements s scope (p.index.grown path w) path p.texts [⟨[], source⟩]) p q := by
  -- what stands at the place of the text itself is of no account for what it sees
  let out := (s.environmentAt p.texts p.index scope path.parent).settle source
  have hxs : settlements s scope (p.index.grown path out.1) path p.texts [⟨[], source⟩]
      = [⟨[], out.1, out.2⟩] := by
    simp only [settlements, Value.grown, if_true, List.append_nil, out]
  refine ⟨out.1, _, s.run_walkText source path scope p, ?_, ?_⟩
  · rw [hxs]
    intro x hx
    obtain rfl := List.mem_singleton.mp hx
    exact Value.at?_nil _
  · rw [hxs]
    refine ⟨rfl, ?_⟩
    show p.log ++ (out.2.map fun e => ⟨path, .kept e⟩).toList = _
    cases out.2 <;> simp [Settlement.logged?]

mutual

/-- **The walk of a node without directives** goes well.  What comes of it shows what the texts
stand for, where each sees the index with as much of it as there is before the text. -/
theorem run_walk_of_plain : ∀ {v : Value}, v.Plain → ∀ (path : TreePath) (scope : Scope)
    {p : Progress}, (∀ es, p.index.at? path ≠ some (.map es)) →
    ∃ w q, (walk s (fetchBase library s budget) v path scope).run p = (.ok w, q)
      ∧ v.SameShape w
      ∧ w.Shows (settlements s scope (p.index.grown path w) path p.texts v.leaves)
      ∧ Progress.Settles path
          (settlements s scope (p.index.grown path w) path p.texts v.leaves) p q
  | .map entries, hv, path, scope, p, hnew => by
    -- nothing is done yet: the entries start behind none
    have hunique : Entries.Unique ([] ++ entries) := hv.unique.self
    obtain ⟨ws, q, hrun, hshape, hshows, hsettles⟩ := run_walkOwn_of_plain hunique
      hv.noDirective.self (fun k v h => hv.entry h) path scope p.index
      (p := p.withIndex (p.index.put path (.map []))) rfl
    refine ⟨.map ws, q, ?_, ⟨ws, rfl, hshape⟩, hshows, ⟨hsettles.texts, hsettles.log⟩⟩
    rw [hv.noDirective.self.run_walk_eq scope hnew, run_bind_of_ok hrun]
    rfl
  | .list items, hv, path, scope, p, _ => by
    obtain ⟨ws, q, hrun, hshape, hshows, hsettles⟩ := run_walkItems_of_plain
      (fun v h => hv.item h) path scope p.index []
      (p := p.withIndex (p.index.put path (.list []))) rfl
    refine ⟨.list ws, q, ?_, ⟨ws, rfl, hshape⟩, hshows, ⟨hsettles.texts, hsettles.log⟩⟩
    rw [walk_list_eq, run_onIndex_bind]
    exact run_bind_of_ok hrun
  | .str source, _, path, scope, p, _ => by
    obtain ⟨w, q, hrun, hshows, hsettles⟩ := run_walkText_eq s source path scope p
    exact ⟨w, q, by rw [walk_str_eq, hrun], trivial, hshows, hsettles⟩
  | .null, _, path, _, p, _ | .bool _, _, path, _, p, _ | .int _, _, path, _, p, _
  | .float _, _, path, _, p, _ =>
    ⟨_, p, rfl, rfl, List.forall_mem_nil _, .nil path p⟩

theorem run_walkItems_of_plain : ∀ {vs : List Value}, (∀ v ∈ vs, v.Plain) →
    ∀ (path : TreePath) (scope : Scope) (t : Value) (done : List Value) {p : Progress},
    p.index = t.put path (.list done) →
    ∃ ws q, (walkItems s (fetchBase library s budget) vs path scope done.length).run p
        = (.ok ws, q)
      ∧ Value.SameItems vs ws
      ∧ Value.Shows (.list (done ++ ws)) (settlements s scope (t.grown path (.list (done ++ ws)))
          path p.texts (Value.itemLeaves vs done.length))
      ∧ Progress.Settles path (settlements s scope (t.grown path (.list (done ++ ws))) path
          p.texts (Value.itemLeaves vs done.length)) p q
  | [], _, path, scope, t, done, p, hp =>
    ⟨[], p, rfl, rfl, List.forall_mem_nil _, .nil path p⟩
  | v :: vs, hvs, path, scope, t, done, p, hp => by
    -- nothing stands behind the items done, so the next is new
    have hnew : ∀ es, p.index.at? (path.item done.length) ≠ some (.map es) := by
      intro es
      rw [hp, Value.at?_item, Value.at?_put_self]
      simp
    obtain ⟨w, q, hrun, hshape, hshows, hsettles⟩ :=
      run_walk_of_plain (hvs v List.mem_cons_self) (path.item done.length) scope hnew
    -- whatever the walk of the item has left at its place, the value takes it
    have hindex : q.index.put (path.item done.length) w = t.put path (.list (done ++ [w])) := by
      rw [(leads_of_run_walk hrun).index.put_eq, hp, Value.put_put_item]
    obtain ⟨ws, r, hruns, hshapes, hshow, hsettle⟩ := run_walkItems_of_plain
      (fun u hu => hvs u (List.mem_cons_of_mem v hu)) path scope t (done ++ [w])
      (p := q.withIndex (q.index.put (path.item done.length) w)) hindex
    rw [hp] at hshows hsettles
    rw [Progress.texts_withIndex, hsettles.texts, length_settlements] at hshow hsettle
    refine ⟨w :: ws, r, ?_, ⟨w, ws, rfl, hshape, hshapes⟩, ?_, ?_⟩
    · have hlen : done.length + 1 = (done ++ [w]).length := by simp
      rw [walkItems, run_bind_of_ok hrun, run_onIndex_bind, hlen, run_bind_of_ok hruns]
      rfl
    · rw [settlements_itemLeaves, Value.shows_append, Value.shows_item]
      rw [List.append_assoc, List.singleton_append] at hshow
      exact ⟨hshows, by rwa [List.append_assoc, List.singleton_append]⟩
    · rw [settlements_itemLeaves]
      exact hsettles.under.append ⟨hsettle.texts, hsettle.log⟩

theorem run_walkOwn_of_plain : ∀ {entries done : List (String × Value)},
    Entries.Unique (done ++ entries) → Mapping.NoDirective entries →
    (∀ k v, (k, v) ∈ entries → v.Plain) →
    ∀ (path : TreePath) (scope : Scope) (t : Value) {p : Progress},
    p.index = t.put path (.map done) →
    ∃ ws q, (walkOwn s (fetchBase library s budget) entries path scope done).run p
        = (.ok (done ++ ws), q)
      ∧ Value.SameEntries entries ws
      ∧ Value.Shows (.map (done ++ ws)) (settlements s scope (t.grown path (.map (done ++ ws)))
          path p.texts (Value.entryLeaves entries))
      ∧ Progress.Settles path (settlements s scope (t.grown path (.map (done ++ ws))) path
          p.texts (Value.entryLeaves entries)) p q
  | [], done, _, _, _, path, scope, t, p, hp => by
    refine ⟨[], p, ?_, rfl, List.forall_mem_nil _, .nil path p⟩
    rw [walkOwn, List.append_nil]
    rfl
  | (k, v) :: entries, done, hu, hdir, hvs, path, scope, t, p, hp => by
    have hk : k ∉ Entries.keys done := hu.not_mem_keys
    have hget : Entries.get? done k = none := Entries.get?_eq_none_iff.mpr hk
    -- no key occurs twice, so the entry is new
    have hnew : ∀ es, p.index.at? (path.entry k) ≠ some (.map es) := by
      intro es
      rw [hp, Value.at?_entry, Value.at?_put_self]
      simp [hget]
    obtain ⟨w, q, hrun, hshape, hshows, hsettles⟩ :=
      run_walk_of_plain (hvs k v List.mem_cons_self) (path.entry k) scope hnew
    -- whatever the walk of the value has left at its place, the value takes it
    have hindex : q.index.put (path.entry k) w = t.put path (.map (done ++ [(k, w)])) := by
      rw [(leads_of_run_walk hrun).index.put_eq, hp, Value.put_put_entry t path hk]
    obtain ⟨ws, r, hruns, hshapes, hshow, hsettle⟩ := run_walkOwn_of_plain (hu.shift w) hdir.tail
      (fun l u hu => hvs l u (List.mem_cons_of_mem _ hu)) path scope t
      (p := q.withIndex (q.index.put (path.entry k) w)) hindex
    rw [hp] at hshows hsettles
    rw [Progress.texts_withIndex, hsettles.texts, length_settlements] at hshow hsettle
    refine ⟨(k, w) :: ws, r, ?_, ⟨w, ws, rfl, hshape, hshapes⟩, ?_, ?_⟩
    · have hlay : (Entries.alter done k fun old => (old.getD .null).overlay w)
          = done ++ [(k, w)] := Entries.alter_of_get?_eq_none hget _
      have hnow : Entries.get? (done ++ [(k, w)]) k = some w := Entries.get?_append_cons hk w []
      rw [walkOwn, if_neg (by simp [hdir.head]), run_bind_of_ok hrun]
      simp only [hlay, hnow, Option.getD_some, run_onIndex_bind]
      rw [hruns, List.append_assoc, List.singleton_append]
    · rw [settlements_entryLeaves t hk, Value.shows_append, Value.shows_entry hk]
      rw [List.append_assoc, List.singleton_append] at hshow
      exact ⟨hshows, by rwa [List.append_assoc, List.singleton_append]⟩
    · rw [settlements_entryLeaves t hk]
      exact hsettles.under.append ⟨hsettle.texts, hsettle.log⟩

end

end Run

/-! ### There is one such tree -/

section Determined

variable {s : Surroundings} {scope : Scope}

mutual

/-- **A tree is determined by its shape and its texts**: each sees at most what is before it. -/
theorem eq_of_shows : ∀ {v w w' : Value}, v.Plain → v.SameShape w → v.SameShape w' →
    ∀ {t : Value} {path : TreePath} {n : Nat},
    w.Shows (settlements s scope (t.grown path w) path n v.leaves) →
    w'.Shows (settlements s scope (t.grown path w') path n v.leaves) → w = w'
  | .map entries, _, _, hv, ⟨ws, rfl, hws⟩, ⟨ws', rfl, hws'⟩, t, path, n, h, h' => by
    have hunique : Entries.Unique ([] ++ entries) := hv.unique.self
    rw [eq_of_shows_entries hunique (fun k v hkv => hv.entry hkv) hws hws' h h']
  | .list items, _, _, hv, ⟨ws, rfl, hws⟩, ⟨ws', rfl, hws'⟩, t, path, n, h, h' => by
    have hvs : ∀ v ∈ items, v.Plain := fun v hmem => hv.item hmem
    rw [@eq_of_shows_items items [] ws ws' hvs hws hws' t path n h h']
  | .str source, w, w', _, _, _, t, path, n, h, h' => by
    -- the one text of a text sees the same in both, so it stands for the same
    have hw := h _ List.mem_cons_self
    have hw' := h' _ List.mem_cons_self
    simp only [Value.grown, if_true, Value.at?_nil, Option.some.injEq] at hw hw'
    rw [hw, hw']
  | .null, _, _, _, hw, hw', _, _, _, _, _ | .bool _, _, _, _, hw, hw', _, _, _, _, _
  | .int _, _, _, _, hw, hw', _, _, _, _, _ | .float _, _, _, _, hw, hw', _, _, _, _, _ =>
    Eq.trans hw (Eq.symm hw')

theorem eq_of_shows_items : ∀ {vs done ws ws' : List Value}, (∀ v ∈ vs, v.Plain) →
    Value.SameItems vs ws → Value.SameItems vs ws' → ∀ {t : Value} {path : TreePath} {n : Nat},
    Value.Shows (.list (done ++ ws)) (settlements s scope (t.grown path (.list (done ++ ws))) path n
      (Value.itemLeaves vs done.length)) →
    Value.Shows (.list (done ++ ws')) (settlements s scope (t.grown path (.list (done ++ ws'))) path
      n (Value.itemLeaves vs done.length)) → ws = ws'
  | [], _, _, _, _, hws, hws', _, _, _, _, _ => Eq.trans hws (Eq.symm hws')
  | v :: vs, done, _, _, hvs, ⟨w, ws, rfl, hw, hws⟩, ⟨w', ws', rfl, hw', hws'⟩, t, path, n, h,
      h' => by
    rw [settlements_itemLeaves, Value.shows_append, Value.shows_item] at h h'
    -- the item sees nothing of what comes after it, so it is the same in both
    obtain rfl : w = w' := eq_of_shows (hvs v List.mem_cons_self) hw hw' h.1 h'.1
    rw [← List.singleton_append, ← List.append_assoc] at h h'
    rw [eq_of_shows_items (fun u hu => hvs u (List.mem_cons_of_mem v hu)) hws hws' h.2 h'.2]

theorem eq_of_shows_entries : ∀ {entries done ws ws' : List (String × Value)},
    Entries.Unique (done ++ entries) → (∀ k v, (k, v) ∈ entries → v.Plain) →
    Value.SameEntries entries ws → Value.SameEntries entries ws' →
    ∀ {t : Value} {path : TreePath} {n : Nat},
    Value.Shows (.map (done ++ ws)) (settlements s scope (t.grown path (.map (done ++ ws))) path n
      (Value.entryLeaves entries)) →
    Value.Shows (.map (done ++ ws')) (settlements s scope (t.grown path (.map (done ++ ws'))) path n
      (Value.entryLeaves entries)) → ws = ws'
  | [], _, _, _, _, _, hws, hws', _, _, _, _, _ => Eq.trans hws (Eq.symm hws')
  | (k, v) :: entries, done, _, _, hu, hvs, ⟨w, ws, rfl, hw, hws⟩, ⟨w', ws', rfl, hw', hws'⟩, t,
      path, n, h, h' => by
    have hk : k ∉ Entries.keys done := hu.not_mem_keys
    rw [settlements_entryLeaves t hk, Value.shows_append, Value.shows_entry hk] at h h'
    -- the entry sees nothing of what comes after it, so it is the same in both
    obtain rfl : w = w' := eq_of_shows (hvs k v List.mem_cons_self) hw hw' h.1 h'.1
    rw [← List.singleton_append, ← List.append_assoc] at h h'
    rw [eq_of_shows_entries (hu.shift w) (fun l u hmem => hvs l u (List.mem_cons_of_mem _ hmem))
      hws hws' h.2 h'.2]

end

end Determined

/-! ### Documents -/

/-- **A document without directives can be resolved**, wherever it is walked.  Its leaves are all
the texts in it, numbered in document order.  The result has the shape of the document, and each
text gives way to what it evaluates to where `R` is the result cut off before the text and `S` the
nearest mapping of that around the text.  A text that fails is kept, and one entry is logged for
it, in document order.  There is no other tree of that shape in which the texts stand for what they
evaluate to there. -/
theorem walkRoot_plain (library : Library) (s : Surroundings) (budget : Nat) {document : Value}
    (h : document.Plain) (scope : Scope) (p : Progress) :
    (∀ leaf, leaf ∈ document.leaves ↔ document.at? leaf.place = some (.str leaf.source))
      ∧ ∃ result q, (walkRoot library s budget document scope).run p = (.ok result, q)
        ∧ document.SameShape result
        ∧ document.Resolves s scope p.texts result
        ∧ q.log = p.log ++ (document.leaves.zipIdx p.texts).filterMap (fun leaf =>
            match (s.seeing scope result leaf.1 leaf.2).evaluate leaf.1.source with
            | .ok _ => none
            | .error e => some ⟨leaf.1.place, .kept e⟩)
        ∧ ∀ other, document.SameShape other → document.Resolves s scope p.texts other →
            other = result := by
  refine ⟨Value.mem_leaves_iff h.unique, ?_⟩
  -- a document starts without an index
  have hnew : ∀ es, (p.withIndex .null).index.at? [] ≠ some (.map es) := by
    intro es
    simp
  obtain ⟨w, q, hrun, hshape, hshows, hsettles⟩ :=
    run_walk_of_plain library s budget h [] scope hnew
  have hsees : ∀ v : Value, Value.grown .null [] v = v.before :=
    fun v => funext (Value.grown_null v)
  rw [Progress.index_withIndex, hsees] at hshows hsettles
  refine ⟨w, q.withIndex w, ?_, hshape, Value.shows_before_iff.mp hshows, ?_, ?_⟩
  · rw [walkRoot, run_onIndex_bind, run_bind_of_ok hrun]
    rfl
  · rw [← filterMap_logged?_before]
    exact hsettles.log
  -- another such tree shows the same texts, and these determine it
  · intro other hother hothers
    have hshows' := Value.shows_before_iff.mpr hothers
    rw [← hsees] at hshows hshows'
    exact eq_of_shows h hother hshape hshows' hshows

/-- A function shows `R` to `a`; `c` sees the mapping around it, with what comes before, and `e`
fails and is kept. -/
theorem walkRoot_plain_of_nested :
    let inner : Value := .map [("d", .bool true), ("c", .str "S"), ("e", .str "nope")]
    let document : Value := .map [("a", .str "shown()"), ("b", inner)]
    let result : Value := .map [("a", .map []),
      ("b", .map [("d", .bool true), ("c", .map [("d", .bool true)]), ("e", .str "nope")])]
    let shown : Function := fun caller _ => .ok caller.root
    let s : Surroundings := ⟨[("shown", shown)], .standard, .keyless "fernet", Range.halting⟩
    let run := (walkRoot .empty s 0 document []).run (.start none [])
    document.Plain ∧ run.1 = .ok result
      ∧ run.2.log = [⟨[.key "b", .key "e"], .kept (.name (.unbound "nope"))⟩]
      ∧ document.SameShape result ∧ document.Resolves s [] 0 result := by
  intro inner document result shown s run
  have hplain : document.Plain :=
    ⟨Value.everyMap_of_checkMaps (by decide), Value.everyMap_of_checkMaps (by decide)⟩
  have hrun : run.1 = .ok result := by rfl
  have hlog : run.2.log = [⟨[.key "b", .key "e"], .kept (.name (.unbound "nope"))⟩] := by rfl
  obtain ⟨-, w, q, hwalk, hshape, hresolves, -⟩ :=
    walkRoot_plain .empty s 0 hplain [] (.start none [])
  -- the run gives the one tree that there is
  obtain rfl : result = w := by
    have hfirst : run.1 = .ok w := congrArg Prod.fst hwalk
    rw [hfirst] at hrun
    exact (Except.ok.inj hrun).symm
  exact ⟨hplain, hrun, hlog, hshape, hresolves⟩

end ConfigTree
