import ConfigTree.Cipher.Fernet
import ConfigTree.Proofs.Tree.Leaves
import ConfigTree.Proofs.Tree.Overlay
import ConfigTree.Proofs.Walk.Locality
import Mathlib.Data.List.Induction

/-!
# What the index holds of finished nodes

An own entry or item is walked, then its container stores in the index what it has made
of it, and what is evaluated from then on sees that as part of `R`.  But a container
knows only what it holds by itself: what it inherits from a base further up is laid
below it when it is finished itself.  So `R` agrees with the final tree on a finished
node exactly if what is inherited by the innermost container that is still being walked
has no part in the node.

## Main definitions

* `OwnNode` — the nodes that are reached from the root through own entries and items,
  with the progress at their start and what their containers lay below them.
* `Frontier` — where on the way to a place the finished nodes begin.

## Main results

* `seen_eq_of_run_walkOwn`, `seen_eq_of_run_walkItems` — what is stored stays as it is while the
  siblings are walked.
* `OwnNode.run_walk` — an own node in a resolution that goes well: its value, and what
  the final tree has at its place.
* `exists_ownNode` — all nodes are own nodes that are reached by own keys and positions.
* `seen_iff_of_finished` — what `R` and the final tree hold of a finished node, and when this
  is the same.
-/

namespace ConfigTree

open Walk

variable {library : Library} {s : Surroundings} {budget : Nat}

/-! ### What is stored stays -/

section Stored

variable {path : TreePath} {scope : Scope}

/-- An entry of the mapping is not touched by own entries with other keys. -/
theorem get?_of_run_walkOwn {entries result own : Mapping} {k : String} (hk : k ∉ entries.keys)
    {p q : Progress}
    (h : (walkOwn s (fetchBase library s budget) entries path scope result).run p = (.ok own, q)) :
    own.get? k = result.get? k := by
  induction entries generalizing result p with
  | nil =>
    rw [walkOwn_nil] at h
    obtain ⟨rfl, -⟩ := run_pure_eq_ok_iff.mp h
    rfl
  | cons e entries ih =>
    obtain ⟨k', v⟩ := e
    rw [Entries.keys_cons, List.mem_cons, not_or] at hk
    rw [walkOwn] at h
    split at h
    · exact ih hk.2 h
    · rw [run_bind_eq_ok_iff] at h
      obtain ⟨w, p₁, -, h⟩ := h
      rw [run_onIndex_bind] at h
      rw [ih hk.2 h, Entries.get?_alter_of_ne _ (Ne.symm hk.1)]

/-- What an entry holds is seen by all texts in own entries with other keys. -/
theorem seen_eq_of_run_walkOwn {entries result own : Mapping} {k : String} {v : Value}
    (hk : k ∉ entries.keys) {p q : Progress} (hp : p.index.at? (path.entry k) = some v)
    (h : (walkOwn s (fetchBase library s budget) entries path scope result).run p = (.ok own, q))
    {n : Nat} {tree : Value} (hseen : q.seen n tree) :
    p.seen n tree ∨ tree.at? (path.entry k) = some v := by
  induction entries generalizing result p with
  | nil =>
    rw [walkOwn_nil] at h
    obtain ⟨-, rfl⟩ := run_pure_eq_ok_iff.mp h
    exact Or.inl hseen
  | cons e entries ih =>
    obtain ⟨k', u⟩ := e
    rw [Entries.keys_cons, List.mem_cons, not_or] at hk
    rw [walkOwn] at h
    split at h
    · exact ih hk.2 hp h
    · rw [run_bind_eq_ok_iff] at h
      obtain ⟨w, p₁, hw, h⟩ := h
      rw [run_onIndex_bind] at h
      -- neither the walk of another entry nor storing it touches this one
      have hleads := leads_of_run_walk hw
      have hstored : ∀ x, (p₁.index.put (path.entry k') x).at? (path.entry k) = some v :=
        fun x => (hleads.index.trans (.put_self _ _ x)).at?_entry hk.1 hp
      rcases ih hk.2 (hstored _) h with hold | hnew
      · rcases hleads.seen_cases hold with hold | ⟨-, -, hin⟩
        · exact Or.inl hold
        · exact Or.inr (hin.at?_entry hk.1 hp)
      · exact Or.inr hnew

theorem length_of_run_walkItems {items values : List Value} {i : Nat} {p q : Progress}
    (h : (walkItems s (fetchBase library s budget) items path scope i).run p = (.ok values, q)) :
    values.length = items.length := by
  induction items generalizing i values p q with
  | nil =>
    rw [walkItems_nil] at h
    obtain ⟨rfl, -⟩ := run_pure_eq_ok_iff.mp h
    rfl
  | cons v items ih =>
    rw [walkItems, run_bind_eq_ok_iff] at h
    obtain ⟨w, p₁, -, h⟩ := h
    rw [run_onIndex_bind, run_bind_eq_ok_iff] at h
    obtain ⟨others, p₂, hothers, h⟩ := h
    obtain ⟨rfl, -⟩ := run_pure_eq_ok_iff.mp h
    rw [List.length_cons, List.length_cons, ih hothers]

/-- What an item holds is seen by all texts in the items after it. -/
theorem seen_eq_of_run_walkItems {items values : List Value} {i j : Nat} (hij : j < i) {v : Value}
    {p q : Progress} (hp : p.index.at? (path.item j) = some v)
    (h : (walkItems s (fetchBase library s budget) items path scope i).run p = (.ok values, q))
    {n : Nat} {tree : Value} (hseen : q.seen n tree) :
    p.seen n tree ∨ tree.at? (path.item j) = some v := by
  induction items generalizing i values p with
  | nil =>
    rw [walkItems_nil] at h
    obtain ⟨-, rfl⟩ := run_pure_eq_ok_iff.mp h
    exact Or.inl hseen
  | cons u items ih =>
    rw [walkItems, run_bind_eq_ok_iff] at h
    obtain ⟨w, p₁, hw, h⟩ := h
    rw [run_onIndex_bind, run_bind_eq_ok_iff] at h
    obtain ⟨others, p₂, hothers, h⟩ := h
    obtain ⟨-, rfl⟩ := run_pure_eq_ok_iff.mp h
    -- the items after this one are at other positions
    have hne : j ≠ i := Nat.ne_of_lt hij
    have hleads := leads_of_run_walk hw
    have hstored := (hleads.index.trans (.put_self _ _ w)).at?_item hne hp
    rcases ih (Nat.lt_succ_of_lt hij) hstored hothers with hold | hnew
    · rcases hleads.seen_cases hold with hold | ⟨-, -, hin⟩
      · exact Or.inl hold
      · exact Or.inr (hin.at?_item hne hp)
    · exact Or.inr hnew

end Stored

/-! ### The parts of a container -/

/-- An own entry in the walk of its mapping: its walk, what the mapping makes of it, and that
this is what the texts see which come after it in the mapping. -/
theorem run_walk_entry {path : TreePath} {scope : Scope} {front after : List (String × Value)}
    {k : String} {v w : Value} {p q r left : Progress} {made result : Mapping}
    (hu : Entries.Unique (front ++ (k, v) :: after))
    (hn : Mapping.NoUpdate (front ++ (k, v) :: after)) (hkey : Directive.isKey k = false)
    (hmade : (walkMade s (fetchBase library s budget) (front ++ (k, v) :: after) path scope).run p
      = (.ok made, q))
    (hfront : (walkOwn s (fetchBase library s budget) front path scope made).run q
      = (.ok result, r))
    (hw : (walk s (fetchBase library s budget) (.map (front ++ (k, v) :: after)) path scope).run p
      = (.ok w, left)) :
    ∃ (own : Mapping) (x : Value) (next : Progress), w = .map own
      ∧ (walk s (fetchBase library s budget) v (path.entry k) scope).run r = (.ok x, next)
      ∧ own.get? k = some (((made.get? k).getD .null).overlay x)
      ∧ Progress.Leads path next left
      ∧ ∀ n tree, left.seen n tree →
          next.seen n tree ∨ tree.at? (path.entry k) = w.at? [.key k] := by
  -- the walk of the mapping comes as far as is given
  obtain ⟨made', p₁, own, hmade', hown, rfl⟩ := run_walk_map_eq_ok hn hw
  rw [hmade] at hmade'
  obtain ⟨hm, rfl⟩ := Prod.mk.inj hmade'
  obtain rfl := Except.ok.inj hm
  rw [walkOwn_append, run_bind_of_ok hfront, walkOwn, if_neg (by simp [hkey]),
    run_bind_eq_ok_iff] at hown
  obtain ⟨x, next, hx, hown⟩ := hown
  rw [run_onIndex_bind, Entries.get?_alter_self, Option.getD_some,
    get?_of_run_walkOwn hu.not_mem_keys hfront] at hown
  -- and from here on the entry is left alone
  have hafter : k ∉ Entries.keys after := hu.not_mem_keys_after
  have hget : own.get? k = some (((made.get? k).getD .null).overlay x) := by
    rw [get?_of_run_walkOwn hafter hown, Entries.get?_alter_self,
      get?_of_run_walkOwn hu.not_mem_keys hfront]
  refine ⟨own, x, next, rfl, hx, hget, ?_, ?_⟩
  · exact (Progress.Leads.put path [.key k] next _).trans (leads_of_run_walkOwn hown)
  · intro n tree hseen
    rw [Value.at?_singleton, Value.step?, hget]
    exact seen_eq_of_run_walkOwn hafter (Value.at?_put_self _ _ _) hown hseen

/-- An item in the walk of its list, in the same way. -/
theorem run_walk_item {path : TreePath} {scope : Scope} {front after values : List Value}
    {v w : Value} {p q left : Progress}
    (hfront : (walkItems s (fetchBase library s budget) front path scope 0).run
      (p.withIndex (p.index.put path (.list []))) = (.ok values, q))
    (hw : (walk s (fetchBase library s budget) (.list (front ++ v :: after)) path scope).run p
      = (.ok w, left)) :
    ∃ all x next, w = .list all
      ∧ (walk s (fetchBase library s budget) v (path.item front.length) scope).run q
        = (.ok x, next)
      ∧ all[front.length]? = some x
      ∧ Progress.Leads path next left
      ∧ ∀ n tree, left.seen n tree →
          next.seen n tree ∨ tree.at? (path.item front.length) = w.at? [.index front.length] := by
  obtain ⟨all, hall, rfl⟩ := run_walk_list_eq_ok hw
  rw [walkItems_append, run_bind_of_ok hfront, Nat.zero_add, walkItems] at hall
  simp only [run_bind_eq_ok_iff, run_onIndex_bind] at hall
  -- the items before it, the item, and those after it
  obtain ⟨vs, p₁, ⟨x, next, hx, others, p₂, hothers, hvs⟩, hall⟩ := hall
  obtain ⟨rfl, rfl⟩ := run_pure_eq_ok_iff.mp hvs
  obtain ⟨rfl, rfl⟩ := run_pure_eq_ok_iff.mp hall
  have hget : (values ++ x :: others)[front.length]? = some x := by
    rw [← length_of_run_walkItems hfront]
    simp
  refine ⟨_, x, next, rfl, hx, hget, ?_, ?_⟩
  · have hstore := Progress.Leads.put path [.index front.length] next x
    exact hstore.trans (leads_of_run_walkItems hothers)
  · intro n tree hseen
    rw [Value.at?_singleton, Value.step?, hget]
    exact seen_eq_of_run_walkItems (Nat.lt_succ_self _) (Value.at?_put_self _ _ _) hothers hseen

/-! ### Own nodes -/

/-- The nodes that the walk of a document reaches from the root through own entries and items.
With a node come its place, the progress at the start of its walk, and what its containers have
there from elsewhere: the mappings that they make before their own entries, as far as they are
laid below the node, the innermost last.  A list takes the place of all that is below it. -/
inductive OwnNode (library : Library) (s : Surroundings) (budget : Nat) (document : Value)
    (scope : Scope) (start : Progress) : TreePath → Value → Progress → List Value → Prop
  /-- The document itself. -/
  | root : OwnNode library s budget document scope start [] document (start.withIndex .null) []
  /-- An entry that is no directive, after those before it. -/
  | entry {path : TreePath} {front after : List (String × Value)} {k : String} {v : Value}
    {p q r : Progress} {made result : Mapping} {layers : List Value} :
    OwnNode library s budget document scope start path (.map (front ++ (k, v) :: after)) p layers →
    Directive.isKey k = false →
    (walkMade s (fetchBase library s budget) (front ++ (k, v) :: after) path scope).run p
      = (.ok made, q) →
    (walkOwn s (fetchBase library s budget) front path scope made).run q = (.ok result, r) →
    OwnNode library s budget document scope start (path.entry k) v r
      ((layers ++ [Value.map made]).map (Value.entryOr k))
  /-- An item, after those before it. -/
  | item {path : TreePath} {front after : List Value} {v : Value} {p q : Progress}
    {values layers : List Value} :
    OwnNode library s budget document scope start path (.list (front ++ v :: after)) p layers →
    (walkItems s (fetchBase library s budget) front path scope 0).run
      (p.withIndex (p.index.put path (.list []))) = (.ok values, q) →
    OwnNode library s budget document scope start (path.item front.length) v q []

/-- A resolution that goes well is a walk of the document that goes well. -/
theorem run_walkRoot_eq_ok {document final : Value} {scope : Scope} {start done : Progress}
    (h : (walkRoot library s budget document scope).run start = (.ok final, done)) :
    ∃ left, (walk s (fetchBase library s budget) document [] scope).run (start.withIndex .null)
      = (.ok final, left) ∧ done = left.withIndex final := by
  rw [walkRoot, run_onIndex_bind, run_bind_eq_ok_iff] at h
  obtain ⟨w, left, hw, h⟩ := h
  rw [run_onIndex_bind] at h
  obtain ⟨rfl, rfl⟩ := run_pure_eq_ok_iff.mp h
  exact ⟨left, hw, rfl⟩

namespace OwnNode

variable {document : Value} {scope : Scope} {start : Progress} {path : TreePath} {node : Value}
  {p : Progress} {layers : List Value}

/-- What holds of every mapping in the document holds of every mapping in an own node. -/
theorem everyMap (h : OwnNode library s budget document scope start path node p layers)
    (hu : document.EveryMap Entries.Unique) {P : Mapping → Prop} (hP : document.EveryMap P) :
    node.EveryMap P := by
  -- to find an entry by its key its mapping must have the key once, so both go down together
  have hboth : document.EveryMap fun es => Entries.Unique es ∧ P es :=
    fun place es hes => ⟨hu place es hes, hP place es hes⟩
  have hnode : node.EveryMap fun es => Entries.Unique es ∧ P es := by
    induction h with
    | root => exact hboth
    | entry _ _ _ _ ih =>
      exact ih.entry (Entries.get?_of_mem ih.self.1 (List.mem_append_right _ List.mem_cons_self))
    | item _ _ ih => exact ih.item (List.mem_append_right _ List.mem_cons_self)
  exact fun place es hes => (hnode place es hes).2

theorem numbered (h : OwnNode library s budget document scope start path node p layers)
    (hs : start.Numbered) : p.Numbered := by
  induction h with
  | root => exact hs
  | entry _ _ hmade hfront ih =>
    exact (leads_of_run_walkOwn hfront).numbered ((leads_of_run_walkMade hmade).numbered ih)
  | item _ hfront ih => exact (leads_of_run_walkItems hfront).numbered ih

/-- **An own node in a resolution that goes well.**  Its walk gives a value, and the final tree
has at its place that value laid over what the containers have there from elsewhere. -/
theorem run_walk (h : OwnNode library s budget document scope start path node p layers)
    (hu : document.EveryMap Entries.Unique) (hn : document.EveryMap Mapping.NoUpdate)
    {final : Value} {done : Progress}
    (hrun : (walkRoot library s budget document scope).run start = (.ok final, done)) :
    ∃ w left, (walk s (fetchBase library s budget) node path scope).run p = (.ok w, left)
      ∧ final.at? path = some (layers.foldr Value.overlay w)
      ∧ Progress.Leads [] left done := by
  induction h with
  | root =>
    obtain ⟨left, hw, rfl⟩ := run_walkRoot_eq_ok hrun
    exact ⟨final, left, hw, Value.at?_nil final, .withIndex (.root _ _)⟩
  | entry hc hkey hmade hfront ih =>
    obtain ⟨w, left, hw, hfinal, hleads⟩ := ih
    obtain ⟨own, x, next, rfl, hx, hget, hnext, -⟩ := run_walk_entry (hc.everyMap hu hu).self
      (hc.everyMap hu hn).self hkey hmade hfront hw
    refine ⟨x, next, hx, ?_, hnext.atRoot.trans hleads⟩
    -- what the mapping has made of the entry is one layer more
    rw [Value.at?_entry, hfinal, Option.bind_some, Value.step?_foldr_overlay _ hget,
      List.map_append, List.foldr_append]
    rfl
  | item hc hfront ih =>
    obtain ⟨w, left, hw, hfinal, hleads⟩ := ih
    obtain ⟨all, x, next, rfl, hx, hget, hnext, -⟩ := run_walk_item hfront hw
    refine ⟨x, next, hx, ?_, hnext.atRoot.trans hleads⟩
    -- a list hides what is laid below it, so no layer is left
    rw [Value.at?_item, hfinal, Option.bind_some, Value.foldr_overlay_of_not_isMap _ rfl]
    exact hget

end OwnNode

theorem exists_append_of_getElem? {α : Type} {xs : List α} {i : Nat} {x : α}
    (h : xs[i]? = some x) : ∃ front after, xs = front ++ x :: after ∧ front.length = i := by
  obtain ⟨hi, rfl⟩ := List.getElem?_eq_some_iff.mp h
  refine ⟨xs.take i, xs.drop (i + 1), ?_, List.length_take_of_le (Nat.le_of_lt hi)⟩
  rw [← List.drop_eq_getElem_cons hi, List.take_append_drop]

/-- **All nodes are own nodes that are reached by own keys and positions alone**, if the resolution
goes well. -/
theorem exists_ownNode {document final : Value} {scope : Scope} {start done : Progress}
    (hu : document.EveryMap Entries.Unique) (hn : document.EveryMap Mapping.NoUpdate)
    (hrun : (walkRoot library s budget document scope).run start = (.ok final, done))
    {path : TreePath} {node : Value} (hnode : document.at? path = some node)
    (hown : ∀ k, .key k ∈ path → Directive.isKey k = false) :
    ∃ p layers, OwnNode library s budget document scope start path node p layers := by
  induction path using List.reverseRecOn generalizing node with
  | nil =>
    obtain rfl : document = node := by simpa using hnode
    exact ⟨_, _, .root⟩
  | append_singleton path step ih =>
    rw [Value.at?_append, Option.bind_eq_some_iff] at hnode
    obtain ⟨container, hcontainer, hnode⟩ := hnode
    rw [Value.at?_singleton] at hnode
    obtain ⟨p, layers, hc⟩ := ih hcontainer fun k hk => hown k (List.mem_append_left _ hk)
    -- the walk of the container goes well, so it goes well up to the node
    obtain ⟨w, left, hw, -, -⟩ := hc.run_walk hu hn hrun
    cases step with
    | key k =>
      cases container with
      | map entries =>
        obtain ⟨front, after, rfl⟩ := List.append_of_mem (Entries.mem_of_get? hnode)
        obtain ⟨made, q, own, hmade, hall, -⟩ := run_walk_map_eq_ok (hc.everyMap hu hn).self hw
        rw [walkOwn_append, run_bind_eq_ok_iff] at hall
        obtain ⟨result, r, hfront, -⟩ := hall
        have hkey : Directive.isKey k = false := hown k (List.mem_append_right _ (.head _))
        exact ⟨_, _, hc.entry hkey hmade hfront⟩
      | _ => simp at hnode
    | index i =>
      cases container with
      | list items =>
        obtain ⟨front, after, rfl, rfl⟩ := exists_append_of_getElem? hnode
        obtain ⟨values, hall, -⟩ := run_walk_list_eq_ok hw
        rw [walkItems_append, run_bind_eq_ok_iff] at hall
        obtain ⟨firsts, q, hfront, -⟩ := hall
        exact ⟨_, _, hc.item hfront⟩
      | _ => simp at hnode

/-! ### Finished nodes -/

/-- An own node with its walk, which goes well. -/
structure OwnWalk (library : Library) (s : Surroundings) (budget : Nat) (document : Value)
    (scope : Scope) (start : Progress) where
  /-- The place of the node. -/
  place : TreePath
  /-- The node. -/
  node : Value
  /-- The progress at the start of the walk. -/
  entered : Progress
  /-- What the containers of the node have at its place from elsewhere. -/
  layers : List Value
  /-- The value that the walk gives, which is what the node holds by itself. -/
  value : Value
  /-- The progress at the end of the walk. -/
  left : Progress
  /-- It is an own node. -/
  own : OwnNode library s budget document scope start place node entered layers
  /-- The walk goes well. -/
  run_eq : (walk s (fetchBase library s budget) node place scope).run entered = (.ok value, left)

/-- Where on the way to a place the finished nodes begin when the text of number `n` is evaluated:
a container that is still being walked, and the finished entry or item of it. -/
structure Frontier (library : Library) (s : Surroundings) (budget : Nat) (document : Value)
    (scope : Scope) (start : Progress) (path : TreePath) (n : Nat) where
  /-- The container. -/
  outer : OwnWalk library s budget document scope start
  /-- Its entry or item. -/
  inner : OwnWalk library s budget document scope start
  /-- The step from the one to the other. -/
  step : Step
  /-- The way on to the place. -/
  rest : TreePath
  /-- The container is still being walked. -/
  lt_outer : n < outer.left.texts
  /-- The entry or item is finished. -/
  inner_le : inner.left.texts ≤ n
  /-- The one is in the other. -/
  inner_place : inner.place = outer.place ++ [step]
  /-- Both are on the way to the place. -/
  path_eq : path = outer.place ++ step :: rest

namespace Frontier

variable {document final : Value} {scope : Scope} {start done : Progress} {path : TreePath}
  {n : Nat}

/-- What the container has at the place by itself. -/
def held (f : Frontier library s budget document scope start path n) : Option Value :=
  f.outer.value.at? (f.step :: f.rest)

/-- What the container has at the place over what it inherits. -/
def merged (f : Frontier library s budget document scope start path n) : Option Value :=
  (f.outer.layers.foldr Value.overlay f.outer.value).at? (f.step :: f.rest)

/-- The frontier on the way to a place one step further down. -/
def below (f : Frontier library s budget document scope start path n) (step : Step) :
    Frontier library s budget document scope start (path ++ [step]) n :=
  { f with
    rest := f.rest ++ [step]
    path_eq := by rw [← List.cons_append, ← List.append_assoc, ← f.path_eq] }

theorem held_below (f : Frontier library s budget document scope start path n) (step : Step)
    {tree : Value} (h : tree.at? path = f.held) :
    tree.at? (path ++ [step]) = (f.below step).held := by
  have hbelow : (f.below step).held = f.outer.value.at? (f.step :: f.rest ++ [step]) := rfl
  rw [hbelow, Value.at?_append, Value.at?_append, h]
  rfl

/-- In the end, the place has what the container has over what it inherits. -/
theorem at?_final (f : Frontier library s budget document scope start path n)
    (hu : document.EveryMap Entries.Unique) (hn : document.EveryMap Mapping.NoUpdate)
    (hrun : (walkRoot library s budget document scope).run start = (.ok final, done)) :
    final.at? path = f.merged := by
  obtain ⟨w, left, hw, hfinal, -⟩ := f.outer.own.run_walk hu hn hrun
  -- the walk of the container is the one that the frontier has
  rw [f.outer.run_eq] at hw
  obtain rfl := Except.ok.inj (Prod.mk.inj hw).1
  have happend := final.at?_append f.outer.place (f.step :: f.rest)
  rwa [← f.path_eq, hfinal, Option.bind_some] at happend

end Frontier

section Finished

variable {document final : Value} {scope : Scope} {file : Option String} {log : Log}
  {done : Progress} {path : TreePath} {node : Value} {p : Progress} {layers : List Value}

/-- If a node is finished and its container is not, the frontier is between them. -/
theorem exists_frontier_of_lt {start : Progress}
    {o c : OwnWalk library s budget document scope start} {step : Step}
    (hplace : c.place = o.place ++ [step]) (hnumber : c.left.Numbered)
    (hleads : Progress.Leads [] o.left done)
    (hsees : ∀ n tree, o.left.seen n tree →
      c.left.seen n tree ∨ tree.at? c.place = o.value.at? [step])
    {n : Nat} {tree : Value} (hseen : done.seen n tree) (hc : c.left.texts ≤ n)
    (ho : n < o.left.texts) :
    ∃ f : Frontier library s budget document scope start c.place n, tree.at? c.place = f.held := by
  refine ⟨⟨o, c, step, [], ho, hc, hplace, hplace⟩, ?_⟩
  -- the text is one of those between the end of the node and the end of the container
  rcases hleads.seen_cases hseen with hseen | ⟨hle, -, -⟩
  · rcases hsees n tree hseen with hseen | hheld
    · exact absurd (hnumber n tree hseen) (Nat.not_lt.mpr hc)
    · exact hheld
  · exact absurd ho (Nat.not_lt.mpr hle)

/-- What is seen of a finished node is what the container at the frontier has there by itself. -/
theorem exists_frontier (hu : document.EveryMap Entries.Unique)
    (hn : document.EveryMap Mapping.NoUpdate)
    (hrun : (walkRoot library s budget document scope).run (.start file log) = (.ok final, done))
    (h : OwnNode library s budget document scope (.start file log) path node p layers)
    {w : Value} {left : Progress}
    (hw : (walk s (fetchBase library s budget) node path scope).run p = (.ok w, left))
    {n : Nat} {tree : Value} (hseen : done.seen n tree) (hleft : left.texts ≤ n) :
    ∃ f : Frontier library s budget document scope (.start file log) path n,
      tree.at? path = f.held := by
  have hnone : Progress.Numbered (.start file log) := fun _ _ hfalse => hfalse.elim
  -- up along the containers, until one is not finished
  induction h generalizing w left with
  | root =>
    -- nothing is evaluated after the document itself
    obtain ⟨left', hw', rfl⟩ := run_walkRoot_eq_ok hrun
    rw [hw'] at hw
    obtain ⟨-, rfl⟩ := Prod.mk.inj hw
    have hlt : n < left'.texts := (leads_of_run_walk hw').numbered hnone n tree hseen
    exact absurd hlt (Nat.not_lt.mpr hleft)
  | @entry path front after k v p q r made result layers hc hkey hmade hfront ih =>
    have hown := hc.entry hkey hmade hfront
    have hnumber := (leads_of_run_walk hw).numbered (hown.numbered hnone)
    obtain ⟨cw, cleft, hcw, -, hleads⟩ := hc.run_walk hu hn hrun
    -- the container is the first that is not finished, or the frontier is further up
    by_cases hlt : n < cleft.texts
    · obtain ⟨own, x, next, -, hx, -, -, hsees⟩ := run_walk_entry (hc.everyMap hu hu).self
        (hc.everyMap hu hn).self hkey hmade hfront hcw
      rw [hx] at hw
      obtain ⟨-, rfl⟩ := Prod.mk.inj hw
      let o : OwnWalk library s budget document scope _ := ⟨path, _, _, _, cw, cleft, hc, hcw⟩
      let c : OwnWalk library s budget document scope _ :=
        ⟨path.entry k, _, _, _, x, next, hown, hx⟩
      have hplace : c.place = o.place ++ [.key k] := rfl
      exact exists_frontier_of_lt hplace hnumber hleads hsees hseen hleft hlt
    · obtain ⟨f, hsame⟩ := ih hcw (Nat.le_of_not_lt hlt)
      exact ⟨f.below (.key k), f.held_below (.key k) hsame⟩
  | @item path front after v p q values layers hc hfront ih =>
    have hown := hc.item hfront
    have hnumber := (leads_of_run_walk hw).numbered (hown.numbered hnone)
    obtain ⟨cw, cleft, hcw, -, hleads⟩ := hc.run_walk hu hn hrun
    by_cases hlt : n < cleft.texts
    · obtain ⟨all, x, next, -, hx, -, -, hsees⟩ := run_walk_item hfront hcw
      rw [hx] at hw
      obtain ⟨-, rfl⟩ := Prod.mk.inj hw
      let o : OwnWalk library s budget document scope _ := ⟨path, _, _, _, cw, cleft, hc, hcw⟩
      let c : OwnWalk library s budget document scope _ :=
        ⟨path.item front.length, _, _, _, x, next, hown, hx⟩
      have hplace : c.place = o.place ++ [.index front.length] := rfl
      exact exists_frontier_of_lt hplace hnumber hleads hsees hseen hleft hlt
    · obtain ⟨f, hsame⟩ := ih hcw (Nat.le_of_not_lt hlt)
      exact ⟨f.below (.index front.length), f.held_below (.index front.length) hsame⟩

/-- **What `R` and the final tree hold of a finished node.**  Take a document without updates that
is resolved without failure, and a node of it that is reached by own keys and positions alone.
The node is walked, its walk gives a value, and the final tree has at its place that value laid
over what is inherited there.  Of all that is evaluated in the document once the node is
finished, each text sees in `R` at this place what the innermost container that is not finished
has there by itself, and the final tree has there what this container has over what it inherits.
So the two agree exactly if what the container inherits has no part in what is there, and always
if it inherits no mapping. -/
theorem seen_iff_of_finished (hu : document.EveryMap Entries.Unique)
    (hn : document.EveryMap Mapping.NoUpdate)
    (hrun : (walkRoot library s budget document scope).run (.start file log) = (.ok final, done))
    (hnode : document.at? path = some node)
    (hown : ∀ k, .key k ∈ path → Directive.isKey k = false) :
    (∃ p layers, OwnNode library s budget document scope (.start file log) path node p layers)
      ∧ ∀ p layers, OwnNode library s budget document scope (.start file log) path node p layers →
        ∃ w left, (walk s (fetchBase library s budget) node path scope).run p = (.ok w, left)
          ∧ final.at? path = some (layers.foldr Value.overlay w)
          ∧ ∀ n tree, done.seen n tree → left.texts ≤ n →
            ∃ f : Frontier library s budget document scope (.start file log) path n,
              tree.at? path = f.held ∧ final.at? path = f.merged
              ∧ (tree.at? path = final.at? path ↔ f.held = f.merged)
              ∧ ((∀ layer ∈ f.outer.layers, layer.isMap = false) →
                  tree.at? path = final.at? path) := by
  refine ⟨exists_ownNode hu hn hrun hnode hown, ?_⟩
  intro p layers h
  obtain ⟨w, left, hw, hfinal, -⟩ := h.run_walk hu hn hrun
  refine ⟨w, left, hw, hfinal, ?_⟩
  intro n tree hseen hleft
  obtain ⟨f, hheld⟩ := exists_frontier hu hn hrun h hw hseen hleft
  -- both sides are of the container at the frontier, by itself and over what it inherits
  have hmerged := f.at?_final hu hn hrun
  refine ⟨f, hheld, hmerged, by rw [hheld, hmerged], ?_⟩
  intro hlayers
  rw [hheld, hmerged, Frontier.held, Frontier.merged,
    Value.foldr_overlay_of_forall_not_isMap hlayers]

end Finished

/-! ### Two levels below a base -/

section TwoLevels

/-- A mapping whose base has something two levels down, next to an own entry; `z` sees `R` once
the entry is finished. -/
private def twoLevels : Value := .map [
  ("extends", .map [("a", .map [("y", .map [("p", .null)])])]),
  ("a", .map [("y", .map [("q", .null)]), ("z", .str "R")])]

private def standing : Surroundings :=
  ⟨.standard Range.halting, .standard, .keyless "fernet", Range.halting⟩

/-- What is resolved of it when the walk of its own entries starts. -/
private def twoLevelsBase : Value := .map [("a", .map [("y", .map [("p", .null)])])]

/-- What `z` sees. -/
private def twoLevelsSeen : Value := .map [("a", .map [("y", .map [("q", .null)])])]

/-- What comes of it. -/
private def twoLevelsFinal : Value := .map [
  ("a", .map [("y", .map [("p", .null), ("q", .null)]), ("z", twoLevelsSeen)])]

private theorem unique_twoLevels : twoLevels.EveryMap Entries.Unique :=
  Value.everyMap_of_checkMaps (by decide)

private theorem noUpdate_twoLevels : twoLevels.EveryMap Mapping.NoUpdate :=
  Value.everyMap_of_checkMaps (by decide)

private theorem run_twoLevels :
    (walkRoot .empty standing 0 twoLevels []).run (.start none [])
      = (.ok twoLevelsFinal, ((walkRoot .empty standing 0 twoLevels []).run (.start none [])).2) :=
  rfl

private theorem ownNode_twoLevels :
    OwnNode .empty standing 0 twoLevels [] (.start none []) [.key "a", .key "y"]
      (.map [("q", .null)]) (.withIndex (.start none []) twoLevelsBase)
      [.map [("p", .null)], .null] := by
  have ha : OwnNode .empty standing 0 twoLevels [] (.start none []) [.key "a"]
      (.map [("y", .map [("q", .null)]), ("z", .str "R")])
      (.withIndex (.start none []) twoLevelsBase) [.map [("y", .map [("p", .null)])]] :=
    @OwnNode.entry _ _ _ _ _ _ []
      [("extends", .map [("a", .map [("y", .map [("p", .null)])])])] [] "a" _ _
      (.withIndex (.start none []) twoLevelsBase) _ [("a", .map [("y", .map [("p", .null)])])] _ []
      .root rfl rfl rfl
  exact @OwnNode.entry _ _ _ _ _ _ [.key "a"] [] [("z", .str "R")] "y" _ _
      (.withIndex (.start none []) twoLevelsBase) _ [] _ _ ha rfl rfl rfl

/-- What has come from the base by then is missing from what `z` sees, and is there in the end. -/
theorem seen_ne_final_of_twoLevels :
    ∃ (document final : Value) (done : Progress) (path : TreePath) (node : Value) (p : Progress)
      (layers : List Value) (w : Value) (left : Progress) (n : Nat) (tree : Value),
      document.EveryMap Entries.Unique ∧ document.EveryMap Mapping.NoUpdate
        ∧ (walkRoot .empty standing 0 document []).run (.start none []) = (.ok final, done)
        ∧ OwnNode .empty standing 0 document [] (.start none []) path node p layers
        ∧ (walk standing (fetchBase .empty standing 0) node path []).run p = (.ok w, left)
        ∧ done.seen n tree ∧ left.texts ≤ n ∧ tree.at? path ≠ final.at? path := by
  refine ⟨twoLevels, twoLevelsFinal, _, _, _, _, _, .map [("q", .null)], _, 0, twoLevelsSeen,
    unique_twoLevels, noUpdate_twoLevels, run_twoLevels, ownNode_twoLevels, rfl, Or.inr ⟨rfl, rfl⟩,
    Nat.le_refl 0, ?_⟩
  -- `p` is missing from what was seen
  have htree : twoLevelsSeen.at? [.key "a", .key "y"] = some (.map [("q", .null)]) := rfl
  have hfinal : twoLevelsFinal.at? [.key "a", .key "y"]
      = some (.map [("p", .null), ("q", .null)]) := rfl
  rw [htree, hfinal]
  simp

/-- The condition tells this apart: what `a` has at `y` by itself is not what it has over what it
inherits. -/
theorem seen_iff_of_twoLevels :
    ∃ f : Frontier .empty standing 0 twoLevels [] (.start none []) [.key "a", .key "y"] 0,
      f.held = some (.map [("q", .null)])
        ∧ f.merged = some (.map [("p", .null), ("q", .null)]) := by
  have hown : ∀ k, .key k ∈ [Step.key "a", .key "y"] → Directive.isKey k = false := by
    intro k hk
    obtain rfl | rfl : k = "a" ∨ k = "y" := by simpa using hk
    · rfl
    · rfl
  obtain ⟨w, left, hw, -, hall⟩ := (seen_iff_of_finished unique_twoLevels noUpdate_twoLevels
    run_twoLevels rfl hown).2 _ _ ownNode_twoLevels
  have hleft : left.texts = 0 := by
    obtain rfl := congrArg Prod.snd hw
    rfl
  obtain ⟨f, hheld, hmerged, -⟩ := hall 0 twoLevelsSeen (Or.inr ⟨rfl, rfl⟩) (Nat.le_of_eq hleft)
  exact ⟨f, hheld.symm, hmerged.symm⟩

end TwoLevels

end ConfigTree
