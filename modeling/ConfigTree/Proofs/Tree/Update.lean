import ConfigTree.Proofs.Text.Split
import ConfigTree.Proofs.Tree.Pathwise

/-!
# Updates are puts

There are two ways to write to the place that a dotted key names.  An update lays a value over
the entry there, going down from mapping to mapping.  A put replaces what is there, whatever the
tree is.  They make the same way: an entry that is not there is added behind the others, and what
is no mapping gives way to an empty one.

So an update is a put of what the value is laid over.  While a document is walked its index is
written by puts and its mappings by updates, and they stay the same.

## Main results

* `Value.put_eq_put_map` — a put that goes through something goes through a mapping.
* `Mapping.updateAt_eq_put` — an update along keys is a put.
* `update_eq_put` — an update is a put, in a mapping and in a tree that holds it.
-/

namespace ConfigTree

namespace Value

/-- What the next key is looked up in: the entries of a mapping, and of anything else, or of
nothing, none. -/
def entriesOf (old : Option Value) : Mapping := (old.bind map?).getD []

/-- **A put that goes through something** goes through a mapping. -/
theorem put_eq_put_map (old : Option Value) (key : String) (rest : TreePath) (v : Value) :
    (old.getD .null).put (.key key :: rest) v
      = (Value.map (entriesOf old)).put (.key key :: rest) v := by
  cases old with
  | none => rfl
  | some w => cases w <;> rfl

/-- A value laid over what stands at a place. -/
def overlaidAt (t : Value) (place : TreePath) (v : Value) : Value :=
  ((t.at? place).getD .null).overlay v

theorem overlaidAt_map_key (es : List (String × Value)) (key next : String) (rest : TreePath)
    (v : Value) : (Value.map es).overlaidAt (.key key :: .key next :: rest) v
      = (Value.map (entriesOf (Entries.get? es key))).overlaidAt (.key next :: rest) v := by
  rw [overlaidAt, overlaidAt, at?_map_key]
  cases Entries.get? es key with
  | none => rfl
  | some w => cases w <;> rfl

end Value

/-- **An update along keys is a put.** -/
theorem Mapping.updateAt_eq_put (target : Mapping) (key : String) (keys : List String)
    (v : Value) :
    .map (target.updateAt (key :: keys) v)
      = (Value.map target).put (TreePath.ofKeys (key :: keys))
          ((Value.map target).overlaidAt (TreePath.ofKeys (key :: keys)) v) := by
  induction keys generalizing target key with
  | nil =>
    -- the last key: both replace the entry, and agree on what it is laid over
    rw [updateAt, TreePath.ofKeys_cons, TreePath.ofKeys_nil, Value.put_map_key]
    congr 1
    refine Entries.alter_congr ?_
    rw [Value.put_nil, Value.overlaidAt, Value.at?_map_key]
    cases Entries.get? target key <;> simp
  | cons next keys ih =>
    -- a key on the way: what stands there, if a mapping or not, is updated further down
    rw [updateAt, TreePath.ofKeys_cons, Value.put_map_key]
    · congr 1
      refine Entries.alter_congr ?_
      rw [← Value.entriesOf, ih, TreePath.ofKeys_cons, Value.put_eq_put_map,
        Value.overlaidAt_map_key]
    · exact List.cons_ne_nil next keys

/-- **An update is a put** at the place that the dotted key names, of the value laid over what is
there.  The same put below a place where the mapping stands leaves the updated mapping there. -/
theorem update_eq_put (target : Mapping) (dotted : String) (v : Value) :
    .map (target.update dotted v)
        = (Value.map target).put (TreePath.dotted [] dotted)
            ((((Value.map target).at? (TreePath.dotted [] dotted)).getD .null).overlay v)
      ∧ ∀ (tree : Value) (path : TreePath), tree.at? path = some (.map target) →
        tree.put path (.map (target.update dotted v))
          = tree.put (path.dotted dotted)
              (((tree.at? (path.dotted dotted)).getD .null).overlay v) := by
  obtain ⟨key, keys, hparts⟩ := List.exists_cons_of_ne_nil (TreePath.parts_ne_nil dotted)
  have hupdate : .map (target.update dotted v)
      = (Value.map target).put (TreePath.ofKeys (key :: keys))
          ((Value.map target).overlaidAt (TreePath.ofKeys (key :: keys)) v) := by
    rw [Mapping.update, hparts]
    exact Mapping.updateAt_eq_put target key keys v
  have hplace (path : TreePath) : path.dotted dotted = path ++ TreePath.ofKeys (key :: keys) := by
    rw [TreePath.dotted, hparts, TreePath.ofKeys]
  refine ⟨?_, fun tree path htree => ?_⟩
  · rw [hplace, List.nil_append]
    exact hupdate
  · rw [hplace, Value.put_append, Value.at?_append, htree, hupdate]
    rfl

/-- An update of a mapping that stands in a list.  The dotted key goes through a scalar and has an
empty part. -/
theorem update_eq_put_of_scalar :
    let target : Mapping := [("a", .map [("b", .null)]), ("s", .bool true), ("l", .list [.null])]
    let tree : Value := .list [.map target]
    tree.at? [.index 0] = some (.map target)
      ∧ tree.put [.index 0] (.map (target.update "s..x" (.bool false)))
        = tree.put [.index 0, .key "s", .key "", .key "x"] (.bool false)
      ∧ target.update "s..x" (.bool false)
        = [("a", .map [("b", .null)]), ("s", .map [("", .map [("x", .bool false)])]),
          ("l", .list [.null])] := by
  intro target tree
  have hparts : TreePath.parts "s..x" = ["s", "", "x"] := by cbv
  refine ⟨rfl, ?_, ?_⟩
  · rw [(update_eq_put target "s..x" (.bool false)).2 tree [.index 0] rfl, TreePath.dotted, hparts]
    rfl
  · have hmap := (update_eq_put target "s..x" (.bool false)).1
    rw [TreePath.dotted, hparts] at hmap
    exact Value.map.inj hmap

end ConfigTree
