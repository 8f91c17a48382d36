import ConfigTree.TreePath

/-!
# Laying values over one another

A mapping laid over a mapping is merged with it entry by entry; anything else
replaces what it is laid over.

## Main definitions

* `Value.overlay` — a value laid over another.
* `Mapping.overlay` — a mapping laid over another: present keys keep their places,
  new ones follow.
* `Mapping.update` — a value laid over the entry that a dotted key names.
-/

namespace ConfigTree

mutual

/-- The value `top` laid over `base`. -/
def Value.overlay (base top : Value) : Value :=
  match base with
  | .map under =>
    match top with
    | .map entries => .map (Mapping.overlay under entries)
    | v => v
  | _ => top
termination_by structural base

/-- Entries laid over a mapping: what is present stays in its place, with what is laid over it,
and the rest follows. -/
def Mapping.overlay (base : Mapping) (top : List (String × Value)) : Mapping :=
  match base with
  | [] => top
  | (key, v) :: rest =>
    match Entries.get? top key with
    | some w => (key, Value.overlay v w) :: Mapping.overlay rest (Entries.erase top key)
    | none => (key, v) :: Mapping.overlay rest top
termination_by structural base

end

/-- A value laid over the entry at the end of `keys`.  What stands on the way and is no mapping
gives way to a new one. -/
def Mapping.updateAt (target : Mapping) (keys : List String) (v : Value) : Mapping :=
  match keys with
  | [] => target
  | [key] => target.alter key fun old => (old.getD .null).overlay v
  | key :: rest =>
    target.alter key fun old => .map (updateAt ((old.bind Value.map?).getD []) rest v)

/-- A value laid over the entry that a dotted key names. -/
def Mapping.update (target : Mapping) (dotted : String) (v : Value) : Mapping :=
  target.updateAt (TreePath.parts dotted) v

@[simp] theorem Value.overlay_map_map (base top : List (String × Value)) :
    Value.overlay (.map base) (.map top) = .map (Mapping.overlay base top) := rfl

@[simp] theorem Mapping.overlay_nil (top : Mapping) : Mapping.overlay [] top = top := rfl

theorem Mapping.overlay_cons (key : String) (v : Value) (rest : List (String × Value))
    (top : Mapping) : Mapping.overlay ((key, v) :: rest) top
      = match top.get? key with
        | some w => (key, v.overlay w) :: Mapping.overlay rest (top.erase key)
        | none => (key, v) :: Mapping.overlay rest top := rfl

/-- What is no mapping replaces all. -/
theorem Value.overlay_of_not_isMap (base : Value) {top : Value} (h : top.isMap = false) :
    base.overlay top = top := by
  cases base with
  | map => cases top <;> first | rfl | simp at h
  | _ => rfl

/-- What is no mapping is replaced by all. -/
theorem Value.overlay_of_base_not_isMap {base : Value} (h : base.isMap = false) (top : Value) :
    base.overlay top = top := by
  cases base <;> first | rfl | simp at h

/-- A value laid over an absent one is unchanged. -/
@[simp] theorem Value.overlay_null (top : Value) : Value.overlay .null top = top := rfl

end ConfigTree
