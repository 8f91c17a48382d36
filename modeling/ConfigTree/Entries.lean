/-!
# Ordered entries

A mapping is a list of entries in document order.  A key is meant to occur once;
the operations look at its first occurrence and keep that invariant.  One
operation, `alter`, changes an entry in place or appends it, and every other
change is an instance of it.

## Main definitions

* `Entries` — the entries; `Entries.get?` — the look-up.
* `Entries.alter`, `Entries.insert`, `Entries.erase` — the changes.
-/

namespace ConfigTree

/-- Key and value pairs in order. -/
abbrev Entries (α : Type) := List (String × α)

namespace Entries

variable {α β : Type}

/-- The keys in order. -/
def keys (es : Entries α) : List String := es.map Prod.fst

/-- The value of `key`. -/
def get? : Entries α → String → Option α
  | [], _ => none
  | (k, v) :: rest, key => if k = key then some v else get? rest key

/-- Whether `key` has a value. -/
def has (es : Entries α) (key : String) : Bool := (es.get? key).isSome

/-- Gives `key` the value that `f` makes of the present one.  A present key keeps its
place, a new one goes to the end. -/
def alter : Entries α → String → (Option α → α) → Entries α
  | [], key, f => [(key, f none)]
  | (k, v) :: rest, key, f =>
    if k = key then (k, f (some v)) :: rest else (k, v) :: alter rest key f

/-- Gives `key` the value `v`. -/
def insert (es : Entries α) (key : String) (v : α) : Entries α := es.alter key fun _ => v

/-- Takes `key` away; the others keep their order. -/
def erase : Entries α → String → Entries α
  | [], _ => []
  | (k, v) :: rest, key => if k = key then rest else (k, v) :: erase rest key

/-- Every key occurs once. -/
def Unique (es : Entries α) : Prop := es.keys.Nodup

@[simp] theorem keys_nil : keys ([] : Entries α) = [] := rfl

@[simp] theorem keys_cons (k : String) (v : α) (es : Entries α) :
    keys ((k, v) :: es) = k :: keys es := rfl

@[simp] theorem get?_nil (key : String) : get? ([] : Entries α) key = none := rfl

theorem get?_cons (k key : String) (v : α) (es : Entries α) :
    get? ((k, v) :: es) key = if k = key then some v else get? es key := rfl

@[simp] theorem get?_cons_self (k : String) (v : α) (es : Entries α) :
    get? ((k, v) :: es) k = some v := by simp [get?]

@[simp] theorem get?_alter_self (es : Entries α) (key : String) (f : Option α → α) :
    (es.alter key f).get? key = some (f (es.get? key)) := by
  induction es with
  | nil => simp [alter, get?]
  | cons e es ih =>
    obtain ⟨k, v⟩ := e
    by_cases h : k = key <;> simp [alter, get?, h, ih]

theorem get?_alter_of_ne (es : Entries α) {key other : String} (h : key ≠ other)
    (f : Option α → α) : (es.alter key f).get? other = es.get? other := by
  induction es with
  | nil => simp [alter, get?, h]
  | cons e es ih =>
    obtain ⟨k, v⟩ := e
    by_cases hk : k = key
    · subst hk
      simp [alter, get?, h]
    · simp [alter, get?, hk, ih]

/-- What a key has is in one of the entries. -/
theorem mem_of_get? {es : Entries α} {key : String} {v : α} (h : es.get? key = some v) :
    (key, v) ∈ es := by
  induction es with
  | nil => cases h
  | cons e es ih =>
    obtain ⟨k, w⟩ := e
    by_cases hk : k = key
    · obtain rfl : w = v := by simpa [get?_cons, hk] using h
      exact hk ▸ List.mem_cons_self
    · rw [get?_cons, if_neg hk] at h
      exact List.mem_cons_of_mem _ (ih h)

/-- A key has a value if it is one of the keys. -/
theorem mem_keys_iff {es : Entries α} {key : String} : key ∈ es.keys ↔ es.has key = true := by
  induction es with
  | nil => simp [has]
  | cons e es ih =>
    obtain ⟨k, v⟩ := e
    by_cases h : k = key
    · simp [has, get?, h]
    · simp only [keys_cons, List.mem_cons, has, get?, h, if_false, ih]
      simp [Ne.symm h]

theorem keys_alter (es : Entries α) (key : String) (f : Option α → α) :
    (es.alter key f).keys = if key ∈ es.keys then es.keys else es.keys ++ [key] := by
  induction es with
  | nil => simp [alter]
  | cons e es ih =>
    obtain ⟨k, v⟩ := e
    by_cases h : k = key
    · simp [alter, h]
    · simp only [alter, h, if_false, keys_cons, ih, List.mem_cons, Ne.symm h, false_or]
      split <;> simp

/-- Altering keeps the keys unique. -/
theorem Unique.alter {es : Entries α} (hu : es.Unique) (key : String) (f : Option α → α) :
    (es.alter key f).Unique := by
  unfold Unique at *
  rw [keys_alter]
  split
  · exact hu
  · next h =>
    rw [List.nodup_append]
    refine ⟨hu, by simp, ?_⟩
    rintro a ha b hb rfl
    exact h (List.mem_singleton.mp hb ▸ ha)

end Entries

end ConfigTree
