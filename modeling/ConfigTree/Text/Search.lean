/-!
# Searching text

Occurrences of one text in another, read from left to right and without overlap.
Cutting at the first occurrence is the one step behind the three operations: a
text is cut into parts at every occurrence, or each occurrence is replaced, or it
is asked whether there is one.

## Main definitions

* `cut?` — the text before and after the first occurrence.
* `splitOn`, `replace`, `contains` — the operations.
-/

namespace ConfigTree.Text

/-- What follows `start` in a text that starts with it. -/
def after? : List Char → List Char → Option (List Char)
  | [], s => some s
  | _ :: _, [] => none
  | p :: start, c :: cs => if p = c then after? start cs else none

theorem after?_eq_some_iff {start s rest : List Char} :
    after? start s = some rest ↔ s = start ++ rest := by
  induction start generalizing s with
  | nil => simp [after?, eq_comm]
  | cons p start ih =>
    cases s with
    | nil => simp [after?]
    | cons c cs =>
      by_cases h : p = c
      · simp [after?, h, ih]
      · simp [after?, h, Ne.symm h]

/-- The text before and after the first occurrence of `head :: tail`; what has been passed
is held back to front. -/
def cutFrom? (head : Char) (tail passed : List Char) : List Char → Option (List Char × List Char)
  | [] => none
  | c :: cs =>
    if c = head then
      match after? tail cs with
      | some rest => some (passed.reverse, rest)
      | none => cutFrom? head tail (c :: passed) cs
    else cutFrom? head tail (c :: passed) cs

/-- The text before and after the first occurrence of `head :: tail`. -/
def cut? (head : Char) (tail s : List Char) : Option (List Char × List Char) :=
  cutFrom? head tail [] s

/-- Cutting splits the text around the occurrence. -/
theorem append_of_cutFrom? {head : Char} {tail passed s a b : List Char}
    (h : cutFrom? head tail passed s = some (a, b)) :
    passed.reverse ++ s = a ++ (head :: tail) ++ b := by
  induction s generalizing passed with
  | nil => simp [cutFrom?] at h
  | cons c cs ih =>
    rw [cutFrom?] at h
    split at h
    · next hc =>
      subst hc
      split at h
      · next rest hr =>
        obtain ⟨rfl, rfl⟩ := Prod.mk.inj (Option.some.inj h)
        simp [after?_eq_some_iff.mp hr]
      · simpa using ih h
    · simpa using ih h

theorem length_lt_of_cut? {head : Char} {tail s a b : List Char}
    (h : cut? head tail s = some (a, b)) : b.length < s.length := by
  have := congrArg List.length (append_of_cutFrom? h)
  simp at this
  omega

/-- The parts of the rest of a text, after the parts `done` held back to front. -/
def splitFrom (head : Char) (tail : List Char) (done : List (List Char)) (s : List Char) :
    List (List Char) :=
  match _h : cut? head tail s with
  | none => (s :: done).reverse
  | some (a, b) => splitFrom head tail (a :: done) b
termination_by s.length
decreasing_by exact length_lt_of_cut? (by assumption)

/-- The parts between the occurrences of `sep`, one more than there are occurrences.  The
empty separator occurs nowhere. -/
def splitOn (sep s : List Char) : List (List Char) :=
  match sep with
  | [] => [s]
  | head :: tail => splitFrom head tail [] s

/-- The rest of a text with the occurrences replaced, after the parts `done` held back to
front. -/
def replaceFrom (head : Char) (tail new : List Char) (done : List (List Char)) (s : List Char) :
    List Char :=
  match _h : cut? head tail s with
  | none => (s :: done).reverse.flatten
  | some (a, b) => replaceFrom head tail new (new :: a :: done) b
termination_by s.length
decreasing_by exact length_lt_of_cut? (by assumption)

/-- The text with `new` in the place of every occurrence of `old`. -/
def replace (old new s : List Char) : List Char :=
  match old with
  | [] => s
  | head :: tail => replaceFrom head tail new [] s

/-- Whether `part` occurs in `s`; the empty text does. -/
def contains (part s : List Char) : Bool :=
  match part with
  | [] => true
  | head :: tail => (cut? head tail s).isSome

/-- The parts joined with `sep` between neighbours. -/
def join (sep : List Char) (parts : List (List Char)) : List Char :=
  (parts.intersperse sep).flatten

end ConfigTree.Text
