import ConfigTree.Text.CaseTable

/-!
# Upper and lower case

Whole texts in upper and in lower case.  A character may become several, and a
capital sigma becomes the final sigma where it ends a word: some letter stands
before it and none after it, the characters that do not separate letters apart.

## Main definitions

* `upper`, `lower` — the two mappings.
-/

namespace ConfigTree.Text

/-- The run among the positions from `lo` up to `hi` that could move the code point `n`. -/
def findRun? (runs : Array CaseRun) (n lo hi : Nat) : Option CaseRun :=
  if lo < hi then
    let mid := (lo + hi) / 2
    match runs[mid]? with
    | none => none
    | some run =>
      if n < run.first then findRun? runs n lo mid
      else if run.last < n then findRun? runs n (mid + 1) hi
      else some run
  else none
termination_by hi - lo

/-- Where the runs move the code point `n`; a code point of no run stays. -/
def move (runs : Array CaseRun) (n : Nat) : Nat :=
  match findRun? runs n 0 runs.size with
  | some run => if (n - run.first) % run.stride = 0 then (n + run.shift).toNat else n
  | none => n

/-- The other case of one character, by its special form if it has one. -/
def caseOf (special : Array (Nat × List Nat)) (runs : Array CaseRun) (c : Char) : List Char :=
  match special.find? (·.1 == c.toNat) with
  | some (_, ns) => ns.map Char.ofNat
  | none => [Char.ofNat (move runs c.toNat)]

/-- One character in upper case. -/
def upperChar (c : Char) : List Char :=
  if c.toNat < 0x80 then [c.toUpper] else caseOf upperSpecial upperRuns c

/-- One character in lower case, wherever it stands. -/
def lowerChar (c : Char) : List Char :=
  if c.toNat < 0x80 then [c.toLower] else caseOf lowerSpecial lowerRuns c

/-- Text in upper case. -/
def upper (cs : List Char) : List Char := cs.flatMap upperChar

/-- Whether a character with a case comes next, those that do not separate letters
skipped. -/
def meetsCased (cs : List Char) : Bool :=
  match cs.dropWhile (caseIgnorable.has ·.toNat) with
  | c :: _ => cased.has c.toNat
  | [] => false

/-- Lower case of the rest of a text; what stands before it and what is written so far are
held back to front. -/
def lowerFrom (before written : List Char) : List Char → List Char
  | [] => written.reverse
  | c :: cs =>
    let here :=
      if c == 'Σ' then [if meetsCased before && !meetsCased cs then 'ς' else 'σ'] else lowerChar c
    lowerFrom (c :: before) (here.reverse ++ written) cs

/-- Text in lower case. -/
def lower (cs : List Char) : List Char := lowerFrom [] [] cs

@[simp] theorem upper_nil : upper [] = [] := rfl

@[simp] theorem upper_cons (c : Char) (cs : List Char) :
    upper (c :: cs) = upperChar c ++ upper cs := by simp [upper]

@[simp] theorem lower_nil : lower [] = [] := rfl

end ConfigTree.Text
