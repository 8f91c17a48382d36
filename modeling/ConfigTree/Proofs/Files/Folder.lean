import ConfigTree.Files.Path
import ConfigTree.Proofs.Text.Split
import Mathlib

/-!
# The folder around a file

A file lies in a folder whose name has all parts of the file's name but the last, and the folder's
name is a beginning of the file's.  Slashes and single dots that are doubled or stand at an end
make no part, so they are taken away first; what then follows the last slash is the last part.

## Main definitions

* `FileName.IsParent name around` — `around` is the folder of a file, or there is none.

## Main results

* `FileName.parts_reverse_trimmed` — what is taken away makes no part.
* `FileName.parts_behind_slash` — what follows a slash is a part more.
* `FileName.isParent_folder?` — the folder of every name.
* `FileName.folder?_join` — the folder of a joined name is the one that it was joined to.
-/

namespace ConfigTree.FileName

/-! ### Parts -/

/-- The part that a name starts with: the root, or a dot. -/
def lead (name : String) : List String :=
  if isAbsolute name then ["/"] else if (pieces name).head? == some "." then ["."] else []

/-- What stands between two slashes and is a part. -/
def counts (piece : String) : Bool := piece != "" && piece != "."

theorem parts_eq (name : String) : parts name = lead name ++ (pieces name).filter counts := by
  unfold parts lead counts
  split
  · rfl
  · split <;> rfl

variable {x y : List Char}

@[simp] theorem pieces_ne_nil (name : String) : pieces name ≠ [] := by
  rw [pieces, Ne, List.map_eq_nil_iff]
  exact Text.splitFrom_ne_nil _ _ _ _

/-- What follows the last slash is one piece more. -/
theorem pieces_append (hy : '/' ∉ y) :
    pieces (String.ofList (x ++ '/' :: y)) = pieces (String.ofList x) ++ [String.ofList y] := by
  simp only [pieces, String.toList_ofList, Text.splitOn_append hy, List.map_append, List.map_cons,
    List.map_nil]

/-- How a name starts does not depend on what follows its first slash. -/
theorem lead_append (hy : '/' ∉ y) :
    lead (String.ofList (x ++ '/' :: y)) = lead (String.ofList (x ++ ['/'])) := by
  have hnil : '/' ∉ ([] : List Char) := List.not_mem_nil
  -- the first piece is one of what stands before the slash, for there always is one
  have hhead : ∀ z, '/' ∉ z → (pieces (String.ofList (x ++ '/' :: z))).head?
      = (pieces (String.ofList x)).head? := by
    intro z hz
    rw [pieces_append hz, List.head?_append_of_ne_nil _ (pieces_ne_nil _)]
  have habsolute : ∀ z, isAbsolute (String.ofList (x ++ '/' :: z))
      = isAbsolute (String.ofList (x ++ ['/'])) := by
    intro z
    simp only [isAbsolute, String.toList_ofList]
    cases x <;> rfl
  rw [lead, lead, habsolute, hhead y hy, hhead [] hnil]

/-- A name that does not start at a slash starts the same with one behind it. -/
theorem lead_append_slash (hx : x ≠ []) :
    lead (String.ofList (x ++ ['/'])) = lead (String.ofList x) := by
  have habsolute : isAbsolute (String.ofList (x ++ ['/'])) = isAbsolute (String.ofList x) := by
    simp only [isAbsolute, String.toList_ofList, List.head?_append_of_ne_nil x hx]
  rw [lead, lead, habsolute, pieces_append List.not_mem_nil,
    List.head?_append_of_ne_nil _ (pieces_ne_nil _)]

/-- **What follows a slash is a part more**, if it is not empty and no dot. -/
theorem parts_behind_slash (hy : '/' ∉ y) (hpart : counts (String.ofList y) = true) :
    parts (String.ofList (x ++ '/' :: y))
      = parts (String.ofList (x ++ ['/'])) ++ [String.ofList y] := by
  have hempty : counts (String.ofList []) = false := rfl
  rw [parts_eq, parts_eq, lead_append hy, pieces_append hy, pieces_append List.not_mem_nil]
  simp [List.filter_append, hpart, hempty]

/-- Otherwise it is none. -/
theorem parts_append (hx : x ≠ []) (hy : '/' ∉ y) (hpart : counts (String.ofList y) = false) :
    parts (String.ofList (x ++ '/' :: y)) = parts (String.ofList x) := by
  rw [parts_eq, parts_eq, lead_append hy, lead_append_slash hx, pieces_append hy]
  simp [List.filter_append, hpart]

/-- A name without a slash is its only part. -/
theorem parts_of_notMem (hx : x ≠ []) (hslash : '/' ∉ x) :
    parts (String.ofList x) = [String.ofList x] := by
  have hpieces : pieces (String.ofList x) = [String.ofList x] := by
    simp only [pieces, String.toList_ofList, Text.splitOn_of_notMem hslash, List.map_cons,
      List.map_nil]
  have habsolute : isAbsolute (String.ofList x) = false := by
    cases x with
    | nil => exact absurd rfl hx
    | cons c x =>
      have hc : c ≠ '/' := fun h => hslash (h ▸ List.mem_cons_self)
      simp [isAbsolute, hc]
  have hne : String.ofList x ≠ "" := by simpa using hx
  rw [parts_eq, lead, habsolute, hpieces]
  by_cases hdot : String.ofList x = "." <;> simp [counts, hdot, hne]

@[simp] theorem parts_empty : parts "" = [] := by cbv

@[simp] theorem parts_root : parts "/" = ["/"] := by cbv

/-! ### Trimming -/

/-- **What is taken away at the end of a name makes no part.** -/
theorem parts_reverse_trimmed (cs : List Char) :
    parts (String.ofList (trimmed cs).reverse) = parts (String.ofList cs.reverse) := by
  have hempty : counts (String.ofList []) = false := rfl
  have hdot : counts (String.ofList ['.']) = false := rfl
  -- on the steps of the trimming, each of which takes a slash or a dot behind one
  fun_induction trimmed cs with
  | case1 => rfl
  | case2 cs hroot ih =>
    have hcs : cs.reverse ≠ [] := by simpa using hroot
    rw [ih, List.reverse_cons, parts_append hcs List.not_mem_nil hempty]
  | case3 cs hnil =>
    obtain rfl := List.isEmpty_iff.1 hnil
    cbv
  | case4 cs hne ih =>
    have hcs : cs.reverse ≠ [] := by simpa [List.isEmpty_iff] using hne
    rw [ih, List.reverse_cons, List.reverse_cons, List.append_assoc, List.singleton_append,
      parts_append hcs (by decide) hdot]
  | case5 => rfl

theorem trimmed_suffix (cs : List Char) : trimmed cs <:+ cs := by
  fun_induction trimmed cs with
  | case1 => exact List.suffix_refl _
  | case2 cs _ ih => exact ih.trans (List.suffix_cons _ _)
  | case3 cs hnil =>
    obtain rfl := List.isEmpty_iff.1 hnil
    exact List.suffix_cons _ _
  | case4 cs _ ih => exact ih.trans ((List.suffix_cons _ _).trans (List.suffix_cons _ _))
  | case5 => exact List.suffix_refl _

/-- Nothing is left that makes no part: a slash at the end is the root, and a dot there is all
there is. -/
theorem trimmed_cases (cs : List Char) : trimmed cs = ['/']
    ∨ (∀ rest, trimmed cs ≠ '/' :: rest) ∧ ∀ rest, trimmed cs ≠ '.' :: '/' :: rest := by
  fun_induction trimmed cs with
  | case1 => exact .inl rfl
  | case2 cs _ ih => exact ih
  | case3 => exact .inl rfl
  | case4 cs _ ih => exact ih
  | case5 cs _ hslash hdot =>
    exact .inr ⟨fun rest h => hslash rest h, fun rest h => hdot rest h⟩

/-! ### The folder -/

/-- `around` is the folder of a file: it has all parts of the file's name but the last, and the
file's name starts with it.  A name without parts and the root have none. -/
inductive IsParent (name : String) : Option String → Prop
  | none : parts name = [] ∨ parts name = ["/"] → IsParent name none
  | some {around : String} : parts name ≠ [] → parts name ≠ ["/"] →
    around.toList <+: name.toList → parts around = (parts name).dropLast →
    IsParent name (some around)

/-- The parts around the last one, which follows the last slash. -/
theorem parts_around {cs : List Char} (hparts : parts (String.ofList cs.reverse) ≠ [])
    (hslash : ∀ rest, cs ≠ '/' :: rest) (hdot : ∀ rest, cs ≠ '.' :: '/' :: rest) :
    parts (String.ofList (cs.dropWhile (· != '/')).reverse)
      = (parts (String.ofList cs.reverse)).dropLast := by
  obtain ⟨last, around, hcs, hlast, haround⟩ : ∃ last around, cs = last ++ around
      ∧ '/' ∉ last ∧ around = cs.dropWhile (· != '/') := by
    refine ⟨cs.takeWhile (· != '/'), _, List.takeWhile_append_dropWhile.symm, ?_, rfl⟩
    intro hmem
    simpa using List.mem_takeWhile_imp hmem
  rw [← haround]
  cases around with
  -- there is no slash, so the name is its only part and nothing stands around it
  | nil =>
    have hne : cs ≠ [] := by
      rintro rfl
      exact hparts parts_empty
    have hwhole : '/' ∉ cs := by rwa [hcs, List.append_nil]
    have halone : parts (String.ofList cs.reverse) = [String.ofList cs.reverse] :=
      parts_of_notMem (by simpa using hne) (by simpa using hwhole)
    rw [halone]
    exact parts_empty
  | cons c around =>
    -- what is left starts at the last slash
    obtain rfl : c = '/' := by
      have hhead := List.head?_dropWhile_not (· != '/') cs
      rw [← haround] at hhead
      simpa using hhead
    -- what follows the last slash is a part, or the trimming would have taken it
    have hpart : counts (String.ofList last.reverse) = true := by
      simp only [counts, Bool.and_eq_true, bne_iff_ne, ne_eq]
      refine ⟨fun h => ?_, fun h => ?_⟩
      · obtain rfl : last = [] := by simpa using h
        exact hslash around hcs
      · have hone : last.reverse = ['.'] := by
          rw [← String.toList_ofList (l := last.reverse), h]
          rfl
        obtain rfl : last = ['.'] := by simpa using hone
        exact hdot around hcs
    have hname : cs.reverse = around.reverse ++ '/' :: last.reverse := by simp [hcs]
    rw [hname, parts_behind_slash (by simpa using hlast) hpart, List.dropLast_concat,
      List.reverse_cons]

/-- **The folder of a name** is what its name says. -/
theorem isParent_folder? (name : String) : IsParent name (folder? name) := by
  unfold folder?
  split
  next hnone => exact .none (.inl hnone)
  next hroot => exact .none (.inr hroot)
  next hparts hroot =>
    let cs := trimmed name.toList.reverse
    have hname : parts (String.ofList cs.reverse) = parts name := by
      rw [parts_reverse_trimmed, List.reverse_reverse, String.ofList_toList]
    -- the name is trimmed, its last part is dropped, and what is left is trimmed again
    have hsuffix : trimmed (cs.dropWhile (· != '/')) <:+ name.toList.reverse :=
      (trimmed_suffix _).trans ((List.dropWhile_suffix _).trans (trimmed_suffix _))
    refine .some hparts hroot ?_ ?_
    · rw [String.toList_ofList]
      simpa using List.reverse_prefix.2 hsuffix
    · rw [← hname] at hparts hroot ⊢
      -- the root was a case of its own
      rcases trimmed_cases name.toList.reverse with hcs | ⟨hslash, hdot⟩
      · refine absurd ?_ hroot
        show parts (String.ofList (trimmed name.toList.reverse).reverse) = _
        rw [hcs]
        exact parts_root
      · rw [parts_reverse_trimmed]
        exact parts_around hparts hslash hdot

/-- **The folder of a joined name** is the one that it was joined to. -/
theorem folder?_join (around : String) {piece : String} (hslash : '/' ∉ piece.toList)
    (hpart : counts piece = true) :
    ∃ same, folder? (join around piece) = some same ∧ parts same = parts around := by
  have hne : piece.toList ≠ [] := by
    rintro h
    obtain rfl : piece = "" := by simpa using h
    cases hpart
  have hparts : parts (join around piece) = parts around ++ [piece] := by
    have hrelative : isAbsolute piece = false := by
      cases hp : piece.toList with
      | nil => exact absurd hp hne
      | cons c cs =>
        have hc : c ≠ '/' := fun h => hslash (by simp [hp, h])
        simp [isAbsolute, hp, hc]
    have hcounts : counts (String.ofList piece.toList) = true := by rwa [String.ofList_toList]
    have hnil : counts (String.ofList []) = false := rfl
    unfold join
    rw [if_neg (by simp [hrelative])]
    split
    -- nothing to join to
    next hend =>
      obtain rfl : around = "" := by simpa using hend
      have halone := parts_of_notMem hne hslash
      rw [String.ofList_toList] at halone
      rw [halone, parts_empty, List.nil_append]
    next hend =>
      -- the slash is there already
      obtain ⟨front, hfront⟩ : ∃ front, around.toList = front ++ ['/'] :=
        ⟨_, (List.dropLast_append_getLast? _ hend).symm⟩
      have hjoined : around ++ piece = String.ofList (front ++ '/' :: piece.toList) := by
        rw [← String.toList_inj]
        simp [hfront]
      have haround : around = String.ofList (front ++ ['/']) := by
        rw [← hfront, String.ofList_toList]
      rw [hjoined, parts_behind_slash hslash hcounts, ← haround, String.ofList_toList]
    next c _ hend =>
      -- a slash is put between them
      have hx : around.toList ≠ [] := by
        intro h
        simp [h] at hend
      have hjoined : around ++ "/" ++ piece
          = String.ofList (around.toList ++ '/' :: piece.toList) := by
        rw [← String.toList_inj]
        simp
      rw [hjoined, parts_behind_slash hslash hcounts, parts_append hx List.not_mem_nil hnil,
        String.ofList_toList, String.ofList_toList]
  -- the folder of the joined name has its parts but the last, which is the piece
  have hfolder := isParent_folder? (join around piece)
  cases hf : folder? (join around piece) with
  | some same =>
    rw [hf] at hfolder
    cases hfolder with
    | some _ _ _ hsame => exact ⟨same, rfl, by rw [hsame, hparts, List.dropLast_concat]⟩
  | none =>
    rw [hf] at hfolder
    cases hfolder with
    | none hnone =>
      rw [hparts] at hnone
      rcases hnone with h | h
      · simp at h
      · -- a part without a slash is not the root
        obtain ⟨-, hroot⟩ : parts around = [] ∧ piece = "/" := by
          rw [List.append_eq_singleton_iff] at h
          simpa using h
        exact absurd (by simp [hroot]) hslash

end ConfigTree.FileName
