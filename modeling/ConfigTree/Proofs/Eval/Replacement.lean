import ConfigTree.Cipher.Fernet
import ConfigTree.Eval.Function
import ConfigTree.Proofs.Outcome
import ConfigTree.Proofs.Text.Occurrence

/-!
# Splitting, joining and replacing

A text that is split at a separator and joined with another text is the text with the one
replaced by the other, and both are refused if that is too long.  What was split can be joined
again.

## Main definitions

* `Function.parts` — the parts of a text between the occurrences of a separator.

## Main results

* `Function.split_eq`, `Function.join_eq`, `Function.replace_eq` — the three functions by the
  parts of a text.
* `join_split_eq_replace` — they agree.
-/

namespace ConfigTree

namespace Function

/-- The parts of a text between the occurrences of a separator. -/
def parts (s p : String) : List String := (Text.splitOn p.toList s.toList).map String.ofList

variable (caller : Caller) (s r : String) {p : String}

theorem map_toList_parts (p : String) :
    (parts s p).map String.toList = Text.splitOn p.toList s.toList := by
  simp [parts, Function.comp_def]

theorem cut_parts (hp : p ≠ "") :
    Text.Cut p.toList s.toList ((parts s p).map String.toList) := by
  rw [map_toList_parts]
  exact Text.cut_splitOn (by simpa using hp) s.toList

/-- The separator put back between the parts gives the text. -/
theorem intercalate_parts (hp : p ≠ "") : String.intercalate p (parts s p) = s := by
  rw [← String.toList_inj, String.toList_intercalate]
  exact (cut_parts s hp).intercalate_eq

/-- Replacing puts the new text between the parts. -/
theorem ofList_replace (hp : p ≠ "") :
    String.ofList (Text.replace p.toList r.toList s.toList)
      = String.intercalate r (parts s p) := by
  rw [← String.toList_inj, String.toList_ofList, String.toList_intercalate, map_toList_parts]
  exact Text.replace_eq (by simpa using hp) r.toList s.toList

theorem split_eq (hp : p ≠ "") :
    split caller [.str s, .str p] = .ok (.list ((parts s p).map Value.str)) := by
  simp [split, checkArity, Arity.admits, string, texts, parts, hp, Function.comp_def]

theorem join_eq (items : List String) :
    join caller [.list (items.map Value.str), .str r]
      = if maxLength < (String.intercalate r items).utf8ByteSize then .error (.limit .joined)
        else .ok (.str (String.intercalate r items)) := by
  have htexts : (items.map Value.str).map Value.text = items := by
    rw [List.map_map]
    exact List.map_id items
  simp [join, checkArity, Arity.admits, string, htexts]

theorem replace_eq (hp : p ≠ "") :
    replace caller [.str s, .str p, .str r]
      = if maxLength < (String.intercalate r (parts s p)).utf8ByteSize
        then .error (.limit .replaced)
        else .ok (.str (String.intercalate r (parts s p))) := by
  simp [replace, string, hp, ofList_replace s r hp]

end Function

/-- **Splitting and joining is replacing.**  A text can be split at any separator that is not
empty, into parts none of which holds the separator.  The parts joined with another text are the
text with the occurrences replaced: both are that text, or both are refused if it is too long.
Joined with the separator, the parts are the text itself, unless that is too long. -/
theorem join_split_eq_replace (M : Number.Machine Evaluated) (caller : Caller) (s r : String)
    {p : String} (hp : p ≠ "") :
    ∃ split join replace, Entries.get? (FunctionTable.standard M) "F.split" = some split
      ∧ Entries.get? (FunctionTable.standard M) "F.join" = some join
      ∧ Entries.get? (FunctionTable.standard M) "F.replace" = some replace
      ∧ ∃ parts : List String, Text.Cut p.toList s.toList (parts.map String.toList)
        ∧ split caller [.str s, .str p] = .ok (.list (parts.map Value.str))
        ∧ (let text := String.intercalate r parts
          if text.utf8ByteSize ≤ maxLength then
            join caller [.list (parts.map Value.str), .str r] = .ok (.str text)
              ∧ replace caller [.str s, .str p, .str r] = .ok (.str text)
          else
            join caller [.list (parts.map Value.str), .str r] = .error (.limit .joined)
              ∧ replace caller [.str s, .str p, .str r] = .error (.limit .replaced))
        ∧ (s.utf8ByteSize ≤ maxLength →
          join caller [.list (parts.map Value.str), .str p] = .ok (.str s))
        ∧ ∀ part ∈ parts, ¬ p.toList <:+: part.toList := by
  -- the parts are the cut of the text; joining and replacing both put a text between them
  have hcut := Function.cut_parts s hp
  refine ⟨Function.split, Function.join, Function.replace, rfl, rfl, rfl, Function.parts s p, hcut,
    Function.split_eq caller s hp, ?_, fun hs => ?_, fun part hpart => ?_⟩
  · intro text
    rw [Function.join_eq, Function.replace_eq caller s r hp]
    by_cases htext : text.utf8ByteSize ≤ maxLength
    · rw [if_pos htext, if_neg (Nat.not_lt.mpr htext), if_neg (Nat.not_lt.mpr htext)]
      exact ⟨rfl, rfl⟩
    · rw [if_neg htext, if_pos (Nat.not_le.mp htext), if_pos (Nat.not_le.mp htext)]
      exact ⟨rfl, rfl⟩
  · rw [Function.join_eq, Function.intercalate_parts s hp, if_neg (Nat.not_lt.mpr hs)]
  · exact hcut.not_infix (by simpa using hp) _ (List.mem_map_of_mem hpart)

/-- A separator that overlaps itself, right at the front, twice in a row, and at the end. -/
theorem join_split_eq_replace_of_overlap :
    let caller : Caller := ⟨⟨[], .null, .null⟩, .keyless "fernet"⟩
    "aa" ≠ ""
      ∧ Text.Cut "aa".toList "aaaaaébaa".toList [[], [], ['a', 'é', 'b'], []]
      ∧ Function.split caller [.str "aaaaaébaa", .str "aa"]
        = .ok (.list [.str "", .str "", .str "aéb", .str ""])
      ∧ Function.join caller [.list [.str "", .str "", .str "aéb", .str ""], .str "-"]
        = .ok (.str "--aéb-")
      ∧ Function.replace caller [.str "aaaaaébaa", .str "aa", .str "-"] = .ok (.str "--aéb-")
      ∧ Function.join caller [.list [.str "", .str "", .str "aéb", .str ""], .str "aa"]
        = .ok (.str "aaaaaébaa") := by
  intro caller
  have hp : "aa" ≠ "" := by decide
  obtain ⟨split, join, replace, hsplit, hjoin, hreplace, parts, hcut, hsplits, hboth, hback, -⟩ :=
    join_split_eq_replace Range.halting caller "aaaaaébaa" "-" hp
  obtain rfl : Function.split = split := Option.some.inj hsplit
  obtain rfl : Function.join = join := Option.some.inj hjoin
  obtain rfl : Function.replace = replace := Option.some.inj hreplace
  -- the parts are known from what splitting gives
  obtain rfl : ["", "", "aéb", ""] = parts := by
    have hparts : Function.parts "aaaaaébaa" "aa" = ["", "", "aéb", ""] := by cbv
    have hmaps := (Function.split_eq caller "aaaaaébaa" hp).symm.trans hsplits
    rw [hparts, Except.ok.injEq, Value.list.injEq] at hmaps
    exact (List.map_inj_right fun _ _ h => Value.str.inj h).mp hmaps
  have htext : String.intercalate "-" ["", "", "aéb", ""] = "--aéb-" := by cbv
  have hsize : "--aéb-".utf8ByteSize ≤ maxLength := by decide
  simp only [htext, if_pos hsize] at hboth
  exact ⟨hp, hcut, hsplits, hboth.1, hboth.2, hback (by decide)⟩

end ConfigTree
