import ConfigTree.Proofs.Expr.Scan
import ConfigTree.Proofs.Expr.Size

/-!
# A token read alone

What a token takes of the characters that are left, and what it is read as, are settled by the
characters that it takes: they are read to the same token at any other offset, and before the
end of the source or a blank instead of what stood behind them.  For a number this is not
plain, since each of its three pieces is read as far as it goes: a piece must go no further
before the next piece, or before a blank, than it went before what really follows.

## Main definitions

* `Lexer.Parted rest` — the end of the source or a blank.
* `Lexer.Halts rest` — no digit and no low line.
* `Lexer.Takes piece goal read taken` — a piece of a number takes `taken` before every `goal`.
* `Lexer.numberKind` — what the text of a number means.
* `Lexer.Alone reader c cs kind n` — a token is read from `n` characters on their own.

## Main results

* `Lexer.numberText_takes` — the text of a number.
* `Lexer.scan_alone` — **a token is read alone as it is among others.**
* `Lexer.pos_of_scan` — where a fault is told.
-/

namespace ConfigTree.Lexer

/-! ### What stands behind a token -/

/-- Nothing, or a character that separates tokens. -/
def Parted (rest : List Char) : Prop := ∀ c ∈ rest.head?, isSpace c = true

/-- No digit and no low line: digits do not go on there. -/
def Halts (rest : List Char) : Prop :=
  ∀ c ∈ rest.head?, Text.isDecimalDigit c = false ∧ c ≠ '_'

@[simp] theorem parted_nil : Parted [] := by simp [Parted]

@[simp] theorem parted_space (rest : List Char) : Parted (' ' :: rest) := by simp [Parted, isSpace]

theorem eq_of_isSpace {c : Char} (h : isSpace c = true) :
    c = ' ' ∨ c = '\t' ∨ c = '\r' ∨ c = '\n' := by
  simpa [isSpace, or_assoc] using h

theorem Parted.halts {rest : List Char} (h : Parted rest) : Halts rest := by
  intro c hc
  rcases eq_of_isSpace (h c hc) with rfl | rfl | rfl | rfl <;> exact ⟨rfl, by decide⟩

theorem Parted.not_nameStart {rest : List Char} (h : Parted rest) :
    rest.head?.any isNameStart = false := by
  cases rest with
  | nil => rfl
  | cons c rest => rcases eq_of_isSpace (h c rfl) with rfl | rfl | rfl | rfl <;> rfl

theorem Parted.takeWhile_eq_nil {rest : List Char} (h : Parted rest) :
    rest.takeWhile isNameRest = [] := by
  cases rest with
  | nil => rfl
  | cons c rest => rcases eq_of_isSpace (h c rfl) with rfl | rfl | rfl | rfl <;> rfl

theorem halts_cons {c : Char} (rest : List Char) (hdigit : Text.isDecimalDigit c = false)
    (hline : c ≠ '_') : Halts (c :: rest) := by
  intro d hd
  cases hd
  exact ⟨hdigit, hline⟩

/-! ### The pieces of a number -/

/-- Having `read` what it holds back to front, a piece of a number takes the characters `taken`
before everything that `goal` holds of. -/
def Takes (piece : List Char → List Char → List Char × List Char) (goal : List Char → Prop)
    (read taken : List Char) : Prop :=
  ∀ tail, goal tail → piece read (taken ++ tail) = (taken.reverse ++ read, tail)

theorem groupsFrom_of_halts (read : List Char) : Takes groupsFrom Halts read [] := by
  intro tail htail
  cases tail with
  | nil => rfl
  | cons c rest =>
    obtain ⟨hdigit, hline⟩ := htail c rfl
    cases rest <;> simp [groupsFrom, hdigit, hline]

theorem digitsFrom_of_halts (read : List Char) : Takes digitsFrom Halts read [] := by
  intro tail htail
  cases tail with
  | nil => rfl
  | cons c rest => simp [digitsFrom, (htail c rfl).1]

theorem groupsFrom_takes {read cs read' rest : List Char}
    (h : groupsFrom read cs = (read', rest)) :
    ∃ taken, cs = taken ++ rest ∧ read' = taken.reverse ++ read
      ∧ Takes groupsFrom Halts read taken := by
  fun_induction groupsFrom read cs with
  | case1 read | case3 read | case5 read =>
    cases h
    exact ⟨[], rfl, rfl, groupsFrom_of_halts _⟩
  | case2 read c cs hc ih =>
    obtain ⟨taken, rfl, rfl, htaken⟩ := ih h
    refine ⟨'_' :: c :: taken, rfl, by simp, fun tail htail => ?_⟩
    have hmore := htaken tail htail
    simp [groupsFrom, hc, hmore]
  | case4 read c cs hline hc ih =>
    obtain ⟨taken, rfl, rfl, htaken⟩ := ih h
    refine ⟨c :: taken, rfl, by simp, fun tail htail => ?_⟩
    rw [List.cons_append, groupsFrom_cons hc, htaken tail htail]
    simp

theorem digitsFrom_takes {read cs read' rest : List Char}
    (h : digitsFrom read cs = (read', rest)) :
    ∃ taken, cs = taken ++ rest ∧ read' = taken.reverse ++ read
      ∧ Takes digitsFrom Halts read taken := by
  fun_induction digitsFrom read cs with
  | case1 read | case3 read =>
    cases h
    exact ⟨[], rfl, rfl, digitsFrom_of_halts _⟩
  | case2 read c cs hc ih =>
    obtain ⟨taken, rfl, rfl, htaken⟩ := ih h
    refine ⟨c :: taken, rfl, by simp, fun tail htail => ?_⟩
    rw [List.cons_append, digitsFrom, if_pos hc, htaken tail htail]
    simp

/-- What halts digits and is no point. -/
def HaltsPoint (rest : List Char) : Prop := Halts rest ∧ rest.head? ≠ some '.'

/-- A point alone is a fraction before everything that halts digits. -/
theorem fractionFrom_point (read : List Char) : Takes fractionFrom HaltsPoint read ['.'] := by
  rintro tail ⟨htail, -⟩
  cases tail with
  | nil => rfl
  | cons d tail => simp [fractionFrom, (htail d rfl).1]

theorem fractionFrom_of_halts (read : List Char) : Takes fractionFrom HaltsPoint read [] := by
  rintro tail ⟨-, hpoint⟩
  cases tail with
  | nil => rfl
  | cons d tail =>
    have hd : d ≠ '.' := fun heq => hpoint (by rw [heq]; rfl)
    cases tail <;> simp [fractionFrom, hd]

theorem fractionFrom_takes {read cs read' rest : List Char}
    (h : fractionFrom read cs = (read', rest)) :
    ∃ taken, cs = taken ++ rest ∧ read' = taken.reverse ++ read
      ∧ (taken = [] ∨ ∃ more, taken = '.' :: more) ∧ Takes fractionFrom HaltsPoint read taken := by
  unfold fractionFrom at h
  split at h
  next c cs =>
    split at h
    next hc =>
      obtain ⟨taken, rfl, rfl, htaken⟩ := groupsFrom_takes h
      refine ⟨'.' :: c :: taken, rfl, by simp, .inr ⟨_, rfl⟩, fun tail htail => ?_⟩
      have hmore := htaken tail htail.1
      simp [fractionFrom, hc, hmore]
    next =>
      cases h
      exact ⟨['.'], rfl, rfl, .inr ⟨_, rfl⟩, fractionFrom_point read⟩
  · cases h
    exact ⟨['.'], rfl, rfl, .inr ⟨_, rfl⟩, fractionFrom_point read⟩
  · cases h
    exact ⟨[], rfl, rfl, .inl rfl, fractionFrom_of_halts read⟩

/-- The letter that begins an exponent. -/
def isPowerLetter (c : Char) : Bool := c == 'e' || c == 'E'

theorem eq_of_isPowerLetter {c : Char} (h : isPowerLetter c = true) : c = 'e' ∨ c = 'E' := by
  simpa [isPowerLetter] using h

/-- An exponent without a sign. -/
theorem exponentFrom_digit {e d : Char} (he : isPowerLetter e = true)
    (hd : Text.isDecimalDigit d = true) (read cs : List Char) :
    exponentFrom read (e :: d :: cs) = digitsFrom (d :: e :: read) cs := by
  unfold isPowerLetter at he
  cases cs <;> simp [exponentFrom, digitsFrom, he, hd]

/-- An exponent with a sign. -/
theorem exponentFrom_sign {e s d : Char} (he : isPowerLetter e = true)
    (hs : Text.isDecimalDigit s = false)
    (hd : ((s == '+' || s == '-') && Text.isDecimalDigit d) = true) (read cs : List Char) :
    exponentFrom read (e :: s :: d :: cs) = digitsFrom (d :: s :: e :: read) cs := by
  unfold isPowerLetter at he
  simp only [exponentFrom, he, hs, hd, if_true, Bool.false_eq_true, if_false]

theorem exponentFrom_of_parted (read : List Char) : Takes exponentFrom Parted read [] := by
  intro tail htail
  rcases tail with _ | ⟨c, _ | ⟨d, _ | ⟨e, rest⟩⟩⟩
  · rfl
  · rfl
  all_goals rcases eq_of_isSpace (htail c rfl) with rfl | rfl | rfl | rfl <;> rfl

theorem exponentFrom_takes {read cs read' rest : List Char}
    (h : exponentFrom read cs = (read', rest)) :
    ∃ taken, cs = taken ++ rest ∧ read' = taken.reverse ++ read
      ∧ (taken = [] ∨ ∃ e more, taken = e :: more ∧ isPowerLetter e = true)
      ∧ Takes exponentFrom Parted read taken := by
  -- where there is no exponent, nothing is taken
  have hnone (heq : (read, cs) = (read', rest)) :
      ∃ taken, cs = taken ++ rest ∧ read' = taken.reverse ++ read
        ∧ (taken = [] ∨ ∃ e more, taken = e :: more ∧ isPowerLetter e = true)
        ∧ Takes exponentFrom Parted read taken := by
    cases heq
    exact ⟨[], rfl, rfl, .inl rfl, exponentFrom_of_parted read⟩
  unfold exponentFrom at h
  split at h
  next e s d cs =>
    split at h
    next he =>
      split at h
      next hs =>
        -- digits follow the letter at once
        obtain ⟨taken, hcs, rfl, htaken⟩ := digitsFrom_takes h
        refine ⟨e :: s :: taken, by rw [hcs]; rfl, by simp, .inr ⟨e, _, rfl, he⟩,
          fun tail htail => ?_⟩
        have hmore := htaken tail htail.halts
        rw [List.cons_append, List.cons_append, exponentFrom_digit he hs, hmore]
        simp
      next hs =>
        split at h
        next hd =>
          -- digits follow a sign
          obtain ⟨taken, rfl, rfl, htaken⟩ := digitsFrom_takes h
          refine ⟨e :: s :: d :: taken, rfl, by simp, .inr ⟨e, _, rfl, he⟩, fun tail htail => ?_⟩
          have hmore := htaken tail htail.halts
          rw [List.cons_append, List.cons_append, List.cons_append,
            exponentFrom_sign he (Bool.eq_false_iff.2 hs) hd, hmore]
          simp
        · exact hnone h
    · exact hnone h
  next e d =>
    split at h
    next hed =>
      cases h
      -- a letter and one digit are all that is left
      obtain ⟨he, hd⟩ := Bool.and_eq_true_iff.1 hed
      refine ⟨[e, d], rfl, rfl, .inr ⟨e, _, rfl, he⟩, fun tail htail => ?_⟩
      have hmore := digitsFrom_of_halts (d :: e :: read) tail htail.halts
      rw [List.cons_append, List.cons_append, exponentFrom_digit he hd]
      exact hmore
    · exact hnone h
  · exact hnone h

/-- The text of a number is the same wherever it is parted from what follows. -/
theorem numberText_takes {c : Char} {cs written rest : List Char}
    (h : numberText c cs = (written, rest)) :
    ∃ taken, written = c :: taken ∧ cs = taken ++ rest
      ∧ ∀ tail, Parted tail → numberText c (taken ++ tail) = (c :: taken, tail) := by
  obtain ⟨read₁, rest₁, hgroups⟩ : ∃ r s, groupsFrom [c] cs = (r, s) := ⟨_, _, rfl⟩
  obtain ⟨read₂, rest₂, hfraction⟩ : ∃ r s, fractionFrom read₁ rest₁ = (r, s) := ⟨_, _, rfl⟩
  obtain ⟨read₃, rest₃, hexponent⟩ : ∃ r s, exponentFrom read₂ rest₂ = (r, s) := ⟨_, _, rfl⟩
  simp only [numberText, hgroups, hfraction, hexponent] at h
  cases h
  obtain ⟨whole, rfl, rfl, hwhole⟩ := groupsFrom_takes hgroups
  obtain ⟨fraction, rfl, rfl, hpoint, hpart⟩ := fractionFrom_takes hfraction
  obtain ⟨exponent, rfl, rfl, hletter, hpower⟩ := exponentFrom_takes hexponent
  refine ⟨whole ++ (fraction ++ exponent), by simp, by simp, fun tail htail => ?_⟩
  -- Each piece is halted by the next one that is not empty, or by the tail.
  have hafterPart : HaltsPoint (exponent ++ tail) := by
    rcases hletter with rfl | ⟨e, more, rfl, he⟩
    · refine ⟨htail.halts, fun hhead => ?_⟩
      exact absurd (htail '.' hhead) (by decide)
    · rcases eq_of_isPowerLetter he with rfl | rfl <;>
        exact ⟨halts_cons _ rfl (by decide), by simp⟩
  have hafterWhole : Halts (fraction ++ (exponent ++ tail)) := by
    rcases hpoint with rfl | ⟨more, rfl⟩
    · exact hafterPart.1
    · exact halts_cons _ rfl (by decide)
  have hpieces : whole ++ (fraction ++ exponent) ++ tail
      = whole ++ (fraction ++ (exponent ++ tail)) := by
    simp
  simp only [numberText, hpieces, hwhole _ hafterWhole, hpart _ hafterPart, hpower _ htail]
  simp

/-! ### Numbers -/

/-- What the text of a number means, its low lines left out. -/
def numberKind (written : List Char) : Except LexFault Token.Kind :=
  let clean := written.filter (· != '_')
  if clean.any fun d => d == '.' || d == 'e' || d == 'E' then
    match Number.readFloat? clean with
    | some x => .ok (.float x)
    | none => .error .badFloat
  else (wordFrom 0 clean).map .int

/-- A number is its text, what that means, and the check that no letter follows. -/
theorem scanNumber_eq {c : Char} {cs written rest : List Char}
    (h : numberText c cs = (written, rest)) (pos : Nat) :
    scanNumber pos c cs = match numberKind written with
      | .error fault => .error ⟨pos, fault⟩
      | .ok kind =>
        if rest.head?.any isNameStart then .error ⟨pos + byteSize written, .nameAfterNumber⟩
        else .ok (kind, written.length - 1) := by
  simp only [scanNumber, h, numberKind]
  split
  · cases Number.readFloat? (written.filter (· != '_')) with
    | none => rfl
    | some x =>
      rcases rest with _ | ⟨d, rest⟩
      · rfl
      · rcases Bool.eq_false_or_eq_true (isNameStart d) with hd | hd <;>
          simp only [hd, List.head?_cons, Option.any_some] <;> rfl
  · cases wordFrom 0 (written.filter (· != '_')) with
    | error fault => rfl
    | ok n =>
      rcases rest with _ | ⟨d, rest⟩
      · rfl
      · rcases Bool.eq_false_or_eq_true (isNameStart d) with hd | hd <;>
          simp only [hd, List.head?_cons, Option.any_some] <;> rfl

/-- Of the characters `cs` behind `c`, a reader of tokens takes the first `n`, and it does so at
every offset and before everything that they are parted from, with the same outcome. -/
def Alone (reader : Nat → Char → List Char → Except LexError (Token.Kind × Nat)) (c : Char)
    (cs : List Char) (kind : Token.Kind) (n : Nat) : Prop :=
  ∃ taken rest, cs = taken ++ rest ∧ n = taken.length
    ∧ ∀ pos tail, Parted tail → reader pos c (taken ++ tail) = .ok (kind, n)

variable {pos n : Nat} {c : Char} {cs : List Char} {kind : Token.Kind} {e : LexError}

theorem scanNumber_alone (h : scanNumber pos c cs = .ok (kind, n)) :
    Alone scanNumber c cs kind n := by
  obtain ⟨written, rest, hnumber⟩ : ∃ r s, numberText c cs = (r, s) := ⟨_, _, rfl⟩
  obtain ⟨taken, rfl, rfl, htaken⟩ := numberText_takes hnumber
  rw [scanNumber_eq hnumber] at h
  split at h
  · cases h
  next kind' hkind =>
    split at h
    · cases h
    · cases h
      refine ⟨taken, rest, rfl, rfl, fun pos' tail htail => ?_⟩
      rw [scanNumber_eq (htaken tail htail), hkind, htail.not_nameStart]
      rfl

/-- A fault of a number is told at its start or right behind it. -/
theorem pos_of_scanNumber (h : scanNumber pos c cs = .error e) :
    ∃ front back, c :: cs = front ++ back ∧ e.pos = pos + byteSize front := by
  obtain ⟨written, rest, hnumber⟩ : ∃ r s, numberText c cs = (r, s) := ⟨_, _, rfl⟩
  obtain ⟨taken, rfl, rfl, -⟩ := numberText_takes hnumber
  rw [scanNumber_eq hnumber] at h
  split at h
  · cases h
    exact ⟨[], _, rfl, rfl⟩
  · split at h
    · cases h
      exact ⟨c :: taken, rest, rfl, rfl⟩
    · cases h

/-! ### Words, texts and symbols -/

theorem scanWord_alone (h : scanWord c cs = (kind, n)) :
    Alone (fun _ c cs => .ok (scanWord c cs)) c cs kind n := by
  have hlength : (scanWord c cs).2 = (cs.takeWhile isNameRest).length := by
    unfold scanWord
    dsimp only
    split <;> rfl
  refine ⟨cs.takeWhile isNameRest, cs.dropWhile isNameRest,
    List.takeWhile_append_dropWhile.symm, by rw [← hlength, h], fun pos tail htail => ?_⟩
  have hword : (cs.takeWhile isNameRest ++ tail).takeWhile isNameRest
      = cs.takeWhile isNameRest := by
    rw [List.takeWhile_append_of_pos fun d hd => List.mem_takeWhile_imp hd,
      htail.takeWhile_eq_nil, List.append_nil]
  rw [← h]
  simp only [scanWord, hword]

/-- A quoted text ends at its mark, whatever stands behind it. -/
theorem stringFrom_append {mark : Char} {read cs : List Char} {n m : Nat} {s : String}
    (hslash : mark ≠ '\\') (h : stringFrom mark read n cs = .ok (s, m)) :
    ∃ taken rest, cs = taken ++ rest ∧ m = n + taken.length
      ∧ ∀ tail, stringFrom mark read n (taken ++ tail) = .ok (s, m) := by
  fun_induction stringFrom mark read n cs with
  | case1 | case4 | case5 => cases h
  | case2 read n c cs ih =>
    -- a backslash, with the character behind it
    obtain ⟨taken, rest, rfl, rfl, htaken⟩ := ih h
    refine ⟨'\\' :: c :: taken, rest, rfl, ?_, fun tail => ?_⟩
    · simp only [List.length_cons]
      omega
    · rw [← htaken tail]
      rfl
  | case3 read n cs hback =>
    cases h
    refine ⟨[mark], cs, rfl, rfl, fun tail => ?_⟩
    -- the mark ends the text, whatever comes next
    cases tail <;> simp [stringFrom, hslash]
  | case6 read n c cs hback hmark hline hc ih =>
    obtain ⟨taken, rest, rfl, rfl, htaken⟩ := ih h
    refine ⟨c :: taken, rest, rfl, ?_, fun tail => ?_⟩
    · simp only [List.length_cons]
      omega
    · rw [← htaken tail, List.cons_append]
      simp [stringFrom, hmark, hline, hc]

theorem scanString_alone (hslash : c ≠ '\\') (h : scanString pos c cs = .ok (kind, n)) :
    Alone scanString c cs kind n := by
  unfold scanString at h
  split at h
  next s m hread =>
    cases h
    obtain ⟨taken, rest, rfl, hn, htaken⟩ := stringFrom_append hslash hread
    refine ⟨taken, rest, rfl, by omega, fun pos' tail _ => ?_⟩
    rw [scanString, htaken tail]
  · cases h

/-- A symbol of one character is one before every blank too, and no other takes more than the
next character. -/
theorem symbol?_alone {next : Option Char} {s : Symbol} (h : symbol? c next = some (s, n)) :
    (n = 0 ∧ ∀ tail, Parted tail → symbol? c tail.head? = some (s, 0))
      ∨ ∃ d, next = some d ∧ n = 1 := by
  have hblank (hnone : symbol? c none = some (s, 0))
      (hspace : ∀ d, isSpace d = true → symbol? c (some d) = some (s, 0)) :
      ∀ tail, Parted tail → symbol? c tail.head? = some (s, 0) := by
    intro tail htail
    cases tail with
    | nil => exact hnone
    | cons d tail => exact hspace d (htail d rfl)
  unfold symbol? at h
  split at h <;> cases h
  case h_1 | h_2 | h_3 | h_4 | h_5 | h_6 | h_7 | h_8 => exact .inr ⟨_, rfl, rfl⟩
  all_goals
    refine .inl ⟨rfl, hblank rfl fun d hd => ?_⟩
    rcases eq_of_isSpace hd with rfl | rfl | rfl | rfl <;> rfl

theorem scanSymbol_alone (h : scanSymbol pos c cs = .ok (kind, n)) :
    Alone scanSymbol c cs kind n := by
  unfold scanSymbol at h
  split at h
  next s m hsymbol =>
    cases h
    rcases symbol?_alone hsymbol with ⟨rfl, halone⟩ | ⟨d, hnext, rfl⟩
    · refine ⟨[], cs, rfl, rfl, fun pos' tail htail => ?_⟩
      rw [scanSymbol, List.nil_append, halone tail htail]
    · obtain ⟨rest, rfl⟩ := List.head?_eq_some_iff.1 hnext
      refine ⟨[d], rest, rfl, rfl, fun pos' tail _ => ?_⟩
      rw [List.head?_cons] at hsymbol
      rw [scanSymbol, List.cons_append, List.head?_cons, hsymbol]
  · cases h

/-! ### Tokens -/

/-- **A token is read alone as it is among others.** -/
theorem scan_alone (h : scan pos c cs = .ok (kind, n)) : Alone scan c cs kind n := by
  unfold scan at h
  -- The first character alone decides which of the four readers is at work.
  split at h
  next hdigit =>
    obtain ⟨taken, rest, hcs, hn, htaken⟩ := scanNumber_alone h
    refine ⟨taken, rest, hcs, hn, fun pos' tail htail => ?_⟩
    rw [scan, if_pos hdigit, htaken pos' tail htail]
  next hdigit =>
    split at h
    next hname =>
      obtain ⟨taken, rest, hcs, hn, htaken⟩ := scanWord_alone (Except.ok.inj h)
      refine ⟨taken, rest, hcs, hn, fun pos' tail htail => ?_⟩
      rw [scan, if_neg hdigit, if_pos hname]
      exact htaken pos' tail htail
    next hname =>
      split at h
      next hquote =>
        have hslash : c ≠ '\\' := by
          rintro rfl
          exact absurd hquote (by decide)
        obtain ⟨taken, rest, hcs, hn, htaken⟩ := scanString_alone hslash h
        refine ⟨taken, rest, hcs, hn, fun pos' tail htail => ?_⟩
        rw [scan, if_neg hdigit, if_neg hname, if_pos hquote, htaken pos' tail htail]
      next hquote =>
        obtain ⟨taken, rest, hcs, hn, htaken⟩ := scanSymbol_alone h
        refine ⟨taken, rest, hcs, hn, fun pos' tail htail => ?_⟩
        rw [scan, if_neg hdigit, if_neg hname, if_neg hquote, htaken pos' tail htail]

/-- A fault is told at an offset within the characters that are left. -/
theorem pos_of_scan (h : scan pos c cs = .error e) :
    ∃ front back, c :: cs = front ++ back ∧ e.pos = pos + byteSize front := by
  have hstart (hpos : e.pos = pos) :
      ∃ front back, c :: cs = front ++ back ∧ e.pos = pos + byteSize front :=
    ⟨[], c :: cs, rfl, hpos⟩
  unfold scan at h
  split at h
  · exact pos_of_scanNumber h
  · split at h
    · cases h
    · split at h
      · unfold scanString at h
        split at h
        · cases h
        · cases h
          exact hstart rfl
      · unfold scanSymbol at h
        split at h
        · cases h
        · cases h
          exact hstart rfl

end ConfigTree.Lexer
