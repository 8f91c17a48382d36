import ConfigTree.Expr.Lexer
import ConfigTree.Value.Text
import Mathlib

/-!
# Tokens of written values

What the reader of tokens makes of the pieces that the literal of a value is written with:
symbols, blanks, words, quoted texts and whole numbers.  A piece is read whatever stands
behind it, except that no word and no number may be carried on there.

## Main definitions

* `Lexer.Scans cs ks rest` — before `rest`, the characters `cs` are read as tokens of the
  kinds `ks`.
* `Lexer.Separates rest` — what may stand behind a word or a number.

## Main results

* `Lexer.scans_quoted` — a quoted text is read as that text.
* `Lexer.scans_digits` — the digits of a whole number are read as that number.
* `Lexer.exists_tokenize_of_scans` — what is read before the end are the tokens of a source.
-/

namespace ConfigTree.Lexer

/-- Before `rest`, the characters `cs` are read as tokens of the kinds `ks`. -/
def Scans (cs : List Char) (ks : List Token.Kind) (rest : List Char) : Prop :=
  ∀ (pos : Nat) (done : List Token), ∃ (ts : List Token) (pos' : Nat), ts.map Token.kind = ks ∧
    tokensFrom 0 pos done (cs ++ rest) = tokensFrom 0 pos' (ts.reverse ++ done) rest

/-- Nothing, a comma, a colon or a closing bracket: no word and no number goes on there. -/
def Separates (rest : List Char) : Prop := ∀ c ∈ rest.head?, c ∈ [',', ':', ']', '\x7d']

theorem separates_cons {c : Char} (rest : List Char) (h : c ∈ [',', ':', ']', '\x7d']) :
    Separates (c :: rest) := by
  simpa [Separates] using h

theorem Separates.head_eq {c : Char} {rest : List Char} (h : Separates (c :: rest)) :
    c = ',' ∨ c = ':' ∨ c = ']' ∨ c = '\x7d' := by
  have hmem : c ∈ [',', ':', ']', '\x7d'] := h c rfl
  simpa using hmem

theorem Scans.nil (rest : List Char) : Scans [] [] rest :=
  fun pos _ => ⟨[], pos, rfl, rfl⟩

theorem Scans.append {cs cs' rest : List Char} {ks ks' : List Token.Kind}
    (h : Scans cs ks (cs' ++ rest)) (h' : Scans cs' ks' rest) :
    Scans (cs ++ cs') (ks ++ ks') rest := by
  intro pos done
  obtain ⟨ts, pos₁, rfl, hts⟩ := h pos done
  -- the second run starts where the first one stopped, with its tokens done
  obtain ⟨ts', pos₂, rfl, hts'⟩ := h' pos₁ (ts.reverse ++ done)
  refine ⟨ts ++ ts', pos₂, by simp, ?_⟩
  rw [List.append_assoc, hts, hts']
  simp

/-- The characters of a token are passed over. -/
theorem tokensFrom_passing (cs rest : List Char) (pos : Nat) (done : List Token) :
    tokensFrom cs.length pos done (cs ++ rest)
      = tokensFrom 0 (pos + String.utf8Len cs) done rest := by
  induction cs generalizing pos with
  | nil => rfl
  | cons c cs ih =>
    have hpos : pos + String.utf8Len (c :: cs) = pos + c.utf8Size + String.utf8Len cs := by
      rw [String.utf8Len_cons]
      omega
    rw [hpos, ← ih (pos + c.utf8Size)]
    rfl

/-- One token. -/
theorem Scans.of_scan {c : Char} {cs rest : List Char} {kind : Token.Kind}
    (hc : isSpace c = false)
    (h : ∀ pos, scan pos c (cs ++ rest) = .ok (kind, cs.length)) : Scans (c :: cs) [kind] rest := by
  intro pos done
  refine ⟨[⟨kind, pos, c.utf8Size + byteSize ((cs ++ rest).take cs.length)⟩],
    pos + c.utf8Size + String.utf8Len cs, rfl, ?_⟩
  rw [List.cons_append, tokensFrom, hc, h]
  exact tokensFrom_passing cs rest _ _

theorem Scans.space (rest : List Char) : Scans [' '] [] rest :=
  fun pos _ => ⟨[], pos + 1, rfl, rfl⟩

/-- A symbol that no further character carries on. -/
theorem Scans.symbol {c : Char} {s : Symbol} (rest : List Char) (hdigit : Text.isDigit c = false)
    (hname : isNameStart c = false) (hquote : (c == '\'' || c == '"') = false)
    (hspace : isSpace c = false) (h : ∀ next, symbol? c next = some (s, 0)) :
    Scans [c] [.symbol s] rest := by
  refine .of_scan hspace fun pos => ?_
  simp [scan, hdigit, hname, hquote, scanSymbol, h]

/-! ### Words -/

theorem Separates.takeWhile_append {rest cs : List Char} (h : Separates rest)
    (hcs : ∀ c ∈ cs, isNameRest c = true) : (cs ++ rest).takeWhile isNameRest = cs := by
  rw [List.takeWhile_append_of_pos hcs]
  cases rest with
  | nil => simp
  | cons c rest =>
    have hc : isNameRest c = false := by
      rcases h.head_eq with rfl | rfl | rfl | rfl <;> rfl
    simp [hc]

/-- A keyword is read as that keyword. -/
theorem Scans.keyword {c : Char} {cs rest : List Char} {k : Keyword} (hrest : Separates rest)
    (hc : Text.isDigit c = false) (hname : isNameStart c = true) (hspace : isSpace c = false)
    (hcs : cs.all isNameRest = true)
    (hk : Keyword.ofString? (String.ofList (c :: cs)) = some k) :
    Scans (c :: cs) [.keyword k] rest := by
  refine .of_scan hspace fun pos => ?_
  simp only [scan, hc, hname, scanWord, hrest.takeWhile_append (List.all_eq_true.1 hcs), hk]
  rfl

/-! ### Quoted texts -/

/-- A character as it stands in a quoted text. -/
def escaped (c : Char) : List Char := if c == '\\' || c == '\'' then ['\\', c] else [c]

theorem stringFrom_escaped {cs : List Char} (h : '\n' ∉ cs) (read : List Char) (n : Nat)
    (rest : List Char) :
    stringFrom '\'' read n (cs.flatMap escaped ++ '\'' :: rest)
      = .ok (String.ofList (read.reverse ++ cs), n + (cs.flatMap escaped).length + 1) := by
  induction cs generalizing read n with
  | nil => simp [stringFrom]
  | cons c cs ih =>
    have hcs : '\n' ∉ cs := fun hmem => h (List.mem_cons_of_mem c hmem)
    have hline : c ≠ '\n' := fun heq => h (by simp [heq])
    -- a backslash and a quote are written as two characters, all others as themselves
    by_cases hback : c = '\\'
    · subst hback
      simp [escaped, stringFrom, unescape, ih hcs]
      omega
    by_cases hquote : c = '\''
    · subst hquote
      simp [escaped, stringFrom, unescape, ih hcs]
      omega
    · simp [escaped, stringFrom, hback, hquote, hline, ih hcs]
      omega

theorem toList_quoted (s : String) :
    (Value.quoted s).toList = '\'' :: (s.toList.flatMap escaped ++ ['\'']) := by
  simp only [Value.quoted, String.toList_ofList, List.cons_append, List.nil_append]
  rfl

/-- A quoted text is read as that text. -/
theorem scans_quoted {s : String} (h : '\n' ∉ s.toList) (rest : List Char) :
    Scans (Value.quoted s).toList [.str s] rest := by
  rw [toList_quoted]
  refine .of_scan rfl fun pos => ?_
  have hread := stringFrom_escaped h [] 0 rest
  rw [List.append_assoc, List.singleton_append]
  simp [scan, Text.isDigit, isNameStart, scanString, hread]

/-! ### Whole numbers -/

theorem isDigit_of_mem_toDigits {n : Nat} {c : Char} (h : c ∈ Nat.toDigits 10 n) :
    Text.isDigit c = true := by
  have hdigit : c.isDigit = true := Nat.isDigit_of_mem_toDigits (by decide) (by decide) h
  simpa only [Text.isDigit, Char.isDigit, Char.le_def] using hdigit

theorem ne_of_isDigit {c d : Char} (hc : Text.isDigit c = true) (hd : Text.isDigit d = false) :
    c ≠ d := by
  rintro rfl
  rw [hc] at hd
  cases hd

/-- What separates is no part of a number. -/
theorem Separates.no_number {rest : List Char} (h : Separates rest) (read : List Char) :
    groupsFrom read rest = (read, rest) ∧ fractionFrom read rest = (read, rest)
      ∧ exponentFrom read rest = (read, rest) := by
  -- up to three characters ahead decide whether a number goes on
  rcases rest with _ | ⟨c, rest⟩
  · exact ⟨rfl, rfl, rfl⟩
  · rcases h.head_eq with rfl | rfl | rfl | rfl <;> rcases rest with _ | ⟨d, _ | ⟨e, rest⟩⟩ <;>
      exact ⟨rfl, rfl, rfl⟩

theorem groupsFrom_cons {d : Char} (hd : Text.isDecimalDigit d = true) (read cs : List Char) :
    groupsFrom read (d :: cs) = groupsFrom (d :: read) cs := by
  have hne : d ≠ '_' := by
    rintro rfl
    exact absurd hd (by decide)
  cases cs <;> simp [groupsFrom, hne, hd]

/-- Digits are read on up to what separates. -/
theorem groupsFrom_digits {cs rest : List Char} (hcs : ∀ c ∈ cs, Text.isDigit c = true)
    (hrest : Separates rest) (read : List Char) :
    groupsFrom read (cs ++ rest) = (cs.reverse ++ read, rest) := by
  induction cs generalizing read with
  | nil => exact (hrest.no_number read).1
  | cons c cs ih =>
    rw [List.cons_append, groupsFrom_cons (Text.isDecimalDigit_of_isDigit (hcs c (by simp))),
      ih fun d hd => hcs d (List.mem_cons_of_mem c hd)]
    simp

theorem numberText_digits {c : Char} {cs rest : List Char} (hcs : ∀ d ∈ cs, Text.isDigit d = true)
    (hrest : Separates rest) : numberText c (cs ++ rest) = (c :: cs, rest) := by
  have hgroups := groupsFrom_digits hcs hrest [c]
  obtain ⟨-, hfraction, hexponent⟩ := hrest.no_number (cs.reverse ++ [c])
  simp [numberText, hgroups, hfraction, hexponent]

theorem le_ofDigitChars (n : Nat) (cs : List Char) : n ≤ Nat.ofDigitChars 10 cs n := by
  induction cs generalizing n with
  | nil => exact le_rfl
  | cons c cs ih =>
    have hstep := ih (10 * n + (c.toNat - '0'.toNat))
    rw [Nat.ofDigitChars_cons]
    omega

/-- Digits are read to the number that they write, if it is a word. -/
theorem wordFrom_digits {cs : List Char} (hcs : ∀ c ∈ cs, Text.isDigit c = true) {n : Nat}
    (h : Nat.ofDigitChars 10 cs n ≤ Number.greatest.toNat) :
    wordFrom n cs = .ok (Int64.ofNat (Nat.ofDigitChars 10 cs n)) := by
  induction cs generalizing n with
  | nil => rfl
  | cons c cs ih =>
    rw [Nat.ofDigitChars_cons, Nat.mul_comm] at h ⊢
    -- what is read so far is no more than the whole, so no step of the reading overflows
    have hbound : n * 10 + (c.toNat - '0'.toNat) ≤ Number.greatest.toNat :=
      (le_ofDigitChars _ cs).trans h
    rw [wordFrom, if_pos (hcs c (by simp))]
    simp only [hbound, if_true]
    exact ih (fun d hd => hcs d (List.mem_cons_of_mem c hd)) h

/-- The digits of a whole number are read as that number. -/
theorem scans_digits {n : Nat} (h : n ≤ Number.greatest.toNat) {rest : List Char}
    (hrest : Separates rest) : Scans (Nat.toDigits 10 n) [.int (Int64.ofNat n)] rest := by
  have hvalue : Nat.ofDigitChars 10 (Nat.toDigits 10 n) 0 = n :=
    Nat.ofDigitChars_toDigits (by decide) (by decide)
  have hdigits : ∀ c ∈ Nat.toDigits 10 n, Text.isDigit c = true :=
    fun c hc => isDigit_of_mem_toDigits hc
  obtain ⟨c, cs, hcs⟩ := List.exists_cons_of_ne_nil (Nat.toDigits_ne_nil (n := n) (b := 10))
  rw [hcs] at hvalue hdigits ⊢
  have hc : Text.isDigit c = true := hdigits c (by simp)
  have hspace : isSpace c = false := by
    simp [isSpace, ne_of_isDigit hc (d := ' ') rfl, ne_of_isDigit hc (d := '\t') rfl,
      ne_of_isDigit hc (d := '\r') rfl, ne_of_isDigit hc (d := '\n') rfl]
  have hclean : (c :: cs).filter (· != '_') = c :: cs :=
    List.filter_eq_self.2 fun d hd => by simpa using ne_of_isDigit (hdigits d hd) rfl
  have hwhole : (c :: cs).any (fun d => d == '.' || d == 'e' || d == 'E') = false := by
    refine List.any_eq_false.2 fun d hd => ?_
    have hne : ∀ e : Char, Text.isDigit e = false → d ≠ e := fun e => ne_of_isDigit (hdigits d hd)
    simp [hne '.' rfl, hne 'e' rfl, hne 'E' rfl]
  have hword := wordFrom_digits hdigits (n := 0) (by rw [hvalue]; exact h)
  rw [hvalue] at hword
  have hmore : ∀ d ∈ cs, Text.isDigit d = true :=
    fun d hd => hdigits d (List.mem_cons_of_mem c hd)
  have hnumber := numberText_digits (c := c) hmore hrest
  refine .of_scan hspace fun pos => ?_
  simp only [scan, hc, if_true, scanNumber, hnumber, hclean, hwhole, hword]
  -- no name may start right behind a number
  rcases rest with _ | ⟨d, rest⟩
  · rfl
  · have hd : isNameStart d = false := by
      rcases hrest.head_eq with rfl | rfl | rfl | rfl <;> rfl
    simp only [hd]
    rfl

/-! ### Sources -/

/-- What is read before the end are the tokens of a source. -/
theorem exists_tokenize_of_scans {source : String} {ks : List Token.Kind}
    (h : Scans source.toList ks []) :
    ∃ w stop, tokenize source = .ok (w ++ [stop]) ∧ w.map Token.kind = ks ∧ stop.kind = .stop := by
  obtain ⟨ts, pos, hks, hts⟩ := h 0 []
  refine ⟨ts, ⟨.stop, pos, 0⟩, ?_, hks, rfl⟩
  rw [List.append_nil] at hts
  rw [tokenize, hts]
  simp [tokensFrom]

end ConfigTree.Lexer
