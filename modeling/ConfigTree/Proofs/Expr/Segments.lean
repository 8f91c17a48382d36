import ConfigTree.Proofs.Expr.Alone

/-!
# The segments of a source

The tokens of a source are cut out of it in order, and nothing but blanks lies between them, so
that the source can be put together again from the tokens and the blanks.  Each token keeps
its meaning when it is put elsewhere: the texts of some tokens with single spaces between them
are read as just these tokens.

Offsets are counted in bytes, so that the lemmas speak of the characters before an offset, of
which it is the size.

## Main definitions

* `Token.finish`, `Token.text` — the end of a token, and its text.
* `Segments source start ts` — from an offset on, the tokens cut up a source.
* `spaced source ts` — the texts of the tokens with single spaces between them.
* `Lexer.Cut pos cs ts` — how the reader of tokens gets from characters to tokens.

## Main results

* `Lexer.cut_of_tokensFrom` — every run of the reader is a cut.
* `Lexer.Cut.segments` — a cut of what is left of a source gives segments of the source.
* `Lexer.Cut.settled` — the text of each token of a cut has its meaning wherever it is parted.
* `tokenize_segments` — **reading tokens is a lossless segmentation**, and local.
-/

namespace ConfigTree

/-- The offset right behind a token. -/
def Token.finish (t : Token) : Nat := t.pos + t.length

/-- The text of a source from one offset to another. -/
def textBetween (source : String) (start finish : Nat) : String :=
  String.Pos.Raw.extract source ⟨start⟩ ⟨finish⟩

/-- The text of a token in a source. -/
def Token.text (source : String) (t : Token) : String := textBetween source t.pos t.finish

/-- An offset at which no character of a source is cut in two. -/
def IsBoundary (source : String) (offset : Nat) : Prop := String.Pos.Raw.IsValid source ⟨offset⟩

/-- A text of nothing but spaces, tabs, carriage returns and line breaks. -/
def IsBlank (s : String) : Prop := ∀ c ∈ s.toList, c ∈ [' ', '\t', '\r', '\n']

/-- From the offset `start` on, a source consists of tokens, its end the last of them, and of
blanks between them. -/
structure Segments (source : String) (start : Nat) (ts : List Token) : Prop where
  /-- No token begins before the start. -/
  ahead : ∀ t ∈ ts, start ≤ t.pos
  /-- The tokens stand in order and do not overlap. -/
  inOrder : ts.Pairwise fun t u => t.finish ≤ u.pos
  /-- Each of them begins and ends between two characters. -/
  boundary : ∀ t ∈ ts, IsBoundary source t.pos ∧ IsBoundary source t.finish
  /-- Each but the last has a text. -/
  nonempty : ∀ t ∈ ts.dropLast, 0 < t.length ∧ t.kind ≠ .stop
  /-- The last one is the end of the source. -/
  last : ts.getLast? = some ⟨.stop, source.utf8ByteSize, 0⟩
  /-- Before the first there are only blanks. -/
  lead : ∀ t ∈ ts.head?, IsBlank (textBetween source start t.pos)
  /-- Between each and the next there are only blanks. -/
  gaps : ts.IsChain fun t u => IsBlank (textBetween source t.finish u.pos)

/-- The texts of some tokens of a source with single spaces between them. -/
def spaced (source : String) (ts : List Token) : String :=
  String.intercalate " " (ts.map (Token.text source))

/-- What the tokens of a source are: their kinds, and what they carry. -/
def kindsOf (source : String) : Except LexError (List Token.Kind) :=
  (tokenize source).map (List.map Token.kind)

namespace Lexer

/-! ### Offsets -/

theorem byteSize_eq (cs : List Char) : byteSize cs = String.utf8Len cs := by
  have hfold (n : Nat) : cs.foldl (fun n c => n + c.utf8Size) n = n + String.utf8Len cs := by
    induction cs generalizing n with
    | nil => rfl
    | cons c cs ih =>
      rw [List.foldl_cons, ih, String.utf8Len_cons]
      omega
  rw [byteSize, hfold, Nat.zero_add]

theorem eq_ofList {source : String} {cs : List Char} (h : source.toList = cs) :
    source = String.ofList cs := by
  rw [← h, String.ofList_toList]

theorem textBetween_eq {source : String} {before middle after : List Char}
    (h : source.toList = before ++ middle ++ after) :
    textBetween source (String.utf8Len before) (String.utf8Len before + String.utf8Len middle)
      = String.ofList middle := by
  rw [eq_ofList h]
  exact String.extract_of_valid before middle after

theorem isBoundary_utf8Len {source : String} {before after : List Char}
    (h : source.toList = before ++ after) : IsBoundary source (String.utf8Len before) := by
  refine String.Pos.Raw.isValid_iff_exists_append.2
    ⟨String.ofList before, String.ofList after, ?_, ?_⟩
  · rw [eq_ofList h, String.ofList_append]
  · exact String.Pos.Raw.ext (String.utf8ByteSize_ofList before).symm

theorem isBlank_ofList {cs : List Char} (h : ∀ c ∈ cs, isSpace c = true) :
    IsBlank (String.ofList cs) := by
  intro c hc
  rw [String.toList_ofList] at hc
  simpa using eq_of_isSpace (h c hc)

/-! ### Cuts -/

/-- A text is read as tokens of the kinds `ks` wherever it is parted from what follows. -/
def Settled (word : List Char) (ks : List Token.Kind) : Prop :=
  ∀ tail, Parted tail → Scans word ks tail

/-- The characters `cs`, which begin at the offset `pos`, are cut into blanks and tokens. -/
inductive Cut : Nat → List Char → List Token → Prop
  /-- Blanks and the end. -/
  | stop {pos : Nat} {gap : List Char} (hgap : ∀ c ∈ gap, isSpace c = true) :
    Cut pos gap [⟨.stop, pos + String.utf8Len gap, 0⟩]
  /-- Blanks, a token, and what follows it. -/
  | token {pos : Nat} {gap word rest : List Char} {kind : Token.Kind} {ts : List Token}
    (hgap : ∀ c ∈ gap, isSpace c = true) (hword : word ≠ []) (hkind : kind ≠ .stop)
    (hsettled : Settled word [kind])
    (hrest : Cut (pos + String.utf8Len gap + String.utf8Len word) rest ts) :
    Cut pos (gap ++ (word ++ rest)) (⟨kind, pos + String.utf8Len gap, String.utf8Len word⟩ :: ts)

/-- A blank more before the first token. -/
theorem Cut.space {pos : Nat} {c : Char} {cs : List Char} {ts : List Token}
    (hc : isSpace c = true) (h : Cut (pos + c.utf8Size) cs ts) : Cut pos (c :: cs) ts := by
  have hpos (gap : List Char) :
      pos + c.utf8Size + String.utf8Len gap = pos + String.utf8Len (c :: gap) := by
    rw [String.utf8Len_cons]
    omega
  cases h with
  | stop hgap =>
    rw [hpos]
    exact .stop (List.forall_mem_cons.2 ⟨hc, hgap⟩)
  | token hgap hword hkind hsettled hrest =>
    rw [hpos] at hrest ⊢
    exact .token (List.forall_mem_cons.2 ⟨hc, hgap⟩) hword hkind hsettled hrest

/-- A token without blanks before it. -/
theorem Cut.next {pos : Nat} {word rest : List Char} {kind : Token.Kind} {ts : List Token}
    (hword : word ≠ []) (hkind : kind ≠ .stop) (hsettled : Settled word [kind])
    (hrest : Cut (pos + String.utf8Len word) rest ts) :
    Cut pos (word ++ rest) (⟨kind, pos, String.utf8Len word⟩ :: ts) := by
  have hgap : ∀ c ∈ ([] : List Char), isSpace c = true := by simp
  have hcut := Cut.token hgap hword hkind hsettled hrest
  exact hcut

theorem settled_of_scan {pos n : Nat} {c : Char} {cs : List Char} {kind : Token.Kind}
    (hc : isSpace c = false) (h : scan pos c cs = .ok (kind, n)) :
    ∃ taken rest, cs = taken ++ rest ∧ n = taken.length ∧ Settled (c :: taken) [kind] := by
  obtain ⟨taken, rest, rfl, rfl, htaken⟩ := scan_alone h
  exact ⟨taken, rest, rfl, rfl, fun tail htail =>
    Scans.of_scan hc fun pos' => htaken pos' tail htail⟩

/-- **Every run of the reader is a cut** of the characters that it has still to look at, which are
all but the `passing` ones of the token before. -/
theorem cut_of_tokensFrom {passing pos : Nat} {done ts : List Token} {cs : List Char}
    (hpassing : passing ≤ cs.length) (h : tokensFrom passing pos done cs = .ok ts) :
    ∃ w, ts = done.reverse ++ w
      ∧ Cut (pos + String.utf8Len (cs.take passing)) (cs.drop passing) w := by
  induction cs generalizing passing pos done with
  | nil =>
    cases h
    obtain rfl : passing = 0 := Nat.le_zero.1 hpassing
    have hgap : ∀ c ∈ ([] : List Char), isSpace c = true := by simp
    exact ⟨[⟨.stop, pos, 0⟩], by simp, .stop hgap⟩
  | cons c cs ih =>
    cases passing with
    | succ passing =>
      -- a character of the token before is passed over
      obtain ⟨w, hts, hcut⟩ := ih (Nat.le_of_succ_le_succ hpassing) h
      refine ⟨w, hts, ?_⟩
      rw [List.take_succ_cons, List.drop_succ_cons, String.utf8Len_cons]
      rwa [Nat.add_right_comm, Nat.add_assoc] at hcut
    | zero =>
      unfold tokensFrom at h
      dsimp only at h
      split at h
      next hc =>
        -- a blank is part of the gap
        obtain ⟨w, hts, hcut⟩ := ih (Nat.zero_le _) h
        exact ⟨w, hts, hcut.space hc⟩
      next hc =>
        split at h
        · cases h
        next kind n hscan =>
          -- a token starts; what it has taken is passed over from here on
          obtain ⟨taken, rest, rfl, rfl, hsettled⟩ :=
            settled_of_scan (Bool.eq_false_iff.2 hc) hscan
          have hkind : kind ≠ .stop :=
            Scanned.ne_stop ⟨pos, c, taken ++ rest, taken.length, List.suffix_refl _, hscan⟩
          obtain ⟨w, rfl, hcut⟩ := ih (by simp) h
          have hsize : c.utf8Size + byteSize taken = String.utf8Len (c :: taken) := by
            rw [byteSize_eq, String.utf8Len_cons, Nat.add_comm]
          rw [List.take_left, List.drop_left, Nat.add_assoc, ← byteSize_eq, hsize] at hcut
          rw [List.take_left, hsize]
          refine ⟨⟨kind, pos, String.utf8Len (c :: taken)⟩ :: w, by simp, ?_⟩
          have hword : c :: taken ≠ [] := by simp
          exact .next hword hkind hsettled hcut

/-- A fault is told at an offset within the characters that are left. -/
theorem pos_of_tokensFrom {passing pos : Nat} {done : List Token} {cs : List Char} {e : LexError}
    (h : tokensFrom passing pos done cs = .error e) :
    ∃ front back, cs = front ++ back ∧ e.pos = pos + String.utf8Len front := by
  induction cs generalizing passing pos done with
  | nil => cases h
  | cons c cs ih =>
    -- what is told of the rest is told one character further on
    have hlater {passing : Nat} {done : List Token}
        (hrest : tokensFrom passing (pos + c.utf8Size) done cs = .error e) :
        ∃ front back, c :: cs = front ++ back ∧ e.pos = pos + String.utf8Len front := by
      obtain ⟨front, back, rfl, hpos⟩ := ih hrest
      refine ⟨c :: front, back, rfl, ?_⟩
      rw [hpos, String.utf8Len_cons]
      omega
    unfold tokensFrom at h
    split at h
    · exact hlater h
    · split at h
      · exact hlater h
      · split at h
        next e' hscan =>
          cases h
          obtain ⟨front, back, hcs, hpos⟩ := pos_of_scan hscan
          exact ⟨front, back, hcs, by rw [hpos, byteSize_eq]⟩
        · exact hlater h

/-! ### Segments -/

/-- **A cut of what is left of a source gives segments** of it from there on. -/
theorem Cut.segments {pos : Nat} {cs : List Char} {ts : List Token} (h : Cut pos cs ts)
    {source : String} {before : List Char} (hsource : source.toList = before ++ cs)
    (hpos : pos = String.utf8Len before) : Segments source pos ts := by
  induction h generalizing before with
  | stop hgap =>
    rename_i pos gap
    -- the end stands behind the last gap, where the source ends
    have hsize : pos + String.utf8Len gap = source.utf8ByteSize := by
      rw [← String.utf8Len_toList, hsource, String.utf8Len_append, hpos]
    have hwhole : source.toList = before ++ gap ++ [] := by
      rw [hsource, List.append_nil]
    have hblank : IsBlank (textBetween source pos (pos + String.utf8Len gap)) := by
      rw [hpos, textBetween_eq hwhole]
      exact isBlank_ofList hgap
    have hend : IsBoundary source (pos + String.utf8Len gap) := by
      rw [hpos, ← String.utf8Len_append]
      exact isBoundary_utf8Len hwhole
    refine ⟨?_, by simp, ?_, by simp, by simp [hsize], ?_, by simp⟩
    · simp
    · simpa [Token.finish] using hend
    · simpa using hblank
  | token hgap hword hkind hsettled hrest ih =>
    rename_i pos gap word rest kind ts
    -- where the token starts and where it ends, in bytes of the source
    have hstart : pos + String.utf8Len gap = String.utf8Len (before ++ gap) := by
      rw [String.utf8Len_append, hpos]
    have hfinish : pos + String.utf8Len gap + String.utf8Len word
        = String.utf8Len (before ++ gap ++ word) := by
      rw [String.utf8Len_append, hstart]
    have hparts : source.toList = before ++ gap ++ word ++ rest := by
      rw [hsource]
      simp
    -- the tokens after it are segments from its end on
    have hmore := ih hparts hfinish
    have hahead : source.toList = before ++ gap ++ (word ++ rest) := by
      rw [hsource, List.append_assoc]
    have hblank : IsBlank (textBetween source pos (pos + String.utf8Len gap)) := by
      rw [hpos, textBetween_eq hahead]
      exact isBlank_ofList hgap
    have hlength : 0 < String.utf8Len word := by
      rcases List.exists_cons_of_ne_nil hword with ⟨c, cs, rfl⟩
      have := c.utf8Size_pos
      rw [String.utf8Len_cons]
      omega
    have hne : ts ≠ [] := by
      rintro rfl
      cases hrest
    refine ⟨?_, ?_, ?_, ?_, ?_, ?_, ?_⟩
    · refine List.forall_mem_cons.2 ⟨Nat.le_add_right _ _, fun t ht => ?_⟩
      have := hmore.ahead t ht
      omega
    · exact List.pairwise_cons.2 ⟨fun t ht => hmore.ahead t ht, hmore.inOrder⟩
    · refine List.forall_mem_cons.2 ⟨⟨?_, ?_⟩, hmore.boundary⟩
      · rw [hstart]
        exact isBoundary_utf8Len hahead
      · rw [Token.finish, hfinish]
        exact isBoundary_utf8Len hparts
    · rw [List.dropLast_cons_of_ne_nil hne]
      exact List.forall_mem_cons.2 ⟨⟨hlength, hkind⟩, hmore.nonempty⟩
    · rw [List.getLast?_cons_of_ne_nil hne]
      exact hmore.last
    · simpa using hblank
    · exact List.isChain_cons.2 ⟨hmore.lead, hmore.gaps⟩

/-! ### Reading again -/

/-- The text of each token of a cut has its meaning wherever it is parted from what follows. -/
theorem Cut.settled {pos : Nat} {cs : List Char} {ts : List Token} (h : Cut pos cs ts)
    {source : String} {before : List Char} (hsource : source.toList = before ++ cs)
    (hpos : pos = String.utf8Len before) :
    ∃ w stop, ts = w ++ [stop] ∧ stop.kind = .stop ∧ stop.length = 0
      ∧ ∀ t ∈ w, Settled (t.text source).toList [t.kind] := by
  induction h generalizing before with
  | stop => exact ⟨[], _, rfl, rfl, rfl, by simp⟩
  | token hgap hword hkind hsettled hrest ih =>
    rename_i pos gap word rest kind ts
    have hstart : pos + String.utf8Len gap = String.utf8Len (before ++ gap) := by
      rw [String.utf8Len_append, hpos]
    have hparts : source.toList = before ++ gap ++ word ++ rest := by
      rw [hsource]
      simp
    obtain ⟨w, stop, rfl, hstop, hlength, hw⟩ := ih hparts (by rw [String.utf8Len_append, hstart])
    refine ⟨_ :: w, stop, rfl, hstop, hlength, List.forall_mem_cons.2 ⟨?_, hw⟩⟩
    rw [Token.text, Token.finish, hstart, textBetween_eq hparts, String.toList_ofList]
    exact hsettled

/-- Settled texts with single spaces between them are read one after the other. -/
theorem scans_spaced (words : List (List Char × List Token.Kind))
    (h : ∀ p ∈ words, Settled p.1 p.2) :
    Scans ([' '].intercalate (words.map Prod.fst)) (words.flatMap Prod.snd) [] := by
  induction words with
  | nil => exact Scans.nil []
  | cons p words ih =>
    obtain ⟨hp, hwords⟩ := List.forall_mem_cons.1 h
    cases words with
    | nil => simpa using hp [] parted_nil
    | cons q words =>
      have hmore := Scans.append (Scans.space _) (ih hwords)
      have hall := Scans.append (hp _ (parted_space _)) hmore
      simpa [List.intercalate_cons_cons] using hall

/-- What is read before the end are the kinds of the tokens. -/
theorem kindsOf_of_scans {source : String} {ks : List Token.Kind} (h : Scans source.toList ks []) :
    kindsOf source = .ok (ks ++ [.stop]) := by
  obtain ⟨w, stop, htokens, hkinds, hstop⟩ := exists_tokenize_of_scans h
  simp [kindsOf, htokens, Except.map, hkinds, hstop]

theorem toList_spaced (source : String) (ts : List Token) :
    (spaced source ts).toList = [' '].intercalate (ts.map fun t => (t.text source).toList) := by
  rw [spaced, String.toList_intercalate, List.map_map]
  rfl

/-- Settled tokens, with single spaces between them, are read as what they are. -/
theorem kindsOf_spaced {source : String} {us : List Token}
    (h : ∀ u ∈ us, Settled (u.text source).toList [u.kind]) :
    kindsOf (spaced source us) = .ok (us.map Token.kind ++ [.stop]) := by
  apply kindsOf_of_scans
  have hscans := scans_spaced (us.map fun u => ((u.text source).toList, [u.kind]))
    (by simpa using h)
  rw [toList_spaced]
  simpa [List.flatMap_map, Function.comp_def, ← List.map_eq_flatMap] using hscans

/-- The end of the source among them adds a space that nothing follows. -/
theorem kindsOf_spaced_stop {source : String} {w : List Token} {stop : Token}
    (h : ∀ t ∈ w, Settled (t.text source).toList [t.kind]) (hstop : stop.kind = .stop)
    (hlength : stop.length = 0) :
    kindsOf (spaced source (w ++ [stop])) = .ok ((w ++ [stop]).map Token.kind) := by
  have htext : (stop.text source).toList = [] := by
    simp [Token.text, Token.finish, textBetween, String.Pos.Raw.extract, hlength]
  have hend : Settled [] [] := fun tail _ => Scans.nil tail
  have hscans := scans_spaced
    ((w.map fun t => ((t.text source).toList, [t.kind])) ++ [([], [])]) (by
      intro p hp
      rcases List.mem_append.1 hp with hp | hp
      · obtain ⟨t, ht, rfl⟩ := List.mem_map.1 hp
        exact h t ht
      · obtain rfl := List.mem_singleton.1 hp
        exact hend)
  rw [List.map_append, List.map_singleton, hstop]
  apply kindsOf_of_scans
  rw [toList_spaced]
  simpa [List.flatMap_map, Function.comp_def, ← List.map_eq_flatMap, htext] using hscans

end Lexer

/-- **Reading tokens is a lossless segmentation of the source, and local.**  The tokens stand in
order with nothing but blanks between them, the end of the source last.  Single spaces between
their texts give the same tokens again, and so they do for any choice of them in any order.
A source that cannot be read has its fault within it. -/
theorem tokenize_segments (source : String) :
    match tokenize source with
    | .ok ts => Segments source 0 ts ∧ kindsOf (spaced source ts) = .ok (ts.map Token.kind)
        ∧ ∀ us ⊆ ts.dropLast, kindsOf (spaced source us) = .ok (us.map Token.kind ++ [.stop])
    | .error e => e.pos ≤ source.utf8ByteSize ∧ IsBoundary source e.pos := by
  split
  next ts hts =>
    obtain ⟨w, rfl, hcut⟩ := Lexer.cut_of_tokensFrom (Nat.zero_le _) hts
    have hsource : source.toList = [] ++ source.toList := rfl
    have hsegments := hcut.segments hsource rfl
    obtain ⟨w, stop, rfl, hstop, hlength, hw⟩ := hcut.settled hsource rfl
    refine ⟨hsegments, Lexer.kindsOf_spaced_stop hw hstop hlength, fun us hus => ?_⟩
    apply Lexer.kindsOf_spaced
    intro u hu
    have hmem := hus hu
    rw [List.dropLast_concat] at hmem
    exact hw u hmem
  next e he =>
    obtain ⟨front, back, hsource, hpos⟩ := Lexer.pos_of_tokensFrom he
    rw [hpos, Nat.zero_add]
    refine ⟨?_, Lexer.isBoundary_utf8Len hsource⟩
    rw [← String.utf8Len_toList, hsource, String.utf8Len_append]
    exact Nat.le_add_right _ _

/-- A character of two bytes, an escape, and a symbol that no blank parts from its
neighbours. -/
theorem tokenize_segments_of_accent :
    ∃ ts, tokenize "a<='é\\t' 7" = .ok ts ∧ Segments "a<='é\\t' 7" 0 ts
      ∧ ts.map (fun t => (t.pos, t.length)) = [(0, 1), (1, 2), (3, 6), (10, 1), (11, 0)]
      ∧ kindsOf (spaced "a<='é\\t' 7" [⟨.int 7, 10, 1⟩, ⟨.str "é\t", 3, 6⟩])
        = .ok [.int 7, .str "é\t", .stop] := by
  have htokens : tokenize "a<='é\\t' 7"
      = .ok [⟨.name "a", 0, 1⟩, ⟨.symbol .lessEqual, 1, 2⟩, ⟨.str "é\t", 3, 6⟩, ⟨.int 7, 10, 1⟩,
          ⟨.stop, 11, 0⟩] := by
    cbv
  have hsource := tokenize_segments "a<='é\\t' 7"
  rw [htokens] at hsource
  obtain ⟨hsegments, -, hchoice⟩ := hsource
  exact ⟨_, htokens, hsegments, rfl, hchoice [⟨.int 7, 10, 1⟩, ⟨.str "é\t", 3, 6⟩] (by simp)⟩

end ConfigTree
