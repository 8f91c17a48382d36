import ConfigTree.Cipher.Aes
import Mathlib

/-!
# Decryption undoes encryption

Every layer of a round can be undone on its own: the substitution by its table, the turning of
the rows by turning them back, the mixing of the columns by the inverse matrix, and the
addition of a key by adding it once more.  The layers of a round are undone in the order in which
the next round needs them, so that the rounds undo each other pairwise from the middle outwards.

## Main results

* `blocks_flatten` — cutting into blocks undoes putting them one after another.
* `Aes.mixed_mixed`, `Aes.unmix_mix` — the inverse matrix undoes the mixing.
* `Aes.unrounds_rounds`, `Aes.decryptBlock_encryptBlock` — one block.
* `Aes.exists_chain` — a chain of blocks.
* `Aes.decrypt?_encrypt` — a message of any length.
-/

namespace ConfigTree.Cipher

/-! ### Bytes added to bytes -/

theorem length_xor {a b : Bytes} (h : a.length = b.length) : (xor a b).length = b.length := by
  rw [xor, List.length_zipWith, h, Nat.min_self]

/-- Adding the same bytes twice changes nothing. -/
theorem xor_xor_cancel {a b : Bytes} (h : a.length = b.length) : xor (xor a b) b = a := by
  induction a generalizing b with
  | nil => rfl
  | cons x a ih =>
    cases b with
    | nil => cases h
    | cons y b =>
      have hrest := ih (Nat.succ.inj h)
      simp only [xor, List.zipWith_cons_cons] at hrest ⊢
      rw [hrest, UInt8.xor_assoc, UInt8.xor_self, UInt8.xor_zero]

/-! ### Blocks -/

theorem blocksFrom_flatten {size : Nat} (hsize : 0 < size) {done bss : List Bytes}
    (hbss : ∀ b ∈ bss, b.length = size) {n : Nat} (hn : bss.flatten.length ≤ n) :
    blocksFrom size done n bss.flatten = done.reverse ++ bss := by
  induction bss generalizing done n with
  | nil => cases n <;> simp [blocksFrom]
  | cons b bss ih =>
    obtain ⟨hb, hrest⟩ := List.forall_mem_cons.1 hbss
    rw [List.flatten_cons, List.length_append, hb] at hn
    -- a block is not empty, so the cutting goes on
    have hne : (b ++ bss.flatten).isEmpty = false := by
      rw [List.isEmpty_eq_false_iff_exists_mem]
      exact List.exists_mem_of_length_pos (by rw [List.length_append]; omega)
    cases n with
    | zero => omega
    | succ n =>
      rw [List.flatten_cons, blocksFrom, hne, if_neg Bool.false_ne_true, ← hb,
        List.take_left, List.drop_left, hb, ih hrest (by omega), List.reverse_cons,
        List.append_assoc, List.singleton_append]

/-- Cutting into blocks undoes putting blocks one after another. -/
theorem blocks_flatten {size : Nat} (hsize : 0 < size) {bss : List Bytes}
    (hbss : ∀ b ∈ bss, b.length = size) : blocks size bss.flatten = bss :=
  blocksFrom_flatten hsize hbss le_rfl

/-- Bytes that fill some blocks are made of these blocks. -/
theorem exists_flatten (size n : Nat) {bs : Bytes} (h : bs.length = n * size) :
    ∃ bss : List Bytes, (∀ b ∈ bss, b.length = size) ∧ bs = bss.flatten := by
  induction n generalizing bs with
  | zero =>
    rw [Nat.zero_mul, List.length_eq_zero_iff] at h
    exact ⟨[], by simp, h⟩
  | succ n ih =>
    rw [Nat.succ_mul] at h
    have hdrop : (bs.drop size).length = n * size := by
      rw [List.length_drop]
      omega
    obtain ⟨bss, hbss, hrest⟩ := ih hdrop
    refine ⟨bs.take size :: bss, List.forall_mem_cons.2 ⟨?_, hbss⟩, ?_⟩
    · rw [List.length_take]
      omega
    · rw [List.flatten_cons, ← hrest, List.take_append_drop]

theorem length_flatten_of_length {size : Nat} {bss : List Bytes}
    (hbss : ∀ b ∈ bss, b.length = size) : bss.flatten.length = bss.length * size := by
  rw [List.length_flatten, List.map_congr_left hbss, List.map_const', List.sum_replicate,
    smul_eq_mul]

namespace Aes

/-! ### Columns -/

theorem top_bit (b : UInt8) : b &&& 0x80 = 0 ∨ b &&& 0x80 = 0x80 := by
  revert b
  decide +kernel

theorem xor_and (x y m : UInt8) : (x ^^^ y) &&& m = (x &&& m) ^^^ (y &&& m) := by
  apply UInt8.toBitVec_inj.1
  ext i
  simp [Bool.and_xor_distrib_right]

/-- Doubling distributes over addition, the carries included. -/
theorem double_xor (x y : UInt8) : double (x ^^^ y) = double x ^^^ double y := by
  -- the carry depends on the top bit alone, and that is added too
  have hcarry : (if (x ^^^ y) &&& 0x80 = 0 then (0 : UInt8) else 0x1B)
      = (if x &&& 0x80 = 0 then 0 else 0x1B) ^^^ (if y &&& 0x80 = 0 then 0 else 0x1B) := by
    rw [xor_and]
    rcases top_bit x with hx | hx <;> rcases top_bit y with hy | hy <;> rw [hx, hy] <;> rfl
  rw [double, hcarry, UInt8.shiftLeft_xor]
  simp only [double]
  ac_rfl

theorem times_xor (factor x y : UInt8) :
    times factor (x ^^^ y) = times factor x ^^^ times factor y := by
  have hpart (c : Prop) [Decidable c] (x y : UInt8) :
      (if c then 0 else x ^^^ y) = (if c then 0 else x) ^^^ (if c then 0 else y) := by
    split <;> simp
  simp only [times, double_xor, hpart]
  ac_rfl

/-- A row of four factors times a column. -/
def mixed (f0 f1 f2 f3 a b c d : UInt8) : UInt8 :=
  times f0 a ^^^ times f1 b ^^^ times f2 c ^^^ times f3 d

/-- The rows of a circulant matrix are its first one turned, or else the column is. -/
theorem mixColumn_eq (f0 f1 f2 f3 a b c d : UInt8) :
    mixColumn f0 f1 f2 f3 [a, b, c, d]
      = [mixed f0 f1 f2 f3 a b c d, mixed f0 f1 f2 f3 b c d a, mixed f0 f1 f2 f3 c d a b,
        mixed f0 f1 f2 f3 d a b c] := by
  simp only [mixColumn, mixed, List.cons.injEq, and_true, true_and]
  refine ⟨?_, ?_, ?_⟩ <;> ac_rfl

@[simp] theorem xor_xor_self (x y : UInt8) : x ^^^ (x ^^^ y) = y := by
  rw [← UInt8.xor_assoc, UInt8.xor_self, UInt8.zero_xor]

theorem xor_left_comm (x y z : UInt8) : x ^^^ (y ^^^ z) = y ^^^ (x ^^^ z) := by
  ac_rfl

/-- The entries of the product of the two matrices: one on the diagonal, else zero.  They are so
as polynomials in doubling, where every power but the zeroth occurs an even number of times. -/
theorem times_times (a : UInt8) :
    mixed 14 11 13 9 (times 2 a) (times 1 a) (times 1 a) (times 3 a) = a
    ∧ mixed 14 11 13 9 (times 3 a) (times 2 a) (times 1 a) (times 1 a) = 0
    ∧ mixed 14 11 13 9 (times 1 a) (times 3 a) (times 2 a) (times 1 a) = 0
    ∧ mixed 14 11 13 9 (times 1 a) (times 1 a) (times 3 a) (times 2 a) = 0 := by
  -- first the sums of powers, then each power twice falls away
  simp +decide only [mixed, times, ↓reduceIte, UInt8.zero_xor, UInt8.xor_zero, double_xor]
  refine ⟨?_, ?_, ?_, ?_⟩ <;>
    simp only [UInt8.xor_assoc, UInt8.xor_comm, xor_left_comm, UInt8.xor_self, xor_xor_self,
      UInt8.xor_zero]

theorem mixed_xor (f0 f1 f2 f3 a b c d a' b' c' d' : UInt8) :
    mixed f0 f1 f2 f3 (a ^^^ a') (b ^^^ b') (c ^^^ c') (d ^^^ d')
      = mixed f0 f1 f2 f3 a b c d ^^^ mixed f0 f1 f2 f3 a' b' c' d' := by
  simp only [mixed, times_xor]
  ac_rfl

/-- The first row of the inverse matrix times a mixed column. -/
theorem mixed_mixed (a b c d : UInt8) :
    mixed 14 11 13 9 (mixed 2 3 1 1 a b c d) (mixed 2 3 1 1 b c d a) (mixed 2 3 1 1 c d a b)
      (mixed 2 3 1 1 d a b c) = a := by
  -- each byte of the column has its own part in the mixed one
  have hparts : mixed 14 11 13 9 (mixed 2 3 1 1 a b c d) (mixed 2 3 1 1 b c d a)
        (mixed 2 3 1 1 c d a b) (mixed 2 3 1 1 d a b c)
      = mixed 14 11 13 9 (times 2 a) (times 1 a) (times 1 a) (times 3 a)
        ^^^ mixed 14 11 13 9 (times 3 b) (times 2 b) (times 1 b) (times 1 b)
        ^^^ mixed 14 11 13 9 (times 1 c) (times 3 c) (times 2 c) (times 1 c)
        ^^^ mixed 14 11 13 9 (times 1 d) (times 1 d) (times 3 d) (times 2 d) := by
    simp only [← mixed_xor]
    simp only [mixed]
    ac_rfl
  rw [hparts, (times_times a).1, (times_times b).2.1, (times_times c).2.2.1,
    (times_times d).2.2.2, UInt8.xor_zero, UInt8.xor_zero, UInt8.xor_zero]

/-- The inverse matrix undoes the mixing of a column. -/
theorem mixColumn_mixColumn {column : Bytes} (h : column.length = 4) :
    mixColumn 14 11 13 9 (mixColumn 2 3 1 1 column) = column := by
  match column, h with
  | [a, b, c, d], _ =>
    rw [mixColumn_eq, mixColumn_eq, mixed_mixed, mixed_mixed, mixed_mixed, mixed_mixed]

theorem length_mixColumn {f0 f1 f2 f3 : UInt8} {column : Bytes} (h : column.length = 4) :
    (mixColumn f0 f1 f2 f3 column).length = 4 := by
  match column, h with
  | [a, b, c, d], _ => rfl

theorem length_mix {block : Bytes} (h : block.length = 16) : (mix block).length = 16 := by
  obtain ⟨columns, hcolumns, rfl⟩ := exists_flatten 4 4 h
  have hmixed : ∀ c ∈ columns.map (mixColumn 2 3 1 1), c.length = 4 :=
    List.forall_mem_map.2 fun c hc => length_mixColumn (hcolumns c hc)
  rw [length_flatten_of_length hcolumns] at h
  rw [mix, blocks_flatten (by decide) hcolumns, List.flatMap_def,
    length_flatten_of_length hmixed, List.length_map, h]

/-- The inverse matrix undoes the mixing of a block. -/
theorem unmix_mix {block : Bytes} (h : block.length = 16) : unmix (mix block) = block := by
  obtain ⟨columns, hcolumns, rfl⟩ := exists_flatten 4 4 h
  have hmixed : ∀ c ∈ columns.map (mixColumn 2 3 1 1), c.length = 4 :=
    List.forall_mem_map.2 fun c hc => length_mixColumn (hcolumns c hc)
  have hback : columns.map (mixColumn 14 11 13 9 ∘ mixColumn 2 3 1 1) = columns.map id :=
    List.map_congr_left fun c hc => mixColumn_mixColumn (hcolumns c hc)
  rw [mix, blocks_flatten (by decide) hcolumns, List.flatMap_def, unmix,
    blocks_flatten (by decide) hmixed, List.flatMap_def, List.map_map, hback, List.map_id]

/-! ### Rounds -/

/-- The one table read at the entries of the other one gives all bytes in order. -/
theorem map_unsubstitute_substitution :
    substitution.toList.map unsubstitute = (List.range 256).map UInt8.ofNat := by
  decide +kernel

theorem getElem?_substitution (b : UInt8) :
    substitution.toList[b.toNat]? = some (substitute b) := by
  have hsize : substitution.size = 256 := by decide +kernel
  have hb : b.toNat < substitution.size := hsize ▸ b.toNat_lt
  rw [substitute, Array.getElem?_toList, Array.getD_eq_getD_getElem?,
    Array.getElem?_eq_getElem hb, Option.getD_some]

@[simp] theorem unsubstitute_substitute (b : UInt8) : unsubstitute (substitute b) = b := by
  -- one entry of the table that was checked as a whole
  have hentry : (substitution.toList.map unsubstitute)[b.toNat]?
      = ((List.range 256).map UInt8.ofNat)[b.toNat]? := by
    rw [map_unsubstitute_substitution]
  rw [List.getElem?_map, getElem?_substitution, List.getElem?_map,
    List.getElem?_range b.toNat_lt] at hentry
  simpa using hentry

theorem unshiftRows_shiftRows : ∀ {block : Bytes}, block.length = 16 →
    unshiftRows (shiftRows block) = block
  | [_, _, _, _, _, _, _, _, _, _, _, _, _, _, _, _], _ => rfl

/-- The part of a round that needs no key and is undone last. -/
def scramble (block : Bytes) : Bytes := shiftRows (block.map substitute)

@[simp] theorem length_scramble (block : Bytes) : (scramble block).length = 16 := by
  rw [scramble, shiftRows, pick, List.length_map]
  rfl

theorem unscramble_scramble {block : Bytes} (h : block.length = 16) :
    (unshiftRows (scramble block)).map unsubstitute = block := by
  have hlength : (block.map substitute).length = 16 := (List.length_map _).trans h
  rw [scramble, unshiftRows_shiftRows hlength, List.map_map]
  simp only [Function.comp_def, unsubstitute_substitute, List.map_id']

theorem rounds_cons (block key : Bytes) {keys : List Bytes} (h : keys ≠ []) :
    rounds block (key :: keys) = rounds (xor (mix (scramble block)) key) keys := by
  cases keys with
  | nil => exact absurd rfl h
  | cons next keys => rfl

theorem unrounds_append (block : Bytes) (ks ls : List Bytes) :
    unrounds block (ks ++ ls) = unrounds (unrounds block ks) ls := by
  induction ks generalizing block with
  | nil => rfl
  | cons k ks ih => exact ih _

theorem length_mixed_round (block : Bytes) {key : Bytes} (hkey : key.length = 16) :
    (xor (mix (scramble block)) key).length = 16 := by
  rw [length_xor ((length_mix (length_scramble block)).trans hkey.symm), hkey]

theorem length_rounds {block last : Bytes} {keys : List Bytes}
    (hkeys : ∀ k ∈ keys ++ [last], k.length = 16) :
    (rounds block (keys ++ [last])).length = 16 := by
  induction keys generalizing block with
  | nil =>
    have hlast : last.length = 16 := hkeys last (List.mem_singleton_self last)
    exact (length_xor ((length_scramble block).trans hlast.symm)).trans hlast
  | cons k keys ih =>
    rw [List.cons_append, rounds_cons _ _ (by simp)]
    exact ih fun key hkey => hkeys key (List.mem_cons_of_mem k hkey)

/-- The rounds undone up to the mixing of the first one, by the keys in the opposite order: each
step of the induction undoes the mixing of one round and the scrambling of the next. -/
theorem unrounds_rounds {block last : Bytes} {keys : List Bytes} (hblock : block.length = 16)
    (hkeys : ∀ k ∈ keys ++ [last], k.length = 16) :
    unrounds (xor (rounds block (keys ++ [last])) last) keys.reverse = scramble block := by
  induction keys generalizing block with
  | nil =>
    have hlast : last.length = 16 := hkeys last (List.mem_singleton_self last)
    exact xor_xor_cancel ((length_scramble block).trans hlast.symm)
  | cons k keys ih =>
    obtain ⟨hk, hrest⟩ := List.forall_mem_cons.1 hkeys
    have hmix : (mix (scramble block)).length = 16 := length_mix (length_scramble block)
    have hnext := length_mixed_round block hk
    rw [List.cons_append, rounds_cons _ _ (by simp), List.reverse_cons, unrounds_append,
      ih hnext hrest]
    simp only [unrounds]
    rw [unscramble_scramble hnext, xor_xor_cancel (hmix.trans hk.symm),
      unmix_mix (length_scramble block)]

/-! ### One block -/

theorem length_nextKey (constant : UInt8) : ∀ {key : Bytes}, key.length = 16 →
    (nextKey constant key).length = 16
  | [_, _, _, _, _, _, _, _, _, _, _, _, _, _, _, _], _ => rfl

theorem length_of_mem_keysFrom {key k : Bytes} {constants : List UInt8} (hkey : key.length = 16)
    (hk : k ∈ keysFrom key constants) : k.length = 16 := by
  induction constants generalizing key with
  | nil => cases hk
  | cons constant rest ih =>
    have hnext : (nextKey constant key).length = 16 := length_nextKey constant hkey
    rcases List.mem_cons.1 hk with rfl | hk
    · exact hnext
    · exact ih hnext hk

/-- The keys of the rounds are some and a last one. -/
theorem exists_roundKeys (key : Bytes) : ∃ keys last, roundKeys key = keys ++ [last] := by
  have hne : roundKeys key ≠ [] := List.cons_ne_nil _ _
  exact ⟨_, _, (List.dropLast_append_getLast hne).symm⟩

theorem length_encryptBlock {key block : Bytes} (hkey : key.length = 16) :
    (encryptBlock key block).length = 16 := by
  obtain ⟨keys, last, hkeys⟩ := exists_roundKeys key
  rw [encryptBlock, hkeys]
  apply length_rounds
  intro k hk
  rw [← hkeys] at hk
  exact length_of_mem_keysFrom hkey hk

/-- **One block** is decrypted to what was encrypted. -/
theorem decryptBlock_encryptBlock {key block : Bytes} (hkey : key.length = 16)
    (hblock : block.length = 16) : decryptBlock key (encryptBlock key block) = block := by
  -- the last key is added without mixing before it, so it is the first that decryption
  -- takes away
  obtain ⟨keys, last, hkeys⟩ := exists_roundKeys key
  have hlengths : ∀ k ∈ keys ++ [last], k.length = 16 := by
    intro k hk
    rw [← hkeys] at hk
    exact length_of_mem_keysFrom hkey hk
  have hadded : (xor block key).length = 16 :=
    (length_xor (hblock.trans hkey.symm)).trans hkey
  have hreverse : (roundKeys key).reverse = last :: keys.reverse := by
    rw [hkeys, List.reverse_append, List.reverse_singleton, List.singleton_append]
  simp only [decryptBlock, hreverse]
  rw [encryptBlock, hkeys, unrounds_rounds hadded hlengths, unscramble_scramble hadded,
    xor_xor_cancel (hblock.trans hkey.symm)]

/-! ### Messages -/

/-- A chain of encrypted blocks, from which the blocks are got back. -/
theorem exists_chain {key before : Bytes} (done : List Bytes) {bss : List Bytes}
    (hkey : key.length = 16) (hbefore : before.length = 16) (hbss : ∀ b ∈ bss, b.length = 16) :
    ∃ ess : List Bytes, (∀ e ∈ ess, e.length = 16)
      ∧ chain key before done bss = done.reverse.flatten ++ ess.flatten
      ∧ ∀ done', unchain key before done' ess = done'.reverse.flatten ++ bss.flatten := by
  induction bss generalizing before done with
  | nil => exact ⟨[], by simp, by simp [chain], by simp [unchain]⟩
  | cons b bss ih =>
    obtain ⟨hb, hrest⟩ := List.forall_mem_cons.1 hbss
    have hequal : b.length = before.length := hb.trans hbefore.symm
    have hadded : (xor b before).length = 16 := (length_xor hequal).trans hbefore
    have hnext : (encryptBlock key (xor b before)).length = 16 := length_encryptBlock hkey
    obtain ⟨ess, hess, hchain, hunchain⟩ :=
      ih (encryptBlock key (xor b before) :: done) hnext hrest
    refine ⟨encryptBlock key (xor b before) :: ess, List.forall_mem_cons.2 ⟨hnext, hess⟩, ?_, ?_⟩
    · simp only [chain, hchain]
      simp
    -- each block is added to the encrypted one before it, in both directions
    · intro done'
      rw [unchain, hunchain, decryptBlock_encryptBlock hkey hadded, xor_xor_cancel hequal]
      simp

theorem length_fill (message : Bytes) :
    (fill message).length = (message.length / 16 + 1) * 16 := by
  rw [fill, List.length_append, List.length_replicate]
  omega

theorem unfill?_fill (message : Bytes) : unfill? (fill message) = some message := by
  obtain ⟨n, hn, hpos, hle⟩ :
      ∃ n, 16 - message.length % 16 = n ∧ 0 < n ∧ n ≤ 16 := ⟨_, rfl, by omega, by omega⟩
  have hlast : (fill message).getLast? = some (UInt8.ofNat n) := by
    rw [fill, hn, List.getLast?_append, List.getLast?_replicate, if_neg hpos.ne']
    rfl
  -- the filling tells its own length, at most 16
  have hcount : (UInt8.ofNat n).toNat = n := UInt8.toNat_ofNat_of_lt (hle.trans_lt (by decide))
  have hlength : (fill message).length - n = message.length := by
    rw [fill, hn, List.length_append, List.length_replicate, Nat.add_sub_cancel]
  simp only [unfill?, hlast, hcount, hlength]
  rw [fill, hn, List.drop_left, List.take_left, if_pos ⟨hpos, hle, by simp, by simp⟩]

/-- **A message** is decrypted to what was encrypted. -/
theorem decrypt?_encrypt {key initial : Bytes} (hkey : key.length = 16)
    (hinitial : initial.length = 16) (message : Bytes) :
    decrypt? key initial (encrypt key initial message) = some message := by
  obtain ⟨bss, hbss, hfill⟩ := exists_flatten 16 _ (length_fill message)
  obtain ⟨ess, hess, hchain, hunchain⟩ := exists_chain [] hkey hinitial hbss
  have hencrypt : encrypt key initial message = ess.flatten := by
    rw [encrypt, hfill, blocks_flatten (by decide) hbss, hchain]
    rfl
  have hunfill : unfill? bss.flatten = some message := by
    rw [← hfill, unfill?_fill]
  rw [hencrypt, decrypt?, length_flatten_of_length hess, Nat.mul_mod_left, if_pos rfl,
    blocks_flatten (by decide) hess, hunchain]
  exact hunfill

end Aes

end ConfigTree.Cipher
