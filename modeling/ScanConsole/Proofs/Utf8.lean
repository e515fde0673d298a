import ScanConsole.Text.Utf8

/-!
# UTF-8 that is written is read back

    decodeLossy (encode s) = s                     (`decodeLossy_encode`)

The reader takes one byte after the other, so this is a matter of one character
(`push_encodeChar`). It never fails: bytes that are not UTF-8 are read as marks.
What has to be shown is that it takes no mark where a character was written.

The first byte of a character says how many bytes follow and which ones may; the
reader keeps the least and the greatest that may come next. Those that do follow
are among them, because a character is no surrogate and is written in as few
bytes as it can be. There is one lemma for each length.

From this it follows that different texts are written differently, and a part of
a text that takes as many bytes is the whole text. The byte of a line feed
occurs in no other character, so lines can be cut before they are read.
-/

namespace ScanConsole.Text.Utf8

/-! ## One byte

The first byte leaves out what fewer bytes can say, the surrogates, and what is
no character. -/

theorem push_of_step {reading reading' : Option Reading} {b : Nat} {chars : List Char} (hb : b < 256)
    (h : step reading b = (reading', chars)) (before : List Char) :
    push (reading, before) (.ofNat b) = (reading', chars.reverseAux before) := by
  have hnat : (UInt8.ofNat b).toNat = b := by simp [Nat.mod_eq_of_lt hb]
  simp only [push, hnat, h]

theorem step_of_more (bits : Nat) {owed least greatest b : Nat} (howed : 1 < owed) (hl : least ≤ b)
    (hg : b ≤ greatest) :
    step (some ⟨bits, owed, least, greatest⟩) b =
      (some ⟨bits * 0x40 + (b - 0x80), owed - 1, 0x80, 0xBF⟩, []) := by
  simp [step, hl, hg, Nat.not_le.mpr howed]

theorem step_of_last (bits : Nat) {least greatest b : Nat} (hl : least ≤ b) (hg : b ≤ greatest) :
    step (some ⟨bits, 1, least, greatest⟩) b = (none, [Char.ofNat (bits * 0x40 + (b - 0x80))]) := by
  simp [step, hl, hg]

theorem start_of_one {n : Nat} (h : n < 0x80) : start n = (none, [Char.ofNat n]) := if_pos h

theorem start_of_two {n : Nat} (hl : 2 ≤ n) (hg : n < 0x20) :
    start (n + 0xC0) = (some ⟨n, 1, 0x80, 0xBF⟩, []) := by
  unfold start
  rw [if_neg (by omega), if_pos (by simp; omega)]
  simp

theorem start_of_three {n b : Nat} (hn : n < 0x10) (hl : 0x80 ≤ b) (hg : b ≤ 0xBF)
    (hlong : n = 0 → 0xA0 ≤ b) (hsurrogate : n = 0xD → b ≤ 0x9F) :
    ∃ least greatest, start (n + 0xE0) = (some ⟨n, 2, least, greatest⟩, []) ∧
      least ≤ b ∧ b ≤ greatest := by
  by_cases h0 : n = 0
  · subst h0
    exact ⟨_, _, rfl, hlong rfl, hg⟩
  by_cases hD : n = 0xD
  · subst hD
    exact ⟨_, _, rfl, hl, hsurrogate rfl⟩
  refine ⟨_, _, ?_, hl, hg⟩
  unfold start
  rw [if_neg (by omega), if_neg (by simp), if_neg (by simp; omega), if_neg (by simp; omega),
    if_pos (by simp; omega)]
  simp

theorem start_of_four {n b : Nat} (hn : n ≤ 4) (hl : 0x80 ≤ b) (hg : b ≤ 0xBF)
    (hlong : n = 0 → 0x90 ≤ b) (hlast : n = 4 → b ≤ 0x8F) :
    ∃ least greatest, start (n + 0xF0) = (some ⟨n, 3, least, greatest⟩, []) ∧
      least ≤ b ∧ b ≤ greatest := by
  by_cases h0 : n = 0
  · subst h0
    exact ⟨_, _, rfl, hlong rfl, hg⟩
  by_cases h4 : n = 4
  · subst h4
    exact ⟨_, _, rfl, hl, hlast rfl⟩
  refine ⟨_, _, ?_, hl, hg⟩
  obtain rfl | rfl | rfl : n = 1 ∨ n = 2 ∨ n = 3 := by omega
  all_goals rfl

/-! ## One character

The bytes are written for a number, and the reader makes the same number of
them, whatever bounds the first byte has set. -/

section
variable {v : Nat}

theorem foldl_push_two (hl : 0x80 ≤ v) (hg : v < 0x800) (before : List Char) :
    [.ofNat (v / 64 % 32 + 192), .ofNat (v % 64 + 128)].foldl push (none, before) =
      (none, Char.ofNat v :: before) := by
  have hstart : step none (v / 64 % 32 + 192) = _ := start_of_two (by omega) (by omega)
  have hlast := step_of_last (v / 64 % 32) (show 0x80 ≤ v % 64 + 128 by omega)
    (show v % 64 + 128 ≤ 0xBF by omega)
  rw [show v / 64 % 32 * 0x40 + (v % 64 + 128 - 0x80) = v by omega] at hlast
  rw [List.foldl_cons, push_of_step (by omega) hstart, List.foldl_cons,
    push_of_step (by omega) hlast]
  rfl

theorem foldl_push_three (hl : 0x800 ≤ v) (hg : v < 0x10000) (hvalid : v < 0xD800 ∨ 0xDFFF < v)
    (before : List Char) :
    [.ofNat (v / 4096 % 16 + 224), .ofNat (v / 64 % 64 + 128), .ofNat (v % 64 + 128)].foldl push
      (none, before) = (none, Char.ofNat v :: before) := by
  obtain ⟨least, greatest, hstart, hl', hg'⟩ := start_of_three (n := v / 4096 % 16)
    (b := v / 64 % 64 + 128) (by omega) (by omega) (by omega) (by omega) (by omega)
  have hmore := step_of_more (v / 4096 % 16) (show 1 < 2 by omega) hl' hg'
  have hlast := step_of_last (v / 4096 % 16 * 0x40 + (v / 64 % 64 + 128 - 0x80))
    (show 0x80 ≤ v % 64 + 128 by omega) (show v % 64 + 128 ≤ 0xBF by omega)
  rw [show (v / 4096 % 16 * 0x40 + (v / 64 % 64 + 128 - 0x80)) * 0x40 + (v % 64 + 128 - 0x80) = v
    by omega] at hlast
  have hstart' : step none (v / 4096 % 16 + 224) = _ := hstart
  rw [List.foldl_cons, push_of_step (by omega) hstart', List.foldl_cons,
    push_of_step (by omega) hmore, List.foldl_cons, push_of_step (by omega) hlast]
  rfl

theorem foldl_push_four (hl : 0x10000 ≤ v) (hg : v < 0x110000) (before : List Char) :
    [.ofNat (v / 262144 % 8 + 240), .ofNat (v / 4096 % 64 + 128), .ofNat (v / 64 % 64 + 128),
      .ofNat (v % 64 + 128)].foldl push (none, before) = (none, Char.ofNat v :: before) := by
  obtain ⟨least, greatest, hstart, hl', hg'⟩ := start_of_four (n := v / 262144 % 8)
    (b := v / 4096 % 64 + 128) (by omega) (by omega) (by omega) (by omega) (by omega)
  have hmore := step_of_more (v / 262144 % 8) (show 1 < 3 by omega) hl' hg'
  have hmore' := step_of_more (v / 262144 % 8 * 0x40 + (v / 4096 % 64 + 128 - 0x80))
    (show 1 < 2 by omega) (show 0x80 ≤ v / 64 % 64 + 128 by omega)
    (show v / 64 % 64 + 128 ≤ 0xBF by omega)
  have hlast := step_of_last ((v / 262144 % 8 * 0x40 + (v / 4096 % 64 + 128 - 0x80)) * 0x40 +
      (v / 64 % 64 + 128 - 0x80))
    (show 0x80 ≤ v % 64 + 128 by omega) (show v % 64 + 128 ≤ 0xBF by omega)
  rw [show ((v / 262144 % 8 * 0x40 + (v / 4096 % 64 + 128 - 0x80)) * 0x40 +
      (v / 64 % 64 + 128 - 0x80)) * 0x40 + (v % 64 + 128 - 0x80) = v by omega] at hlast
  have hstart' : step none (v / 262144 % 8 + 240) = _ := hstart
  rw [List.foldl_cons, push_of_step (by omega) hstart', List.foldl_cons,
    push_of_step (by omega) hmore, List.foldl_cons, push_of_step (by omega) hmore',
    List.foldl_cons, push_of_step (by omega) hlast]
  rfl

end

/-- The reader takes a character as it is written. -/
theorem push_encodeChar (c : Char) (before : List Char) :
    (String.utf8EncodeChar c).foldl push (none, before) = (none, c :: before) := by
  have hvalid : c.val.toNat < 0xD800 ∨ (0xDFFF < c.val.toNat ∧ c.val.toNat < 0x110000) := c.valid
  have hc : Char.ofNat c.val.toNat = c := Char.ofNat_toNat c
  unfold String.utf8EncodeChar
  generalize c.val.toNat = v at hvalid hc
  subst hc
  dsimp only
  split
  · next h1 =>
    have hstart : step none v = (none, [Char.ofNat v]) := start_of_one (by omega)
    rw [List.foldl_cons, push_of_step (by omega) hstart]
    rfl
  split
  · exact foldl_push_two (by omega) (by omega) before
  split
  · exact foldl_push_three (by omega) (by omega) (by omega) before
  · exact foldl_push_four (by omega) (by omega) before

/-! ## A text -/

theorem foldl_push_encode (s before : List Char) :
    (encode s).foldl push (none, before) = (none, s.reverseAux before) := by
  induction s generalizing before with
  | nil => rfl
  | cons c s ih =>
    rw [encode, List.flatMap_cons, List.foldl_append, push_encodeChar]
    exact ih (c :: before)

/-- What is written in UTF-8 is read back. -/
theorem decodeLossy_encode (s : List Char) : decodeLossy (encode s) = s := by
  rw [decodeLossy, foldl_push_encode]
  simp [close]

/-- Different texts are written differently. -/
theorem encode_injective {s t : List Char} (h : encode s = encode t) : s = t := by
  rw [← decodeLossy_encode s, h, decodeLossy_encode]

/-! ## How many bytes a text takes -/

theorem length_encode_cons (c : Char) (s : List Char) :
    (encode (c :: s)).length = c.utf8Size + (encode s).length := by
  rw [encode, List.flatMap_cons, List.length_append, String.length_utf8EncodeChar]
  rfl

theorem length_encode_le {s t : List Char} (h : s.Sublist t) : (encode s).length ≤ (encode t).length := by
  induction h with
  | slnil => exact Nat.le_refl _
  | cons c h ih =>
    rw [length_encode_cons]
    exact Nat.le_add_left_of_le ih
  | cons_cons c h ih =>
    rw [length_encode_cons, length_encode_cons]
    exact Nat.add_le_add_left ih _

/-- A part of a text that takes as many bytes is the whole text. -/
theorem eq_of_sublist {s t : List Char} (h : s.Sublist t)
    (hlength : (encode t).length ≤ (encode s).length) : s = t := by
  induction h with
  | slnil => rfl
  | cons c h ih =>
    have hpos := Char.utf8Size_pos c
    have hshort := length_encode_le h
    rw [length_encode_cons] at hlength
    omega
  | cons_cons c h ih =>
    rw [length_encode_cons, length_encode_cons] at hlength
    rw [ih (Nat.le_of_add_le_add_left hlength)]

/-! ## Line feeds -/

/-- Only a line feed is written with the byte of a line feed. -/
theorem eq_lineFeed_of_mem {c : Char} (h : (10 : UInt8) ∈ String.utf8EncodeChar c) : c = '\n' := by
  have hbyte {n : Nat} (h : 10 = UInt8.ofNat n) : n % 256 = 10 := by
    simpa using (congrArg UInt8.toNat h).symm
  have hc : c.val.toNat = 10 := by
    unfold String.utf8EncodeChar at h
    generalize c.val.toNat = v at h
    dsimp only at h
    split at h
    · have := hbyte (List.mem_singleton.mp h)
      omega
    -- the bytes of longer characters are at least 128
    have habsurd {n : Nat} (h : 10 = UInt8.ofNat n) (hl : 128 ≤ n) (hg : n < 256) : v = 10 := by
      have := hbyte h
      omega
    repeat' split at h
    all_goals
      simp only [List.mem_cons, List.not_mem_nil, or_false] at h
    · rcases h with h | h <;> exact habsurd h (by omega) (by omega)
    · rcases h with h | h | h <;> exact habsurd h (by omega) (by omega)
    · rcases h with h | h | h | h <;> exact habsurd h (by omega) (by omega)
  exact (Char.ofNat_toNat c).symm.trans (congrArg Char.ofNat hc)

theorem lineFeed_not_mem_encode {s : List Char} (h : '\n' ∉ s) : (10 : UInt8) ∉ encode s := by
  intro hmem
  obtain ⟨c, hc, hb⟩ := List.mem_flatMap.mp hmem
  exact h (eq_lineFeed_of_mem hb ▸ hc)

end ScanConsole.Text.Utf8
