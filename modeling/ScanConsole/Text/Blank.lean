/-!
# White space

`isBlank` is the Unicode property White_Space. On it stand trimming, the split
into words, and the test for a text that shows nothing.
-/

namespace ScanConsole.Text

/-- The Unicode property White_Space. A zero-width space is not blank. -/
def isBlank (c : Char) : Bool :=
  let n := c.toNat
  (9 ≤ n && n ≤ 13) || n == 0x20 || n == 0x85 || n == 0xA0 || n == 0x1680 ||
    (0x2000 ≤ n && n ≤ 0x200A) || n == 0x2028 || n == 0x2029 || n == 0x202F || n == 0x205F ||
    n == 0x3000

/-- The text from its first visible character on. -/
def trimStart (s : List Char) : List Char := s.dropWhile isBlank

/-- The text up to its last visible character. -/
def trimEnd (s : List Char) : List Char := (s.reverse.dropWhile isBlank).reverse

def trim (s : List Char) : List Char := trimEnd (trimStart s)

def allBlank (s : List Char) : Bool := s.all isBlank

/-- The pieces of a text between the characters that satisfy `p`; there is always one piece. -/
def splitAtEach (p : Char → Bool) : List Char → List (List Char)
  | [] => [[]]
  | c :: rest =>
    if p c then [] :: splitAtEach p rest
    else
      match splitAtEach p rest with
      | [] => [[c]]
      | piece :: pieces => (c :: piece) :: pieces

/-- The maximal runs of visible characters. -/
def words (s : List Char) : List (List Char) :=
  (splitAtEach isBlank s).filter fun w => !w.isEmpty

/-! ## On strings -/

/-- `trim` on strings. -/
def trimmed (s : String) : String := String.ofList (trim s.toList)

/-- `allBlank` on strings. -/
def isBlankText (s : String) : Bool := allBlank s.toList

/-! ## Small facts -/

/-- Trimming leaves out blanks at the start. -/
theorem exists_trimStart (s : List Char) : ∃ l, s = l ++ trimStart s ∧ ∀ c ∈ l, isBlank c = true :=
  ⟨s.takeWhile isBlank, List.takeWhile_append_dropWhile.symm, List.all_eq_true.mp List.all_takeWhile⟩

/-- Trimming leaves out blanks at the end. -/
theorem exists_trimEnd (s : List Char) : ∃ r, s = trimEnd s ++ r ∧ ∀ c ∈ r, isBlank c = true := by
  obtain ⟨l, hs, hl⟩ := exists_trimStart s.reverse
  refine ⟨l.reverse, ?_, fun c hc => hl c (List.mem_reverse.mp hc)⟩
  rw [trimEnd, ← List.reverse_append, ← trimStart, ← hs, List.reverse_reverse]

theorem trimStart_blanks_append {l : List Char} (hl : ∀ c ∈ l, isBlank c = true) (s : List Char) :
    trimStart (l ++ s) = trimStart s :=
  List.dropWhile_append_of_pos hl

theorem trimEnd_append_blanks {r : List Char} (hr : ∀ c ∈ r, isBlank c = true) (s : List Char) :
    trimEnd (s ++ r) = trimEnd s := by
  rw [trimEnd, List.reverse_append,
    List.dropWhile_append_of_pos fun c hc => hr c (List.mem_reverse.mp hc), trimEnd]

/-- Blanks around a text make no difference to its trimmed form. -/
theorem trim_around {l r : List Char} (hl : ∀ c ∈ l, isBlank c = true) (hr : ∀ c ∈ r, isBlank c = true)
    (s : List Char) : trim (l ++ s ++ r) = trim s := by
  rw [trim, List.append_assoc, trimStart_blanks_append hl, trimStart, List.dropWhile_append]
  split
  · next h =>
    have hnone := trimStart_blanks_append hr []
    rw [List.append_nil] at hnone
    rw [trim, ← trimStart, hnone, show trimStart s = [] from List.isEmpty_iff.mp h]
    rfl
  · rw [trimEnd_append_blanks hr]
    rfl

theorem trim_trimStart (s : List Char) : trim (trimStart s) = trim s := by
  obtain ⟨l, hs, hl⟩ := exists_trimStart s
  conv => rhs; rw [hs]
  simpa using (trim_around hl (r := []) (by simp) (trimStart s)).symm

theorem trim_trimEnd (s : List Char) : trim (trimEnd s) = trim s := by
  obtain ⟨r, hs, hr⟩ := exists_trimEnd s
  conv => rhs; rw [hs]
  simpa using (trim_around (l := []) (by simp) hr (trimEnd s)).symm

theorem trimStart_append_cons {c : Char} (hc : isBlank c = false) (s t : List Char) :
    trimStart (s ++ c :: t) = trimStart s ++ c :: t := by
  rw [trimStart, List.dropWhile_append]
  split
  · next h =>
    rw [trimStart, List.isEmpty_iff.mp h]
    exact List.dropWhile_cons_of_neg (by simp [hc])
  · rfl

/-- Trimming goes no further than to a visible character. -/
theorem trim_append_cons {c : Char} (hc : isBlank c = false) (s t : List Char) :
    trim (s ++ c :: t) = trimStart s ++ c :: trimEnd t := by
  have hend := trimStart_append_cons hc t.reverse (trimStart s).reverse
  rw [trim, trimStart_append_cons hc, trimEnd, List.reverse_append, List.reverse_cons, List.append_assoc,
    List.singleton_append, ← trimStart, hend]
  simp [trimEnd, trimStart]

/-- A trimmed text does not end in a blank. -/
theorem not_isBlank_getLast?_trimEnd {s : List Char} {c : Char} (h : (trimEnd s).getLast? = some c) :
    isBlank c = false := by
  rw [trimEnd, List.getLast?_reverse] at h
  have hhead := List.head?_dropWhile_not isBlank s.reverse
  rwa [h] at hhead

/-- A trimmed text does not start with a blank. -/
theorem not_isBlank_head?_trim {s : List Char} {c : Char} (h : (trim s).head? = some c) :
    isBlank c = false := by
  obtain ⟨r, hr, -⟩ := exists_trimEnd (trimStart s)
  have hfirst : (trimStart s).head? = some c := by
    rw [hr, List.head?_append, ← trim, h]
    rfl
  have hhead := List.head?_dropWhile_not isBlank s
  rw [← trimStart, hfirst] at hhead
  exact hhead

theorem splitAtEach_of_forall {p : Char → Bool} {s : List Char} (h : ∀ c ∈ s, p c = false) :
    splitAtEach p s = [s] := by
  induction s with
  | nil => rfl
  | cons c s ih =>
    have hs := ih fun d hd => h d (List.mem_cons_of_mem c hd)
    simp [splitAtEach, h c List.mem_cons_self, hs]

theorem splitAtEach_ne_nil {p : Char → Bool} {s : List Char} : splitAtEach p s ≠ [] := by
  cases s with
  | nil => exact List.cons_ne_nil _ _
  | cons c s =>
    rw [splitAtEach]
    split
    · exact List.cons_ne_nil _ _
    · split <;> exact List.cons_ne_nil _ _

theorem splitAtEach_append {p : Char → Bool} {s : List Char} {mark : Char} (hmark : p mark = true)
    (h : ∀ c ∈ s, p c = false) (t : List Char) :
    splitAtEach p (s ++ mark :: t) = s :: splitAtEach p t := by
  induction s with
  | nil => simp [splitAtEach, hmark]
  | cons c s ih =>
    have hs := ih fun d hd => h d (List.mem_cons_of_mem c hd)
    simp [splitAtEach, h c List.mem_cons_self, hs]

/-- Pieces that are joined by a mark are cut apart again. -/
theorem splitAtEach_intercalate {p : Char → Bool} {mark : Char} (hmark : p mark = true)
    {pieces : List (List Char)} (hne : pieces ≠ []) (h : ∀ s ∈ pieces, ∀ c ∈ s, p c = false) :
    splitAtEach p ([mark].intercalate pieces) = pieces := by
  induction pieces with
  | nil => exact absurd rfl hne
  | cons s pieces ih =>
    have hs := h s List.mem_cons_self
    cases pieces with
    | nil => rw [List.intercalate_singleton, splitAtEach_of_forall hs]
    | cons t pieces =>
      have hrest := ih (List.cons_ne_nil t pieces) fun s' hs' => h s' (List.mem_cons_of_mem s hs')
      rw [List.intercalate_cons_cons, List.append_assoc, List.singleton_append, splitAtEach_append hmark hs, hrest]

/-- A piece of a text has no mark in it, and is a part of the text. -/
theorem of_mem_splitAtEach {p : Char → Bool} {s piece : List Char} (h : piece ∈ splitAtEach p s) :
    (∀ c ∈ piece, p c = false) ∧ piece.Sublist s := by
  induction s generalizing piece with
  | nil =>
    obtain rfl := List.mem_singleton.mp h
    exact ⟨fun _ hc => absurd hc List.not_mem_nil, List.Sublist.refl []⟩
  | cons c s ih =>
    rw [splitAtEach] at h
    split at h
    · obtain rfl | h := List.mem_cons.mp h
      · exact ⟨fun _ hc => absurd hc List.not_mem_nil, List.nil_sublist _⟩
      · exact ⟨(ih h).1, (ih h).2.cons c⟩
    · next hc =>
      split at h
      · next hpieces =>
        obtain rfl := List.mem_singleton.mp h
        refine ⟨fun d hd => ?_, List.singleton_sublist.mpr List.mem_cons_self⟩
        obtain rfl := List.mem_singleton.mp hd
        exact Bool.eq_false_iff.mpr hc
      · next first pieces hpieces =>
        obtain rfl | h := List.mem_cons.mp h
        · have hfirst := ih (hpieces ▸ List.mem_cons_self)
          refine ⟨fun d hd => ?_, hfirst.2.cons_cons c⟩
          obtain rfl | hd := List.mem_cons.mp hd
          · exact Bool.eq_false_iff.mpr hc
          · exact hfirst.1 d hd
        · have hpiece := ih (hpieces ▸ List.mem_cons_of_mem first h)
          exact ⟨hpiece.1, hpiece.2.cons c⟩

end ScanConsole.Text
