/-!
# Finding texts in texts

`after? p s` is what follows the text `p` at the head of `s`; `occurs p s` says
that `p` stands somewhere in `s`. The folded forms compare as regular
expressions do without case: beyond the case of ASCII letters, a long s counts
as an s and a Kelvin sign as a k.
-/

namespace ScanConsole.Text

/-- What follows `p` at the head of the text. -/
def after? : (p s : List Char) → Option (List Char)
  | [], s => some s
  | _ :: _, [] => none
  | x :: p, c :: s => if x == c then after? p s else none

/-- `p` stands somewhere in the text. -/
def occurs (p : List Char) : List Char → Bool
  | [] => p.isEmpty
  | c :: s => (after? p (c :: s)).isSome || occurs p s

/-- The pattern character `x`, a small letter or no letter, stands for `c` up to case. -/
def sameFolded (x c : Char) : Bool :=
  x == c.toLower || (x == 's' && c == '\u017F') || (x == 'k' && c == '\u212A')

/-- What follows `p` at the head of the text, up to case. -/
def afterFolded? : (p s : List Char) → Option (List Char)
  | [], s => some s
  | _ :: _, [] => none
  | x :: p, c :: s => if sameFolded x c then afterFolded? p s else none

/-- The first split of the text at a separator character, which belongs to neither side. -/
def splitOnce? (sep : Char) : List Char → Option (List Char × List Char)
  | [] => none
  | c :: s => if c == sep then some ([], s) else (splitOnce? sep s).map fun r => (c :: r.1, r.2)

/-! ## Small facts -/

/-- `after?` undoes an append. -/
theorem after?_append (p s : List Char) : after? p (p ++ s) = some s := by
  induction p with
  | nil => rfl
  | cons x p ih => simp [after?, ih]

/-- What `after?` finds stands there. -/
theorem eq_append_of_after? {p s r : List Char} (h : after? p s = some r) : s = p ++ r := by
  induction p generalizing s with
  | nil => simpa [after?] using h
  | cons x p ih =>
    cases s with
    | nil => simp [after?] at h
    | cons c s =>
      by_cases hx : x = c
      · subst hx
        simp only [after?, beq_self_eq_true, if_true] at h
        simp [ih h]
      · simp [after?, hx] at h

/-- A text is found up to case where it is spelled in any letter case. -/
theorem afterFolded?_append (p s : List Char) : afterFolded? (p.map Char.toLower) (p ++ s) = some s := by
  induction p with
  | nil => rfl
  | cons c p ih => simp [afterFolded?, sameFolded, ih]

/-- A split finds the first separator. -/
theorem splitOnce?_append {sep : Char} {s : List Char} (h : sep ∉ s) (t : List Char) :
    splitOnce? sep (s ++ sep :: t) = some (s, t) := by
  induction s with
  | nil => simp [splitOnce?]
  | cons c s ih =>
    rw [List.mem_cons, not_or] at h
    obtain ⟨hc, hs⟩ := h
    simp [splitOnce?, Ne.symm hc, ih hs]

/-- There is no split without a separator. -/
theorem splitOnce?_eq_none {sep : Char} {s : List Char} (h : sep ∉ s) : splitOnce? sep s = none := by
  induction s with
  | nil => rfl
  | cons c s ih =>
    rw [List.mem_cons, not_or] at h
    obtain ⟨hc, hs⟩ := h
    simp [splitOnce?, Ne.symm hc, ih hs]

end ScanConsole.Text
