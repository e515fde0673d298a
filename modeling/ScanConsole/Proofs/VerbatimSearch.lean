import Mathlib.Data.List.Infix
import ScanConsole.State.Basic

/-!
# Searching for what is there

A search compares small forms. The small form of a character does not depend on
what stands around it, but for the sigma, which is written otherwise where a
word ends. The query and the names are put into small form each by itself, so
what is a word in one may go on in the other.

`smallSigma` is the form of a sigma between two texts, and `settles` says that
these texts settle it, whatever else stands around them. If all sigmas of a text
are settled in this way, the small form of the text stands in that of any text
around it (`lower_infix`); if not, there is a text around it of which this is
not so (`exists_not_infix`):

    settlesSigmas q ↔ ∀ s, q <:+: s → lower q <:+: lower s

So exactly the queries whose sigmas are settled find all that has them in it as
they are (`verbatim_found_iff`); there are others (`verbatim_not_found`). A
query without a capital sigma is settled, whatever else is in it.

## When a sigma is settled

The form depends on the nearest characters that case mapping does not look
through, on either side: a sigma ends a word if there is a letter with case
before it and none behind it. A letter behind it settles the form alone. So does
anything else before it that is not looked through and has no case. Otherwise
both sides have to be decided, and a letter put before or behind the text
changes the form.

## The converse

That a text around has another form at the place of the text is not enough: the
small form might stand elsewhere in it. So the sigmas of one form are counted.
What stands around a text makes no more sigmas of the form that the text alone
has, so by changing one it leaves fewer than the small form of the text has.
-/

namespace ScanConsole

namespace Text

/-! ## Finding

Blanks around a query are left out. A query that is extended may have some of
them inside, and what has the longer one in it has the shorter one too. -/

theorem isSome_after?_iff {p s : List Char} : (after? p s).isSome = true ↔ p <+: s := by
  constructor
  · intro h
    obtain ⟨r, hr⟩ := Option.isSome_iff_exists.mp h
    exact ⟨r, (eq_append_of_after? hr).symm⟩
  · rintro ⟨r, rfl⟩
    rw [after?_append]
    rfl

theorem occurs_iff {p s : List Char} : occurs p s = true ↔ p <:+: s := by
  induction s with
  | nil => rw [occurs, List.isEmpty_iff, List.infix_nil]
  | cons c s ih => rw [occurs, Bool.or_eq_true, isSome_after?_iff, ih, List.infix_cons_iff]

theorem infix_trim {u s : List Char} (hhead : ∀ c, u.head? = some c → isBlank c = false)
    (hlast : ∀ c, u.getLast? = some c → isBlank c = false) (h : u <:+: s) : u <:+: trim s := by
  have hstart {v t : List Char} (hv : ∀ c, v.head? = some c → isBlank c = false) (h : v <:+: t) :
      v <:+: t.dropWhile isBlank := by
    obtain ⟨a, b, rfl⟩ := h
    cases v with
    | nil => exact List.nil_infix
    | cons c v =>
      have hc : (c :: v ++ b).dropWhile isBlank = c :: v ++ b :=
        List.dropWhile_cons_of_neg (by simp [hv c rfl])
      rw [List.append_assoc, List.dropWhile_append]
      split
      · rw [hc]
        exact (List.prefix_append _ _).isInfix
      · exact ⟨_, b, List.append_assoc _ _ _⟩
  have hend := hstart (v := u.reverse) (t := (trimStart s).reverse)
    (fun c hc => hlast c (by rwa [List.head?_reverse] at hc)) (List.reverse_infix.mpr (hstart hhead h))
  rw [← List.reverse_infix, trim, trimEnd, List.reverse_reverse]
  exact hend

theorem trim_infix {s t : List Char} (h : s <:+: t) : trim s <:+: trim t := by
  obtain ⟨l, hl, -⟩ := exists_trimStart s
  obtain ⟨r, hr, -⟩ := exists_trimEnd (trimStart s)
  have hin : trim s <:+: s := by
    refine ⟨l, r, ?_⟩
    rw [List.append_assoc, trim, ← hr, ← hl]
  exact infix_trim (fun c => not_isBlank_head?_trim) (fun c => not_isBlank_getLast?_trimEnd) (hin.trans h)

/-! ## The form of a sigma

A form that is not settled can be changed by a letter behind it or before it. -/

/-- The small form of a sigma between these texts, of which the first is read backwards. -/
def smallSigma (before rest : List Char) : Char := if casedAhead before && !casedAhead rest then 'ς' else 'σ'

/-- The text has a character that case mapping does not look through. -/
def stops (s : List Char) : Bool := s.any fun c => !isCaseIgnorable c

/-- The form of a sigma between these texts does not depend on what stands around them: a letter with case
comes behind it, or there is none before it, or both sides are decided. -/
def settles (before rest : List Char) : Bool :=
  casedAhead rest || (stops before && (!casedAhead before || stops rest))

theorem casedAhead_append (s t : List Char) :
    casedAhead (s ++ t) = if stops s then casedAhead s else casedAhead t := by
  induction s with
  | nil => rfl
  | cons c s ih =>
    unfold casedAhead stops at *
    cases hc : isCaseIgnorable c with
    | true => simpa [hc] using ih
    | false => simp [hc]

theorem casedAhead_of_not_stops {s : List Char} (h : stops s = false) : casedAhead s = false := by
  have happend := casedAhead_append s []
  rw [List.append_nil, h] at happend
  exact happend

theorem smallSigma_of_settles {before rest : List Char} (h : settles before rest = true) (x y : List Char) :
    smallSigma (before ++ x) (rest ++ y) = smallSigma before rest := by
  unfold smallSigma
  unfold settles at h
  rw [casedAhead_append, casedAhead_append]
  cases hrest : stops rest with
  | true =>
    cases hbefore : stops before with
    | true => rfl
    | false =>
      rw [hbefore, Bool.false_and, Bool.or_false] at h
      simp [h]
  | false =>
    rw [casedAhead_of_not_stops hrest, hrest, Bool.false_or, Bool.or_false, Bool.and_eq_true] at h
    obtain ⟨hbefore, hcased⟩ := h
    rw [Bool.not_eq_true'] at hcased
    simp [hbefore, hcased]

theorem casedAhead_a : casedAhead ['a'] = true := rfl

theorem smallSigma_of_not_settles {before rest : List Char} (h : settles before rest = false) :
    (smallSigma before rest = 'ς' ∧ smallSigma before (rest ++ ['a']) = 'σ') ∨
      (smallSigma before rest = 'σ' ∧ smallSigma (before ++ ['a']) rest = 'ς') := by
  obtain ⟨hrest, hbefore⟩ := Bool.or_eq_false_iff.mp h
  unfold smallSigma
  rw [casedAhead_append, casedAhead_append, casedAhead_a, hrest]
  cases hstops : stops before with
  | false => exact .inr (by simp [casedAhead_of_not_stops hstops])
  | true =>
    rw [hstops, Bool.true_and, Bool.or_eq_false_iff, Bool.not_eq_false'] at hbefore
    exact .inl (by simp [hbefore])

/-! ## The small form of a text between others

Between two texts each character has the form that it has in the whole. -/

/-- The small form of a character between these texts. -/
def smallForm (before : List Char) (c : Char) (rest : List Char) : List Char :=
  if c == 'Σ' then [smallSigma before rest] else if c == 'İ' then ['i', '\u0307'] else [lowerChar c]

/-- The small form of a text that stands between two others. -/
def lowerBetween (before behind : List Char) : List Char → List Char
  | [] => []
  | c :: rest => smallForm before c (rest ++ behind) ++ lowerBetween (c :: before) behind rest

theorem lowerAfter_append (before s behind : List Char) :
    lowerAfter before (s ++ behind) =
      lowerBetween before behind s ++ lowerAfter (s.reverse ++ before) behind := by
  induction s generalizing before with
  | nil => rfl
  | cons c s ih =>
    have hrest := ih (c :: before)
    rw [List.cons_append, lowerBetween, List.append_assoc, List.reverse_cons, List.append_assoc]
    exact congrArg (smallForm before c (s ++ behind) ++ ·) hrest

theorem lower_eq (s : List Char) : lower s = lowerBetween [] [] s := by
  have h := lowerAfter_append [] s []
  rwa [List.append_nil, lowerAfter, List.append_nil] at h

theorem lowerBetween_append (before behind s t : List Char) :
    lowerBetween before behind (s ++ t) =
      lowerBetween before (t ++ behind) s ++ lowerBetween (s.reverse ++ before) behind t := by
  induction s generalizing before with
  | nil => rfl
  | cons c s ih =>
    rw [List.cons_append, lowerBetween, ih, lowerBetween, List.append_assoc, List.append_assoc,
      List.reverse_cons, List.append_assoc]
    rfl

theorem lower_around (x s y : List Char) : lowerBetween x.reverse y s <:+: lower (x ++ s ++ y) := by
  refine ⟨lowerBetween [] (s ++ y) x, lowerAfter ((x ++ s).reverse ++ []) y, ?_⟩
  rw [lower, lowerAfter_append, lowerBetween_append, List.append_nil, List.append_nil]

/-! ## Settled texts

What stands around a text makes no sigmas of this form, and if it changes the
form of one there are fewer. -/

/-- All sigmas of the text are settled in it; `before` is what precedes it, nearest character first. -/
def settlesAfter (before : List Char) : List Char → Bool
  | [] => true
  | c :: rest => (c != 'Σ' || settles before rest) && settlesAfter (c :: before) rest

/-- All sigmas of the text are settled in it. -/
def settlesSigmas (s : List Char) : Bool := settlesAfter [] s

theorem lowerBetween_of_settles {before s : List Char} (h : settlesAfter before s = true) (x y : List Char) :
    lowerBetween (before ++ x) y s = lowerBetween before [] s := by
  induction s generalizing before with
  | nil => rfl
  | cons c s ih =>
    obtain ⟨hc, hs⟩ := Bool.and_eq_true_iff.mp h
    have hform : smallForm (before ++ x) c (s ++ y) = smallForm before c s := by
      unfold smallForm
      by_cases hsigma : c = 'Σ'
      · subst hsigma
        rw [bne_self_eq_false, Bool.false_or] at hc
        rw [smallSigma_of_settles hc]
      · rw [beq_eq_false_iff_ne.mpr hsigma]
        rfl
    rw [lowerBetween, lowerBetween, hform, List.append_nil]
    exact congrArg (smallForm before c s ++ ·) (ih hs)

/-- The small form of a settled text stands in that of any text around it. -/
theorem lower_infix {q s : List Char} (hq : settlesSigmas q = true) (h : q <:+: s) : lower q <:+: lower s := by
  obtain ⟨x, y, rfl⟩ := h
  have hsame := lowerBetween_of_settles hq x.reverse y
  rw [List.nil_append] at hsame
  rw [lower_eq q, ← hsame]
  exact lower_around x q y

theorem exists_of_not_settles {before s : List Char} (h : settlesAfter before s = false) :
    ∃ l r, s = l ++ 'Σ' :: r ∧ settles (l.reverse ++ before) r = false := by
  induction s generalizing before with
  | nil => cases h
  | cons c s ih =>
    obtain hc | hs := Bool.and_eq_false_iff.mp h
    · obtain ⟨hsigma, hsettles⟩ := Bool.or_eq_false_iff.mp hc
      obtain rfl := bne_eq_false_iff_eq.mp hsigma
      exact ⟨[], s, rfl, hsettles⟩
    · obtain ⟨l, r, rfl, hsettles⟩ := ih hs
      refine ⟨c :: l, r, rfl, ?_⟩
      rwa [List.reverse_cons, List.append_assoc]

section
variable {d : Char} {x y : List Char}
  (hd : ∀ before rest, smallSigma (before ++ x) (rest ++ y) = d → smallSigma before rest = d)
include hd

theorem count_lowerBetween_le (before behind s : List Char) :
    (lowerBetween (before ++ x) (behind ++ y) s).count d ≤ (lowerBetween before behind s).count d := by
  induction s generalizing before with
  | nil => exact Nat.le_refl _
  | cons c s ih =>
    have hform : (smallForm (before ++ x) c (s ++ (behind ++ y))).count d ≤
        (smallForm before c (s ++ behind)).count d := by
      unfold smallForm
      split
      · rw [List.count_singleton, List.count_singleton, ← List.append_assoc]
        split
        · next h =>
          rw [hd before (s ++ behind) (eq_of_beq h), if_pos (beq_self_eq_true d)]
        · exact Nat.zero_le _
      · exact Nat.le_refl _
    rw [lowerBetween, lowerBetween, List.count_append, List.count_append]
    exact Nat.add_le_add hform (ih (c :: before))

/-- If it changes the form of one, it has fewer. -/
theorem count_lowerBetween_lt {l r : List Char} (hl : smallSigma l.reverse r = d)
    (hout : smallSigma (l.reverse ++ x) (r ++ y) ≠ d) :
    (lowerBetween x y (l ++ 'Σ' :: r)).count d < (lower (l ++ 'Σ' :: r)).count d := by
  have hleft := count_lowerBetween_le hd [] ('Σ' :: r) l
  have hright := count_lowerBetween_le hd ('Σ' :: l.reverse) [] r
  have hsigma : (smallForm (l.reverse ++ x) 'Σ' (r ++ y)).count d = 0 :=
    List.count_eq_zero.mpr fun h => hout (List.mem_singleton.mp h).symm
  have hsigma' : (smallForm l.reverse 'Σ' r).count d = 1 := by
    show [smallSigma l.reverse r].count d = 1
    rw [hl, List.count_singleton_self]
  rw [lower_eq, lowerBetween_append, lowerBetween_append, lowerBetween, lowerBetween]
  simp only [List.count_append, List.append_nil, List.nil_append, List.cons_append] at *
  omega

end

/-- Of a text that is not settled, the small form is missing in that of some text around it. -/
theorem exists_not_infix {q : List Char} (hq : settlesSigmas q = false) :
    ∃ s, q <:+: s ∧ ¬ lower q <:+: lower s := by
  obtain ⟨l, r, rfl, hsettles⟩ := exists_of_not_settles hq
  rw [List.append_nil] at hsettles
  obtain ⟨hform, hother⟩ | ⟨hform, hother⟩ := smallSigma_of_not_settles hsettles
  · -- final, and no longer so with a letter behind the text
    have hd (before rest : List Char) (h : smallSigma (before ++ []) (rest ++ ['a']) = 'ς') :
        smallSigma before rest = 'ς' := by
      unfold smallSigma at *
      rw [List.append_nil, casedAhead_append, casedAhead_a] at h
      cases hrest : stops rest with
      | true => simpa [hrest] using h
      | false => simp [hrest] at h
    have hlt := count_lowerBetween_lt hd hform (by rw [List.append_nil, hother]; decide)
    refine ⟨l ++ 'Σ' :: r ++ ['a'], (List.prefix_append _ _).isInfix, fun hinfix => ?_⟩
    have hle := hinfix.sublist.count_le 'ς'
    have hsplit : lower (l ++ 'Σ' :: r ++ ['a']) = lowerBetween [] ['a'] (l ++ 'Σ' :: r) ++ ['a'] :=
      lowerAfter_append [] _ _
    rw [hsplit, List.count_append] at hle
    have hlast : ['a'].count 'ς' = 0 := rfl
    rw [hlast, Nat.add_zero] at hle
    exact Nat.lt_irrefl _ (Nat.lt_of_le_of_lt hle hlt)
  · -- not final, but so with a letter before the text
    have hd (before rest : List Char) (h : smallSigma (before ++ ['a']) (rest ++ []) = 'σ') :
        smallSigma before rest = 'σ' := by
      unfold smallSigma at *
      rw [List.append_nil, casedAhead_append, casedAhead_a] at h
      cases hbefore : stops before with
      | true => simpa [hbefore] using h
      | false => simp [casedAhead_of_not_stops hbefore]
    have hlt := count_lowerBetween_lt hd hform (by rw [List.append_nil, hother]; decide)
    refine ⟨['a'] ++ (l ++ 'Σ' :: r), (List.suffix_append _ _).isInfix, fun hinfix => ?_⟩
    have hle := hinfix.sublist.count_le 'σ'
    have hsplit : lower (['a'] ++ (l ++ 'Σ' :: r)) = ['a'] ++ lowerBetween ['a'] [] (l ++ 'Σ' :: r) := by
      rw [lower_eq, lowerBetween_append]
      rfl
    rw [hsplit, List.count_append] at hle
    have hfirst : ['a'].count 'σ' = 0 := rfl
    rw [hfirst, Nat.zero_add] at hle
    exact Nat.lt_irrefl _ (Nat.lt_of_le_of_lt hle hlt)

end Text

/-! ## Resources

A query is looked for in the name and in the address of a resource. -/

namespace Resource

variable {r : Resource} {query : String}

theorem isFoundBy_iff :
    r.isFoundBy query = true ↔
      Text.lower (Text.trim query.toList) <:+: Text.lower r.hostname.toList ∨
        Text.lower (Text.trim query.toList) <:+: Text.lower r.address.toList := by
  rw [isFoundBy, Bool.or_eq_true, Bool.or_eq_true, Text.occurs_iff, Text.occurs_iff, or_assoc,
    or_iff_right_of_imp]
  intro hempty
  rw [List.isEmpty_iff.mp hempty]
  exact .inl List.nil_infix

/-- The resource has the query in it as it is, but for blanks around it. -/
def HasVerbatim (r : Resource) (query : String) : Prop :=
  Text.trim query.toList <:+: r.hostname.toList ∨ Text.trim query.toList <:+: r.address.toList

instance (r : Resource) (query : String) : Decidable (r.HasVerbatim query) :=
  inferInstanceAs (Decidable (_ ∨ _))

/-- The query has no sigma whose form depends on what stands around the query. -/
def settlesQuery (query : String) : Bool := Text.settlesSigmas (Text.trim query.toList)

theorem isFoundBy_of_hasVerbatim (hquery : settlesQuery query = true) (h : r.HasVerbatim query) :
    r.isFoundBy query = true :=
  isFoundBy_iff.mpr (h.imp (Text.lower_infix hquery) (Text.lower_infix hquery))

theorem exists_not_found (hquery : settlesQuery query = false) :
    ∃ r : Resource, r.HasVerbatim query ∧ r.isFoundBy query = false := by
  obtain ⟨s, hin, hnot⟩ := Text.exists_not_infix hquery
  let r : Resource := ⟨"", String.ofList s, none, none, .synthetic 0⟩
  have hhost : r.hostname.toList = s := String.toList_ofList
  refine ⟨r, .inl (hhost.symm ▸ hin), ?_⟩
  rw [← Bool.not_eq_true, isFoundBy_iff, hhost]
  rintro (h | h)
  · exact hnot h
  · -- only an empty form stands in an empty address, and it would stand anywhere
    refine hnot ?_
    rw [List.infix_nil.mp (show Text.lower (Text.trim query.toList) <:+: [] from h)]
    exact List.nil_infix

theorem isFoundBy_of_extended (hquery : settlesQuery query = true) (before behind : String)
    (h : r.isFoundBy (before ++ query ++ behind) = true) : r.isFoundBy query = true := by
  have hin : query.toList <:+: (before ++ query ++ behind).toList :=
    ⟨before.toList, behind.toList, by rw [String.toList_append, String.toList_append]⟩
  have hlower := Text.lower_infix hquery (Text.trim_infix hin)
  exact isFoundBy_iff.mpr ((isFoundBy_iff.mp h).imp hlower.trans hlower.trans)

end Resource

/-- Exactly the queries whose sigmas are settled find every resource that has them in it as they are. In a
section that is searched with one of these, what has it is visible, and it stays hidden what was hidden when
such a query is extended. What is visible keeps its order with any query. -/
theorem verbatim_found_iff (query : String) :
    (Resource.settlesQuery query = true ↔ ∀ r : Resource, r.HasVerbatim query → r.isFoundBy query = true) ∧
    (∀ s : ResourceSection, s.query = query → s.visible.Sublist s.items ∧
      (Resource.settlesQuery query = true → ∀ r ∈ s.items, r.HasVerbatim query → r ∈ s.visible)) ∧
    (Resource.settlesQuery query = true → ∀ (before behind : String) (r : Resource),
      r.isFoundBy query = false → r.isFoundBy (before ++ query ++ behind) = false) := by
  refine ⟨⟨fun hquery r h => Resource.isFoundBy_of_hasVerbatim hquery h, fun h => ?_⟩, ?_, ?_⟩
  · rw [← Bool.not_eq_false]
    intro hquery
    obtain ⟨r, hverbatim, hhidden⟩ := Resource.exists_not_found hquery
    rw [h r hverbatim] at hhidden
    cases hhidden
  · rintro s rfl
    refine ⟨List.filter_sublist, fun hquery r hr h => ?_⟩
    exact List.mem_filter.mpr ⟨hr, Resource.isFoundBy_of_hasVerbatim hquery h⟩
  · intro hquery before behind r hhidden
    rw [← Bool.not_eq_true] at *
    exact fun h => hhidden (Resource.isFoundBy_of_extended hquery before behind h)

/-- A machine with a sigma in its name. -/
def sigmaHost : Resource := ⟨"10.0.0.1", "AΣA", none, none, .synthetic 80⟩

theorem verbatim_found_behind_sigma :
    Resource.settlesQuery " ΣA" = true ∧ sigmaHost.HasVerbatim " ΣA" ∧ sigmaHost.isFoundBy " ΣA" = true := by
  have hquery : Resource.settlesQuery " ΣA" = true := by decide
  have hverbatim : sigmaHost.HasVerbatim " ΣA" := by decide
  exact ⟨hquery, hverbatim, (verbatim_found_iff " ΣA").1.mp hquery sigmaHost hverbatim⟩

/-- What the name starts with is not found, for the sigma ends a word there and not in the name. The whole
name is found. -/
theorem verbatim_not_found :
    sigmaHost.HasVerbatim "AΣ" ∧ sigmaHost.isFoundBy "AΣ" = false ∧ sigmaHost.isFoundBy ("AΣ" ++ "A") = true := by
  decide

end ScanConsole
