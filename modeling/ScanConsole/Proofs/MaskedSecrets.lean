import Mathlib.Data.Bool.AllAny
import ScanConsole.Proofs.LogHistory
import ScanConsole.Proofs.Overwriting

/-!
# Secrets in the log

A line in which a secret follows a key can be written in three ways:

    key: secret          key=secret          "key": "secret"

`secret_hidden` says for each of them when the secret stays out of the log
(`Hides`): the stored line has as many bytes, and an asterisk in the place of
each byte of the secret, whatever the buffer held before and however the line
ends. Behind a sign of equality this holds of every secret without blanks,
quotes, commas and closing braces, and between quotes of every secret without
quotes and line feeds.

Behind a colon it holds just of secrets that begin with a word character, or are
nothing but asterisks. A bare secret begins where a word does. When the
character behind the blank begins none, the pattern gives up the blank and takes
the colon for the secret, which is masked, and the secret goes to the log as it
is. Behind a sign of equality the same happens, but there is no blank, so the
sign with all that follows is taken for the secret and is hidden with it.

## How a line is masked

The keys are tried one after the other, each on what the one before has left.
All keys but the one that the line begins with leave what stands before the
secret as it is, for they begin nowhere in it (`passed_leads`). They may still
overwrite parts of the secret, if it has a key in it. What they leave is again a
bare text that begins with the same character, or a quoted text of the same
length; and asterisks are never anything else again. So the key of the line
decides, in whichever place it is tried (`mask_of_key`).

What this key finds is the whole secret (`secretBehind?_sign`,
`secretBehind?_quoted`), or the sign before it.
-/

namespace ScanConsole.Log

open Text.Utf8 (size encode)

/-! ## What is found behind a key

A bare character is found if a word begins or ends with it. Behind the sign and
the blanks the search takes what stands there, or else goes back to the sign
itself. -/

section
variable {before : Option Char} {c : Char} {v gap : List Char}

theorem ne_quote_of_isBare (h : isBare c) : c ≠ '"' := by
  rintro rfl
  exact absurd h (by decide)

theorem not_isBlank_of_isBare (h : isBare c) : Text.isBlank c = false := by
  simp only [isBare, Bool.not_eq_true', Bool.or_eq_false_iff] at h
  exact h.1.1.1

@[simp] theorem Place.advance_zero (p : Place) : p.advance 0 = p := rfl

@[simp] theorem Place.advance_one (b : Option Char) (c : Char) (rest : List Char) :
    Place.advance ⟨b, c :: rest⟩ 1 = ⟨some c, rest⟩ := rfl

theorem blanks_append (hgap : ∀ d ∈ gap, Text.isBlank d) (hc : Text.isBlank c = false) (b : Option Char) :
    Place.blanks ⟨b, gap ++ c :: v⟩ = gap.length := by
  simp [Place.blanks, List.takeWhile_append_of_pos hgap, hc]

/-- What goes on bare is a secret if a word begins or ends with its first character. -/
theorem secretHere?_bare (hc : isBare c) :
    secretHere? ⟨before, c :: v⟩ =
      if Text.isWordEdge before (some c) then some (false, (c :: v.takeWhile isBare).length) else none := by
  unfold secretHere?
  split
  · next heq => exact absurd (List.cons.inj heq).1 (ne_quote_of_isBare hc)
  · next heq =>
    obtain ⟨rfl, rfl⟩ := List.cons.inj heq
    rw [hc, Bool.and_true, List.length_cons, Nat.add_comm]
  · next heq => cases heq

theorem secretHere?_quoted (hv : '"' ∉ v) (hne : v ≠ []) :
    secretHere? ⟨before, '"' :: (v ++ ['"'])⟩ = some (true, v.length) := by
  have hall : ∀ d ∈ v, (d != '"') = true := by
    intro d hd
    rw [bne_iff_ne]
    exact fun h => hv (h ▸ hd)
  have hlength : v.length ≠ 0 := fun h => hne (List.length_eq_zero_iff.mp h)
  simp [secretHere?, List.takeWhile_append_of_pos hall, hlength]

/-- Behind a sign and blanks: what stands there, or else the sign itself. -/
theorem secretBehind?_sign {sign : Char} (hsign : isSign sign) (hgap : ∀ d ∈ gap, Text.isBlank d)
    (hc : Text.isBlank c = false) :
    secretBehind? ⟨before, sign :: (gap ++ c :: v)⟩ =
      ((secretHere? ⟨(sign :: gap).getLast?, c :: v⟩).map fun s => (1 + gap.length, s.1, s.2)).or
        ((secretHere? ⟨before, sign :: (gap ++ c :: v)⟩).map fun s => (0, s.1, s.2)) := by
  obtain ⟨hquote, hblank⟩ : (sign == '"') = false ∧ Text.isBlank sign = false := by
    rcases Bool.or_eq_true_iff.mp hsign with h | h <;> rw [beq_iff_eq.mp h] <;> decide
  have hblanks : Place.blanks ⟨before, sign :: (gap ++ c :: v)⟩ = 0 := by
    simp [Place.blanks, hblank]
  have hnoQuote : optionalAt ⟨before, sign :: (gap ++ c :: v)⟩ (· == '"') = [0] := by
    simp [optionalAt, Place.follows, hquote]
  have hsigns : optionalAt ⟨before, sign :: (gap ++ c :: v)⟩ isSign = [1, 0] := by
    simp [optionalAt, Place.follows, hsign]
  have hbehind : Place.advance ⟨some sign, gap ++ c :: v⟩ gap.length =
      ⟨(sign :: gap).getLast?, c :: v⟩ := by
    rw [Place.advance_append, List.getLast?_cons]
    cases gap.getLast? <;> rfl
  unfold secretBehind?
  rw [hnoQuote]
  simp only [List.findSome?_cons, List.findSome?_nil, Place.advance_zero, hblanks, hsigns,
    Place.advance_one, blanks_append hgap hc, hbehind]
  cases secretHere? ⟨(sign :: gap).getLast?, c :: v⟩ <;>
    cases secretHere? ⟨before, sign :: (gap ++ c :: v)⟩ <;> simp

theorem secretBehind?_quoted (hv : '"' ∉ v) (hne : v ≠ []) :
    secretBehind? ⟨before, ['"', ':', ' '] ++ '"' :: (v ++ ['"'])⟩ = some (3, true, v.length) := by
  have hhere : secretHere? ⟨some ' ', '"' :: (v ++ ['"'])⟩ = some (true, v.length) :=
    secretHere?_quoted hv hne
  have hcolon : Text.isBlank ':' = false := rfl
  have hblank : Text.isBlank ' ' = true := rfl
  have hquote : Text.isBlank '"' = false := rfl
  simp [secretBehind?, optionalAt, Place.follows, Place.blanks, isSign, hcolon, hblank, hquote, hhere]

end

/-! ## What a key does to its own line

A key begins and ends with a character that a word may end with, so a sign right
behind it is the border of a word and may begin a secret. -/

section
variable {key : String}

theorem secretKeys_words : ∀ key ∈ secretKeys, key.toList ≠ [] ∧ key.toList.head? ≠ some '"' ∧
    Text.isWordAt key.toList.getLast? ∧ '\n' ∉ key.toList ∧ Text.allBlank key.toList = false := by
  decide

theorem secretAt?_key (hkey : key ∈ secretKeys) (rest : List Char) :
    secretAt? key.toList ⟨none, key.toList ++ rest⟩ =
      (secretBehind? ⟨key.toList.getLast?, rest⟩).map fun s => ⟨key.toList.length + s.1, s.2.1, s.2.2⟩ := by
  obtain ⟨hne, hhead, -⟩ := secretKeys_words key hkey
  rw [← Option.or_none (o := key.toList.getLast?), ← secretOfKey?_self rfl]
  unfold secretAt?
  split
  · next heq =>
    obtain ⟨c, tail, htext⟩ := List.exists_cons_of_ne_nil hne
    rw [htext] at hhead heq
    exact absurd (congrArg some (List.cons.inj heq).1) hhead
  · rfl

theorem secretAt?_quotedKey (rest : List Char) :
    secretAt? key.toList ⟨none, '"' :: (key.toList ++ rest)⟩ =
      (secretBehind? ⟨key.toList.getLast?.or (some '"'), rest⟩).map fun s =>
        ⟨key.toList.length + s.1 + 1, s.2.1, s.2.2⟩ := by
  unfold secretAt?
  simp only [Place.advance_one]
  rw [secretOfKey?_self (by decide), Option.map_map]
  rfl

theorem maskKey_of_bare {lead secret : List Char} (hlead : lead ≠ []) (hquote : '"' ∉ secret)
    (h : secretAt? key.toList ⟨none, lead ++ secret⟩ = some ⟨lead.length, false, secret.length⟩) :
    maskKey (lead ++ secret) key = lead ++ asterisks secret := by
  have hsplits : Secret.Splits ⟨lead.length, false, secret.length⟩ (lead ++ secret) lead secret [] :=
    ⟨by simp [Secret.quotes], rfl, rfl, hquote⟩
  rw [maskKey, maskKeyAfter_of_splits h hsplits hlead, maskKeyAfter]
  simp [Secret.quotes]

theorem maskKey_of_quoted {lead secret : List Char} (hlead : lead ≠ []) (hquote : '"' ∉ secret)
    (h : secretAt? key.toList ⟨none, lead ++ '"' :: (secret ++ ['"'])⟩ =
      some ⟨lead.length, true, secret.length⟩) :
    maskKey (lead ++ '"' :: (secret ++ ['"'])) key = lead ++ '"' :: (asterisks secret ++ ['"']) := by
  have hsplits : Secret.Splits ⟨lead.length, true, secret.length⟩ (lead ++ '"' :: (secret ++ ['"']))
      lead secret [] := ⟨by simp [Secret.quotes], rfl, rfl, hquote⟩
  rw [maskKey, maskKeyAfter_of_splits h hsplits hlead, maskKeyAfter]
  simp [Secret.quotes]

variable {c : Char} {v : List Char}

theorem quote_not_mem_of_bare {v : List Char} (hv : ∀ d ∈ v, isBare d) : '"' ∉ v :=
  fun h => ne_quote_of_isBare (hv _ h) rfl

theorem isWordEdge_of_gap {before : Option Char} (hbefore : Text.isWordAt before = false) (c : Char) :
    Text.isWordEdge before (some c) = Text.isWord c := by
  rw [Text.isWordEdge, hbefore, show Text.isWordAt (some c) = Text.isWord c from rfl]
  cases Text.isWord c <;> rfl

theorem secretHere?_sign (hkey : key ∈ secretKeys) {sign : Char} (hsign : isSign sign) :
    secretHere? ⟨key.toList.getLast?, sign :: v⟩ = some (false, (sign :: v.takeWhile isBare).length) := by
  have hword : Text.isWordAt key.toList.getLast? = true := (secretKeys_words key hkey).2.2.1
  obtain ⟨hbare, hedge⟩ : isBare sign ∧ Text.isWordAt (some sign) = false := by
    rcases Bool.or_eq_true_iff.mp hsign with h | h <;> rw [beq_iff_eq.mp h] <;> decide
  rw [secretHere?_bare hbare, if_pos]
  rw [Text.isWordEdge, hword, hedge]
  rfl

theorem maskKey_colon (hkey : key ∈ secretKeys) (hv : ∀ d ∈ c :: v, isBare d) (hc : Text.isWord c) :
    maskKey (key.toList ++ [':', ' '] ++ c :: v) key = key.toList ++ [':', ' '] ++ asterisks (c :: v) := by
  obtain ⟨hbare, hrest⟩ := List.forall_mem_cons.mp hv
  refine maskKey_of_bare (by simp) (quote_not_mem_of_bare hv) ?_
  have hbehind : secretBehind? ⟨key.toList.getLast?, ':' :: ([' '] ++ c :: v)⟩ =
      some (2, false, (c :: v).length) := by
    rw [secretBehind?_sign rfl (List.forall_mem_singleton.mpr rfl) (not_isBlank_of_isBare hbare), secretHere?_bare hbare,
      isWordEdge_of_gap rfl, if_pos hc, List.takeWhile_eq_self_iff.mpr hrest]
    rfl
  rw [List.append_assoc, secretAt?_key hkey]
  exact (congrArg _ hbehind).trans (by simp)

theorem secretKeys_skip_blank : ∀ key ∈ secretKeys, skips key.toList (some ':') [' '] := by decide

/-- Behind a colon and a blank, what begins no word is no secret: the colon is taken for one. -/
theorem maskKey_colon_of_gap (hkey : key ∈ secretKeys) (hbare : isBare c) (hc : Text.isWord c = false) :
    ∃ text, maskKey (key.toList ++ [':', ' '] ++ c :: v) key = key.toList ++ ['*', ' '] ++ text ∧
      Masked (c :: v) text := by
  obtain ⟨hne, -⟩ := secretKeys_words key hkey
  have hbehind : secretBehind? ⟨key.toList.getLast?, ':' :: ([' '] ++ c :: v)⟩ = some (0, false, 1) := by
    rw [secretBehind?_sign rfl (List.forall_mem_singleton.mpr rfl) (not_isBlank_of_isBare hbare), secretHere?_bare hbare,
      isWordEdge_of_gap rfl, hc, secretHere?_sign hkey rfl]
    rfl
  have hfound : secretAt? key.toList ⟨none, key.toList ++ ':' :: ([' '] ++ c :: v)⟩ =
      some ⟨key.toList.length, false, 1⟩ := by
    rw [secretAt?_key hkey, hbehind]
    rfl
  have hsplits : Secret.Splits ⟨key.toList.length, false, 1⟩ (key.toList ++ ':' :: ([' '] ++ c :: v))
      key.toList [':'] ([' '] ++ c :: v) := ⟨by simp [Secret.quotes], rfl, rfl, by decide⟩
  refine ⟨maskKeyAfter key.toList (some ' ') (c :: v), ?_, masked_maskKeyAfter (secretKeys_shown key hkey) _ _⟩
  rw [List.append_assoc, maskKey]
  refine (maskKeyAfter_of_splits hfound hsplits hne).trans ?_
  have hgap : maskKeyAfter key.toList (some ':') (' ' :: c :: v) =
      ' ' :: maskKeyAfter key.toList (some ' ') (c :: v) :=
    maskKeyAfter_of_skips (secretKeys_skip_blank key hkey) (c :: v)
  have hcolon : asterisks [':'] = ['*'] := rfl
  simp [Secret.quotes, hcolon, hgap]

theorem maskKey_equals (hkey : key ∈ secretKeys) (hv : ∀ d ∈ c :: v, isBare d) :
    maskKey (key.toList ++ ['='] ++ c :: v) key =
      key.toList ++ [if Text.isWord c then '=' else '*'] ++ asterisks (c :: v) := by
  obtain ⟨hne, -⟩ := secretKeys_words key hkey
  obtain ⟨hbare, hrest⟩ := List.forall_mem_cons.mp hv
  have hbehind : secretBehind? ⟨key.toList.getLast?, '=' :: ([] ++ c :: v)⟩ =
      if Text.isWord c then some (1, false, (c :: v).length) else some (0, false, ('=' :: c :: v).length) := by
    rw [secretBehind?_sign rfl (List.forall_mem_nil _) (not_isBlank_of_isBare hbare), secretHere?_bare hbare,
      isWordEdge_of_gap (by decide), secretHere?_sign hkey rfl, List.nil_append,
      List.takeWhile_eq_self_iff.mpr hrest, List.takeWhile_eq_self_iff.mpr hv]
    cases Text.isWord c <;> rfl
  cases hc : Text.isWord c with
  | true =>
    refine maskKey_of_bare (by simp) (quote_not_mem_of_bare hv) ?_
    rw [List.append_assoc, secretAt?_key hkey]
    rw [if_pos hc] at hbehind
    exact (congrArg _ hbehind).trans (by simp)
  | false =>
    rw [if_neg (by simp [hc])] at hbehind
    have hsign : maskKey (key.toList ++ '=' :: c :: v) key = key.toList ++ asterisks ('=' :: c :: v) := by
      refine maskKey_of_bare hne (quote_not_mem_of_bare (List.forall_mem_cons.mpr ⟨by decide, hv⟩)) ?_
      rw [secretAt?_key hkey]
      exact congrArg _ hbehind
    have hequals : asterisks ('=' :: c :: v) = ['*'] ++ asterisks (c :: v) := asterisks_cons '=' (c :: v)
    rw [hequals] at hsign
    rw [List.append_assoc, List.append_assoc]
    exact hsign

theorem maskKey_quoted (hv : '"' ∉ v) (hne : v ≠ []) :
    maskKey ('"' :: key.toList ++ ['"', ':', ' '] ++ '"' :: (v ++ ['"'])) key =
      '"' :: key.toList ++ ['"', ':', ' '] ++ '"' :: (asterisks v ++ ['"']) := by
  refine maskKey_of_quoted (by simp) hv ?_
  rw [List.append_assoc, List.cons_append, secretAt?_quotedKey, secretBehind?_quoted hv hne]
  simp

end

/-! ## What the other keys do to it

Quotes are never overwritten, and so what stands between two of them keeps its
length. -/

/-- No other key begins anywhere in this text. -/
def Passed (key : String) (lead : List Char) : Prop :=
  ∀ other ∈ secretKeys, other ≠ key → skips other.toList none lead

/-- What stands before a secret, also with its sign masked, is passed by all other keys. -/
theorem passed_leads : ∀ key ∈ secretKeys, ∀ other ∈ secretKeys, other ≠ key →
    skips other.toList none (key.toList ++ [':', ' ']) ∧ skips other.toList none (key.toList ++ ['*', ' ']) ∧
    skips other.toList none (key.toList ++ ['=']) ∧ skips other.toList none (key.toList ++ ['*']) ∧
    skips other.toList none ('"' :: key.toList ++ ['"', ':', ' ']) := by
  decide +kernel

section
variable {key : String} {lead lead' : List Char}

/-- The keys before this one leave its line alone up to the secret, and so do those after it. -/
theorem mask_of_key (hkey : key ∈ secretKeys) (hlead : Passed key lead) (hlead' : Passed key lead')
    (text : List Char) :
    ∃ given, Masked text given ∧ ∀ done, maskKey (lead ++ given) key = lead' ++ done →
      ∃ text', mask (lead ++ text) = lead' ++ text' ∧ Masked done text' := by
  obtain ⟨earlier, later, hkeys⟩ := List.append_of_mem hkey
  have hnodup : secretKeys.Nodup := by decide
  rw [hkeys, List.nodup_append, List.nodup_cons] at hnodup
  obtain ⟨-, ⟨hlater, -⟩, hearlier⟩ := hnodup
  have hsub : earlier ++ key :: later ⊆ secretKeys := hkeys ▸ List.Subset.refl _
  obtain ⟨hsubEarlier, hsubLater⟩ := List.append_subset.mp hsub
  have hsubLater := (List.cons_subset.mp hsubLater).2
  have hpast : ∀ other ∈ earlier, skips other.toList none lead := fun other hmem =>
    hlead other (hsubEarlier hmem) (hearlier other hmem key List.mem_cons_self)
  have hfuture : ∀ other ∈ later, skips other.toList none lead' := fun other hmem =>
    hlead' other (hsubLater hmem) fun heq => hlater (heq ▸ hmem)
  obtain ⟨given, hgiven, hmasked⟩ := foldl_maskKey_of_skips hsubEarlier hpast text
  refine ⟨given, hmasked, fun done hdone => ?_⟩
  obtain ⟨text', htext', hmasked'⟩ := foldl_maskKey_of_skips hsubLater hfuture done
  refine ⟨text', ?_, hmasked'⟩
  rw [mask, hkeys, List.foldl_append, List.foldl_cons, hgiven, hdone, htext']

theorem done_of_asterisks {v t : List Char} (h : Masked (asterisks v) t) : t = asterisks v :=
  h.overwritten.eq_of_done fun _ hd => .inl (List.eq_of_mem_replicate hd)

theorem bare_of_masked {c : Char} {v given : List Char} (h : Masked (c :: v) given)
    (hv : ∀ d ∈ c :: v, isBare d) : ∃ w, given = c :: w ∧ ∀ d ∈ c :: w, isBare d := by
  obtain ⟨w, rfl⟩ : ∃ w, given = c :: w := List.head?_eq_some_iff.mp h.head
  refine ⟨w, rfl, fun d hd => ?_⟩
  rcases h.overwritten.mem hd with hd | rfl
  · exact hv d hd
  · decide

variable {c : Char} {v : List Char}

theorem mask_colon (hkey : key ∈ secretKeys) (hv : ∀ d ∈ c :: v, isBare d) (hc : Text.isWord c) :
    mask (key.toList ++ [':', ' '] ++ c :: v) = key.toList ++ [':', ' '] ++ asterisks (c :: v) := by
  have hpassed : Passed key (key.toList ++ [':', ' ']) := fun other hother hne =>
    (passed_leads key hkey other hother hne).1
  obtain ⟨given, hmasked, hmask⟩ := mask_of_key hkey hpassed hpassed (c :: v)
  obtain ⟨w, rfl, hw⟩ := bare_of_masked hmasked hv
  obtain ⟨text, htext, hdone⟩ := hmask _ (maskKey_colon hkey hw hc)
  rw [hmasked.overwritten.asterisks_eq] at hdone
  rw [htext, done_of_asterisks hdone]

theorem mask_colon_of_gap (hkey : key ∈ secretKeys) (hv : ∀ d ∈ c :: v, isBare d)
    (hc : Text.isWord c = false) :
    ∃ text, mask (key.toList ++ [':', ' '] ++ c :: v) = key.toList ++ ['*', ' '] ++ text ∧
      Masked (c :: v) text := by
  have hleads := passed_leads key hkey
  obtain ⟨given, hmasked, hmask⟩ := mask_of_key hkey (fun other hother hne => (hleads other hother hne).1)
    (fun other hother hne => (hleads other hother hne).2.1) (c :: v)
  obtain ⟨w, rfl, hw⟩ := bare_of_masked hmasked hv
  obtain ⟨done, hdone, hmasked'⟩ := maskKey_colon_of_gap (v := w) hkey (hw c List.mem_cons_self) hc
  obtain ⟨text, htext, hmasked''⟩ := hmask done hdone
  exact ⟨text, htext, (hmasked.trans hmasked').trans hmasked''⟩

theorem mask_equals (hkey : key ∈ secretKeys) (hv : ∀ d ∈ c :: v, isBare d) :
    mask (key.toList ++ ['='] ++ c :: v) =
      key.toList ++ [if Text.isWord c then '=' else '*'] ++ asterisks (c :: v) := by
  have hleads := passed_leads key hkey
  have hsign : Passed key (key.toList ++ [if Text.isWord c then '=' else '*']) := by
    intro other hother hne
    cases Text.isWord c
    · exact (hleads other hother hne).2.2.2.1
    · exact (hleads other hother hne).2.2.1
  obtain ⟨given, hmasked, hmask⟩ := mask_of_key hkey (fun other hother hne => (hleads other hother hne).2.2.1)
    hsign (c :: v)
  obtain ⟨w, rfl, hw⟩ := bare_of_masked hmasked hv
  obtain ⟨text, htext, hdone⟩ := hmask _ (maskKey_equals hkey hw)
  rw [hmasked.overwritten.asterisks_eq] at hdone
  rw [htext, done_of_asterisks hdone]

theorem quoted_of_masked {given : List Char} (h : Masked ('"' :: (v ++ ['"'])) given) :
    ∃ w, given = '"' :: (w ++ ['"']) ∧ Overwritten v w := by
  cases h.overwritten with
  | masked hquote _ => exact absurd rfl hquote
  | kept _ hrest =>
    obtain ⟨w, last, rfl, hw, hlast⟩ := hrest.append_inv
    cases hlast with
    | masked hquote _ => exact absurd rfl hquote
    | kept _ hlast =>
      cases hlast
      exact ⟨w, rfl, hw⟩

theorem mask_quoted (hkey : key ∈ secretKeys) (hv : '"' ∉ v) (hne : v ≠ []) :
    mask ('"' :: key.toList ++ ['"', ':', ' '] ++ '"' :: (v ++ ['"'])) =
      '"' :: key.toList ++ ['"', ':', ' '] ++ '"' :: (asterisks v ++ ['"']) := by
  have hpassed : Passed key ('"' :: key.toList ++ ['"', ':', ' ']) := fun other hother hne =>
    (passed_leads key hkey other hother hne).2.2.2.2
  obtain ⟨given, hmasked, hmask⟩ := mask_of_key hkey hpassed hpassed ('"' :: (v ++ ['"']))
  obtain ⟨w, rfl, hw⟩ := quoted_of_masked hmasked
  obtain ⟨text, htext, hdone⟩ := hmask _ (maskKey_quoted (hw.quote_not_mem hv) (hw.ne_nil hne))
  rw [hw.asterisks_eq] at hdone
  obtain rfl : text = '"' :: (asterisks v ++ ['"']) := hdone.overwritten.eq_of_done <| by
    intro d hd
    simp only [List.mem_cons, List.mem_append, List.not_mem_nil, or_false] at hd
    rcases hd with rfl | hd | rfl
    · exact .inr rfl
    · exact .inl (List.eq_of_mem_replicate hd)
    · exact .inr rfl
  exact htext

end

/-! ## What is stored of a line

A line is stored as its mask, so a secret is hidden if this has asterisks where
the secret stood (`hides_iff`). Its place is counted in bytes, since an asterisk
stands for each byte of a character. -/

/-- A text that is written as one line and shows something. -/
structure IsLine (text : List Char) : Prop where
  feed : '\n' ∉ text
  carriage : text.getLast? ≠ some '\r'
  shown : Text.allBlank text = false

def lineEndings : List (List Char) := [[], ['\n'], ['\r', '\n']]

theorem shownLines_line {line ending : List Char} (h : IsLine line) (hending : ending ∈ lineEndings) :
    shownLines (encode (line ++ ending)) = [String.ofList (mask line)] := by
  have hopen : ∀ c ∈ line, (c == '\n') = false := by
    intro c hc
    rw [beq_eq_false_iff_ne]
    exact fun heq => h.feed (heq ▸ hc)
  have hempty : Text.allBlank [] = true := rfl
  have hnone : cutLines [] = [[]] := cutLines_of_open (by simp)
  rw [shownLines, Text.Utf8.decodeLossy_encode]
  simp only [lineEndings, List.mem_cons, List.not_mem_nil, or_false] at hending
  rcases hending with rfl | rfl | rfl
  · simp [cutLines_of_open hopen, h.shown]
  · have hfeed : withoutReturn line = line := if_neg h.carriage
    simp [cutLines_append_cons hopen, hfeed, hnone, h.shown, hempty]
  · have hopen' : ∀ c ∈ line ++ ['\r'], (c == '\n') = false := by
      rw [List.forall_mem_append]
      exact ⟨hopen, List.forall_mem_singleton.mpr rfl⟩
    have hreturn : withoutReturn (line ++ ['\r']) = line := by simp [withoutReturn]
    rw [List.append_cons line '\r' ['\n'], cutLines_append_cons hopen']
    simp [hreturn, hnone, h.shown, hempty]

theorem lines_write {line ending : List Char} (h : IsLine line) (hending : ending ∈ lineEndings) (b : Buffer) :
    (b.write (encode (line ++ ending))).lines = (String.ofList (mask line) :: b.lines).take bufferLimit := by
  rw [Buffer.write, linesOf_eq, shownLines_line h hending]
  rfl

/-- Whenever this is written as a line, with or without a line break behind it, the line that is stored for it
has as many bytes, and in the place of each byte of the secret an asterisk. -/
def Hides (before secret after : List Char) : Prop :=
  ∀ (b : Buffer), ∀ ending ∈ lineEndings, ∃ line : List Char,
    (b.write (encode (before ++ secret ++ after ++ ending))).lines =
      (String.ofList line :: b.lines).take bufferLimit ∧
    size line = size (before ++ secret ++ after) ∧
    ((encode line).drop (size before)).take (size secret) = List.replicate (size secret) 42

theorem encode_append (s t : List Char) : encode (s ++ t) = encode s ++ encode t := by simp [encode]

theorem encode_asterisks (s : List Char) : encode (asterisks s) = List.replicate (size s) 42 := by
  rw [asterisks]
  induction size s with
  | zero => rfl
  | succ n ih =>
    rw [List.replicate_succ, List.replicate_succ, ← ih]
    rfl

/-- A secret is hidden if the mask of the line has asterisks where it stood. -/
theorem hides_iff {before secret after before' done after' : List Char}
    (hline : IsLine (before ++ secret ++ after))
    (hmask : mask (before ++ secret ++ after) = before' ++ (done ++ after'))
    (hbefore : size before' = size before) (hdone : size done = size secret) :
    Hides before secret after ↔ done = asterisks secret := by
  have hbytes : ((encode (mask (before ++ secret ++ after))).drop (size before)).take (size secret) =
      encode done := by
    rw [hmask, encode_append, encode_append, List.drop_left' hbefore, List.take_left' hdone]
  constructor
  · intro h
    obtain ⟨line, hstored, -, hhidden⟩ := h {} [] List.mem_cons_self
    rw [lines_write hline List.mem_cons_self] at hstored
    obtain rfl := String.ofList_injective (List.cons.inj hstored).1
    rw [hbytes, ← encode_asterisks] at hhidden
    exact Text.Utf8.encode_injective hhidden
  · intro h b ending hending
    refine ⟨_, lines_write hline hending b, (masked_mask _).overwritten.size_eq, ?_⟩
    rw [hbytes, h, encode_asterisks]

/-- The same for a secret at the end of its line. -/
theorem hides_iff_of_last {before secret before' done : List Char} (hline : IsLine (before ++ secret))
    (hmask : mask (before ++ secret) = before' ++ done) (hbefore : size before' = size before)
    (hdone : size done = size secret) : Hides before secret [] ↔ done = asterisks secret := by
  rw [← List.append_nil (before ++ secret)] at hline hmask
  rw [← List.append_nil done] at hmask
  exact hides_iff hline hmask hbefore hdone

/-! ## Whose secrets are hidden

The three forms are lines: a bare secret holds no line feed, being without
blanks. -/

section
variable {key : String} {c : Char} {v : List Char}

theorem allBlank_append (s t : List Char) : Text.allBlank (s ++ t) = (Text.allBlank s && Text.allBlank t) :=
  List.all_append

theorem isLine_append {text back : List Char} (htext : '\n' ∉ text) (hshown : Text.allBlank text = false)
    (hback : '\n' ∉ back) (hlast : back.getLast? ≠ some '\r') (hne : back ≠ []) : IsLine (text ++ back) where
  feed := by simp [htext, hback]
  carriage := by
    rw [List.getLast?_append_of_ne_nil _ hne]
    exact hlast
  shown := by
    rw [allBlank_append, hshown]
    rfl

theorem isLine_of_bare (hkey : key ∈ secretKeys) {gap : List Char} (hgap : '\n' ∉ gap)
    (hv : ∀ d ∈ c :: v, isBare d) : IsLine (key.toList ++ gap ++ c :: v) := by
  obtain ⟨-, -, -, hfeed, hshown⟩ := secretKeys_words key hkey
  refine isLine_append (by simp [hfeed, hgap]) ?_ (fun h => absurd (hv _ h) (by decide)) ?_ (by simp)
  · rw [allBlank_append, hshown]
    rfl
  · intro hlast
    exact absurd (hv _ (List.mem_of_getLast? hlast)) (by decide)

theorem hides_equals (hkey : key ∈ secretKeys) (hv : ∀ d ∈ c :: v, isBare d) :
    Hides (key.toList ++ ['=']) (c :: v) [] := by
  refine (hides_iff_of_last (isLine_of_bare hkey (by decide) hv) (mask_equals hkey hv) ?_
    (size_replicate_asterisk _)).mpr rfl
  rw [size_append, size_append]
  cases Text.isWord c <;> rfl

theorem hides_colon_iff (hkey : key ∈ secretKeys) (hv : ∀ d ∈ c :: v, isBare d) :
    Hides (key.toList ++ [':', ' ']) (c :: v) [] ↔ Text.isWord c ∨ ∀ d ∈ c :: v, d = '*' := by
  have hline : IsLine (key.toList ++ [':', ' '] ++ c :: v) := isLine_of_bare hkey (by decide) hv
  cases hc : Text.isWord c with
  | true =>
    have hhides := hides_iff_of_last hline (mask_colon hkey hv hc) rfl (size_replicate_asterisk _)
    simpa using hhides
  | false =>
    obtain ⟨text, htext, hmasked⟩ := mask_colon_of_gap hkey hv hc
    rw [hides_iff_of_last hline htext (by rw [size_append, size_append]; rfl) hmasked.overwritten.size_eq,
      or_iff_right Bool.false_ne_true]
    constructor
    · rintro rfl
      exact hmasked.blank fun _ hd => List.eq_of_mem_replicate hd
    · intro hall
      rw [hmasked.overwritten.eq_of_done fun d hd => .inl (hall d hd), asterisks_eq_self hall]

theorem hides_quoted (hkey : key ∈ secretKeys) (hquote : '"' ∉ v) (hbreak : '\n' ∉ v) (hv : v ≠ []) :
    Hides ('"' :: key.toList ++ ['"', ':', ' ', '"']) v ['"'] := by
  obtain ⟨-, -, -, hfeed, -⟩ := secretKeys_words key hkey
  have hquotes (w : List Char) : '"' :: key.toList ++ ['"', ':', ' ', '"'] ++ w ++ ['"'] =
      '"' :: key.toList ++ ['"', ':', ' '] ++ '"' :: (w ++ ['"']) := by simp
  have hline : IsLine ('"' :: key.toList ++ ['"', ':', ' ', '"'] ++ v ++ ['"']) := by
    refine isLine_append (by simp [hfeed, hbreak]) ?_ (by decide) (by decide) (by simp)
    rw [List.cons_append, List.cons_append, Text.allBlank, List.all_cons]
    rfl
  have hmask : mask ('"' :: key.toList ++ ['"', ':', ' ', '"'] ++ v ++ ['"']) =
      '"' :: key.toList ++ ['"', ':', ' ', '"'] ++ (asterisks v ++ ['"']) := by
    rw [hquotes, mask_quoted hkey hquote hv, ← hquotes, List.append_assoc]
  exact (hides_iff hline hmask rfl (size_replicate_asterisk _)).mpr rfl

end

/-- A value behind a key stays out of the log. Without blanks, quotes, commas and closing braces it does behind
a sign of equality, and behind a colon and a blank just if it begins with a word character (or is nothing but
asterisks); between quotes, whatever it is made of other than quotes and line feeds. -/
theorem secret_hidden {key : String} (hkey : key ∈ secretKeys) {v : List Char} (hv : v ≠ []) :
    ((∀ c ∈ v, Text.isBlank c = false ∧ c ≠ '"' ∧ c ≠ ',' ∧ c ≠ '\x7d') →
      Hides (key.toList ++ ['=']) v [] ∧
      (Hides (key.toList ++ [':', ' ']) v [] ↔ v.head?.any Text.isWord ∨ ∀ c ∈ v, c = '*')) ∧
    ('"' ∉ v → '\n' ∉ v → Hides ('"' :: key.toList ++ ['"', ':', ' ', '"']) v ['"']) := by
  refine ⟨fun hvisible => ?_, fun hquote hbreak => hides_quoted hkey hquote hbreak hv⟩
  have hbare : ∀ c ∈ v, isBare c := fun c hc => by simp [isBare, hvisible c hc]
  obtain ⟨c, v, rfl⟩ := List.exists_cons_of_ne_nil hv
  exact ⟨hides_equals hkey hbare, hides_colon_iff hkey hbare⟩

/-- A secret that has a key and a letter of two bytes in it. -/
theorem secret_hidden_with_keyword :
    Hides ("token".toList ++ ['=']) "password=né".toList [] ∧
    Hides ("token".toList ++ [':', ' ']) "password=né".toList [] ∧
    Hides ('"' :: "token".toList ++ ['"', ':', ' ', '"']) "password=né".toList ['"'] := by
  obtain ⟨hbare, hquoted⟩ := @secret_hidden "token" (by decide) "password=né".toList (by decide)
  obtain ⟨hequals, hcolon⟩ := hbare (List.all_iff_forall_prop.mp (by decide +kernel))
  exact ⟨hequals, hcolon.mpr (.inl (by decide)), hquoted (by decide) (by decide)⟩

/-- Behind a colon and a blank a secret that begins with a hyphen goes to the log. -/
theorem secret_shown_behind_colon :
    "password" ∈ secretKeys ∧
    (∀ c ∈ "-abc".toList, Text.isBlank c = false ∧ c ≠ '"' ∧ c ≠ ',' ∧ c ≠ '\x7d') ∧
    ¬ Hides ("password".toList ++ [':', ' ']) "-abc".toList [] := by
  have hkey : "password" ∈ secretKeys := by decide
  refine ⟨hkey, List.all_iff_forall_prop.mp (by decide), fun h => ?_⟩
  rcases (hides_colon_iff hkey (List.all_eq_true.mp (by decide))).mp h with hword | hasterisks
  · exact absurd hword (by decide)
  · exact absurd (hasterisks '-' List.mem_cons_self) (by decide)

end ScanConsole.Log
