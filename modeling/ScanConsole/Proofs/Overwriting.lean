import Mathlib.Data.List.TakeWhile
import ScanConsole.Log.Mask
import ScanConsole.Proofs.Utf8

/-!
# Masking overwrites

A masked text comes from the text by overwriting characters with as many
asterisks as they have bytes (`Overwritten`), never a quote and never the first
character:

    Masked text (mask text)                         (`masked_mask`)

The text may be any text. How many bytes there are, where the quotes stand and
what stands between two of them has its length are all read off `Overwritten`.

## One secret

Wherever a secret is found, the text splits into what stands before it, the
secret between its quotes, and the rest (`Secret.Splits`). The search for a
secret is by cases: a key that may have a quote before it, a sign, blanks, and a
bare or a quoted text. Each of them gives a splitting, and nothing but the
splitting is used afterwards: masking changes the middle only
(`maskKeyAfter_of_splits`) and goes on in the rest, where the induction takes
over.

## One key

A key is looked for at every place, but where it cannot begin the text passes as
it is. `skips` decides this for a part of the text alone, whatever follows it
(`maskKeyAfter_of_skips`). It is enough to compare the two as far as both go
(`clash`): a key that might begin in the part and end behind it is not skipped.

## All keys

The keys are tried in turn, so `Masked` is kept along the list by transitivity.
That a key is not all asterisks is what keeps a line from being masked to
nothing but asterisks when it was not that before.
-/

namespace ScanConsole.Log

open Text (Utf8.size Utf8.encode)

/-! ## Overwritten texts

Counted in bytes, the two texts have the same length, and each part of one is
overwritten by the part of the other in its place. -/

/-- Some characters of the first text have been overwritten in the second, each with as many asterisks as it
has bytes. Quotes are left. -/
inductive Overwritten : List Char → List Char → Prop
  | nil : Overwritten [] []
  | kept (c : Char) {s t : List Char} : Overwritten s t → Overwritten (c :: s) (c :: t)
  | masked {c : Char} {s t : List Char} : c ≠ '"' → Overwritten s t →
      Overwritten (c :: s) (List.replicate c.utf8Size '*' ++ t)

/-- As many asterisks as the text has bytes. -/
def asterisks (s : List Char) : List Char := List.replicate (Text.Utf8.size s) '*'

theorem size_cons (c : Char) (s : List Char) :
    Text.Utf8.size (c :: s) = c.utf8Size + Text.Utf8.size s := Text.Utf8.length_encode_cons c s

theorem asterisks_cons (c : Char) (s : List Char) :
    asterisks (c :: s) = List.replicate c.utf8Size '*' ++ asterisks s := by
  rw [asterisks, size_cons, ← List.replicate_append_replicate]
  rfl

theorem size_append (s t : List Char) :
    Text.Utf8.size (s ++ t) = Text.Utf8.size s + Text.Utf8.size t := by
  simp [Text.Utf8.size, Text.Utf8.encode]

theorem size_replicate_asterisk (n : Nat) : Text.Utf8.size (List.replicate n '*') = n := by
  induction n with
  | zero => rfl
  | succ n ih =>
    rw [List.replicate_succ, size_cons, ih, Nat.add_comm]
    rfl

theorem asterisks_eq_self {s : List Char} (h : ∀ c ∈ s, c = '*') : asterisks s = s := by
  rw [List.eq_replicate_of_mem h, asterisks, size_replicate_asterisk]

namespace Overwritten

section
variable {s t : List Char}

theorem refl (s : List Char) : Overwritten s s := by
  induction s with
  | nil => exact .nil
  | cons c s ih => exact .kept c ih

theorem asterisks (h : '"' ∉ s) : Overwritten s (asterisks s) := by
  induction s with
  | nil => exact .nil
  | cons c s ih =>
    rw [asterisks_cons]
    exact .masked (List.ne_of_not_mem_cons h).symm (ih (List.not_mem_of_not_mem_cons h))

theorem append {s' t' : List Char} (h : Overwritten s t) (h' : Overwritten s' t') :
    Overwritten (s ++ s') (t ++ t') := by
  induction h with
  | nil => exact h'
  | kept c h ih => exact .kept c ih
  | masked hc h ih =>
    rw [List.append_assoc]
    exact .masked hc ih

theorem size_eq (h : Overwritten s t) : Text.Utf8.size t = Text.Utf8.size s := by
  induction h with
  | nil => rfl
  | kept c h ih => rw [size_cons, size_cons, ih]
  | masked hc h ih => rw [size_append, size_replicate_asterisk, ih, size_cons]

theorem mem (h : Overwritten s t) {c : Char} (hc : c ∈ t) : c ∈ s ∨ c = '*' := by
  induction h with
  | nil => cases hc
  | kept d h ih =>
    rcases List.mem_cons.mp hc with rfl | hc
    · exact .inl List.mem_cons_self
    · exact (ih hc).imp_left (List.mem_cons_of_mem _)
  | masked hd h ih =>
    rcases List.mem_append.mp hc with hc | hc
    · exact .inr (List.eq_of_mem_replicate hc)
    · exact (ih hc).imp_left (List.mem_cons_of_mem _)

theorem quote_not_mem (h : Overwritten s t) (hs : '"' ∉ s) : '"' ∉ t := fun ht =>
  (h.mem ht).elim hs (by decide)

theorem ne_nil (h : Overwritten s t) (hs : s ≠ []) : t ≠ [] := by
  cases h with
  | nil => exact hs
  | kept c h => exact List.cons_ne_nil _ _
  | @masked c s t hc h => simp [Nat.ne_of_gt c.utf8Size_pos]

theorem eq_of_done (h : Overwritten s t) (hs : ∀ c ∈ s, c = '*' ∨ c = '"') : t = s := by
  induction h with
  | nil => rfl
  | kept c h ih => rw [ih fun d hd => hs d (List.mem_cons_of_mem _ hd)]
  | @masked c s t hc h ih =>
    obtain rfl : c = '*' := (hs c List.mem_cons_self).resolve_right hc
    rw [ih fun d hd => hs d (List.mem_cons_of_mem _ hd)]
    rfl

theorem asterisks_eq (h : Overwritten s t) : Log.asterisks t = Log.asterisks s := by
  rw [Log.asterisks, h.size_eq, Log.asterisks]

theorem append_inv {s₁ s₂ : List Char} (h : Overwritten (s₁ ++ s₂) t) :
    ∃ t₁ t₂, t = t₁ ++ t₂ ∧ Overwritten s₁ t₁ ∧ Overwritten s₂ t₂ := by
  induction s₁ generalizing t with
  | nil => exact ⟨[], t, rfl, .nil, h⟩
  | cons c s₁ ih =>
    cases h with
    | kept _ h =>
      obtain ⟨t₁, t₂, rfl, h₁, h₂⟩ := ih h
      exact ⟨c :: t₁, t₂, rfl, .kept c h₁, h₂⟩
    | masked hc h =>
      obtain ⟨t₁, t₂, rfl, h₁, h₂⟩ := ih h
      exact ⟨List.replicate c.utf8Size '*' ++ t₁, t₂, (List.append_assoc ..).symm, .masked hc h₁, h₂⟩

theorem trans {u : List Char} (h : Overwritten s t) (h' : Overwritten t u) : Overwritten s u := by
  induction h generalizing u with
  | nil => exact h'
  | kept c h ih =>
    cases h' with
    | kept _ h' => exact .kept c (ih h')
    | masked hc h' => exact .masked hc (ih h')
  | masked hc h ih =>
    obtain ⟨u₁, u₂, rfl, h₁, h₂⟩ := append_inv h'
    obtain rfl := h₁.eq_of_done fun d hd => .inl (List.eq_of_mem_replicate hd)
    exact .masked hc (ih h₂)

end

end Overwritten

/-! ## Where a secret stands

The splitting that is found at a place is carried back to the beginning of the
text, over the blanks, the sign and the key. -/

/-- The text begins with what stands before a secret, and has the secret between its quotes behind that. -/
structure Secret.Splits (s : Secret) (text lead secret rest : List Char) : Prop where
  text : text = lead ++ (s.quotes ++ (secret ++ (s.quotes ++ rest)))
  key : lead.length = s.key
  length : secret.length = s.length
  noQuote : '"' ∉ secret

theorem Place.ahead_advance (p : Place) (n : Nat) : (p.advance n).ahead = p.ahead.drop n := by
  unfold advance
  split
  · rfl
  · next hnone =>
    rcases List.take_eq_nil_iff.mp (List.getLast?_eq_none_iff.mp hnone) with rfl | hnil
    · rfl
    · rw [hnil, List.drop_nil]

theorem Place.advance_append (b : Option Char) (xs ys : List Char) :
    Place.advance ⟨b, xs ++ ys⟩ xs.length = ⟨xs.getLast?.or b, ys⟩ := by
  unfold advance
  simp only [List.take_left, List.drop_left]
  cases hlast : xs.getLast? with
  | some c => rfl
  | none =>
    obtain rfl := List.getLast?_eq_none_iff.mp hlast
    rfl

theorem Place.blanks_le (p : Place) : p.blanks ≤ p.ahead.length :=
  (List.takeWhile_sublist _).length_le

theorem le_of_mem_optionalAt {p : Place} {t : Char → Bool} {n : Nat} (h : n ∈ optionalAt p t) :
    n ≤ p.ahead.length := by
  unfold optionalAt Place.follows at h
  cases hahead : p.ahead with
  | nil => simp_all
  | cons c rest =>
    split at h
    · rcases List.mem_cons.mp h with rfl | h
      · exact Nat.le_add_left 1 _
      · rw [List.mem_singleton.mp h]
        exact Nat.zero_le _
    · rw [List.mem_singleton.mp h]
      exact Nat.zero_le _

namespace Secret

theorem Splits.before {p : Place} {n key length : Nat} {quoted : Bool} {lead secret rest : List Char}
    (h : Splits ⟨key, quoted, length⟩ (p.advance n).ahead lead secret rest) (hn : n ≤ p.ahead.length) :
    Splits ⟨n + key, quoted, length⟩ p.ahead (p.ahead.take n ++ lead) secret rest where
  text := by
    rw [Place.ahead_advance] at h
    rw [List.append_assoc]
    exact ((congrArg (p.ahead.take n ++ ·) h.text.symm).trans (List.take_append_drop n p.ahead)).symm
  key := by rw [List.length_append, List.length_take_of_le hn, h.key]
  length := h.length
  noQuote := h.noQuote

theorem splits_here {p : Place} {quoted : Bool} {n : Nat} (h : secretHere? p = some (quoted, n)) :
    ∃ secret rest, Splits ⟨0, quoted, n⟩ p.ahead [] secret rest := by
  obtain ⟨before, ahead⟩ := p
  unfold secretHere? at h
  split at h
  · next rest hahead =>
    obtain rfl : ahead = '"' :: rest := hahead
    dsimp only at h
    split at h
    · next hn =>
      cases h
      rw [Bool.and_eq_true, decide_eq_true_iff] at hn
      have hsplit := List.takeWhile_append_dropWhile (p := (· != '"')) (l := rest)
      have hquote := List.head?_dropWhile_not (· != '"') rest
      cases hdrop : rest.dropWhile (· != '"') with
      | nil =>
        rw [hdrop, List.append_nil] at hsplit
        rw [hsplit] at hn
        exact absurd hn.2 (Nat.lt_irrefl _)
      | cons c tail =>
        rw [hdrop] at hsplit hquote
        obtain rfl : c = '"' := by simpa using hquote
        refine ⟨rest.takeWhile (· != '"'), tail, congrArg ('"' :: ·) hsplit.symm, rfl, rfl, ?_⟩
        intro hmem
        exact absurd (List.mem_takeWhile_imp hmem) (by decide)
    · cases h
  · next c rest hc hahead =>
    obtain rfl : ahead = c :: rest := hahead
    split at h
    · next hbare =>
      cases h
      rw [Bool.and_eq_true] at hbare
      refine ⟨c :: rest.takeWhile isBare, rest.dropWhile isBare, ?_, rfl, ?_, ?_⟩
      · exact congrArg (c :: ·) List.takeWhile_append_dropWhile.symm
      · rw [List.length_cons, Nat.add_comm]
      · intro hmem
        rcases List.mem_cons.mp hmem with rfl | hmem
        · exact absurd hbare.2 (by decide)
        · exact absurd (List.mem_takeWhile_imp hmem) (by decide)
    · cases h
  · cases h

theorem splits_behind {p : Place} {gap n : Nat} {quoted : Bool} (h : secretBehind? p = some (gap, quoted, n)) :
    ∃ lead secret rest, Splits ⟨gap, quoted, n⟩ p.ahead lead secret rest := by
  obtain ⟨quote, hquote, h⟩ := List.exists_of_findSome?_eq_some h
  obtain ⟨sign, hsign, h⟩ := List.exists_of_findSome?_eq_some h
  obtain ⟨⟨quoted, n⟩, hhere, heq⟩ := Option.map_eq_some_iff.mp h
  cases heq
  obtain ⟨secret, rest, hsplits⟩ := splits_here hhere
  have h3 := hsplits.before (Place.blanks_le _)
  have h2 := h3.before (le_of_mem_optionalAt hsign)
  have h1 := h2.before (Place.blanks_le _)
  have h0 := h1.before (le_of_mem_optionalAt hquote)
  exact ⟨_, secret, rest, by simpa only [Nat.add_zero, Nat.add_assoc] using h0⟩

theorem splits_ofKey {key : List Char} {p : Place} {s : Secret} (h : secretOfKey? key p = some s) :
    ∃ lead secret rest, s.Splits p.ahead (key ++ lead) secret rest := by
  obtain ⟨before, ahead⟩ := p
  unfold secretOfKey? at h
  split at h
  · cases h
  · split at h
    · next hafter =>
      obtain ⟨rest, hrest⟩ := Option.isSome_iff_exists.mp hafter
      obtain rfl : ahead = key ++ rest := Text.eq_append_of_after? hrest
      obtain ⟨⟨gap, quoted, n⟩, hbehind, rfl⟩ := Option.map_eq_some_iff.mp h
      obtain ⟨lead, secret, rest', hsplits⟩ := splits_behind hbehind
      have hkey := hsplits.before (p := ⟨before, key ++ rest⟩) (by simp)
      rw [List.take_left] at hkey
      exact ⟨lead, secret, rest', hkey⟩
    · cases h

/-- A key with the secret behind it, and what stands before the key. -/
theorem splits_at {key : List Char} {p : Place} {s : Secret} (h : secretAt? key p = some s) :
    ∃ quote lead secret rest, s.Splits p.ahead (quote ++ (key ++ lead)) secret rest := by
  obtain ⟨before, ahead⟩ := p
  unfold secretAt? at h
  split at h
  · next rest hahead =>
    obtain rfl : ahead = '"' :: rest := hahead
    obtain ⟨⟨n, quoted, length⟩, hkey, rfl⟩ := Option.map_eq_some_iff.mp h
    obtain ⟨lead, secret, rest', hsplits⟩ := splits_ofKey hkey
    have hquote := hsplits.before (p := ⟨before, '"' :: rest⟩) (by simp)
    rw [Nat.add_comm] at hquote
    exact ⟨['"'], lead, secret, rest', hquote⟩
  · obtain ⟨lead, secret, rest, hsplits⟩ := splits_ofKey h
    exact ⟨[], lead, secret, rest, hsplits⟩

section
variable {s : Secret} {text lead secret rest : List Char}

theorem Splits.masked (h : s.Splits text lead secret rest) :
    s.masked text = lead ++ (s.quotes ++ (asterisks secret ++ s.quotes)) := by
  have hlead : text.take s.key = lead := by rw [h.text, List.take_left' h.key]
  have hbehind : text.drop (s.key + s.quotes.length) = secret ++ (s.quotes ++ rest) := by
    rw [h.text, ← List.drop_drop, List.drop_left' h.key, List.drop_left]
  rw [Secret.masked, hlead, hbehind, List.take_left' h.length, asterisks]
  simp only [List.append_assoc]

theorem Splits.parts (h : s.Splits text lead secret rest) :
    text.take s.extent = lead ++ (s.quotes ++ (secret ++ s.quotes)) ∧ text.drop s.extent = rest := by
  have htext : text = (lead ++ (s.quotes ++ (secret ++ s.quotes))) ++ rest := by
    simp only [h.text, List.append_assoc]
  have hlength : (lead ++ (s.quotes ++ (secret ++ s.quotes))).length = s.extent := by
    simp only [List.length_append, h.key, h.length, extent]
    omega
  constructor
  · rw [htext, List.take_left' hlength]
  · rw [htext, List.drop_left' hlength]

theorem Splits.drop_pred {c : Char} (h : s.Splits (c :: text) lead secret rest) (hlead : lead ≠ []) :
    text.drop (s.extent - 1) = rest := by
  have hextent : s.extent = s.extent - 1 + 1 := by
    have := List.length_pos_iff.mpr hlead
    rw [extent, ← h.key]
    omega
  rw [← h.parts.2, hextent, List.drop_succ_cons, Nat.add_sub_cancel]

end

end Secret

/-! ## One key

Either no secret begins with the first character, and it is kept, or one does,
and the search goes on behind it. -/

section
variable {key : List Char} {before : Option Char} {s : Secret} {text lead secret rest : List Char}

theorem maskKeyAfter_of_none {c : Char} (h : secretAt? key ⟨before, c :: rest⟩ = none) :
    maskKeyAfter key before (c :: rest) = c :: maskKeyAfter key (some c) rest := by
  rw [maskKeyAfter, h]

/-- Where a secret is found it is masked, and the search goes on behind it. -/
theorem maskKeyAfter_of_splits (hs : secretAt? key ⟨before, text⟩ = some s)
    (h : s.Splits text lead secret rest) (hlead : lead ≠ []) :
    maskKeyAfter key before text = lead ++ (s.quotes ++ (asterisks secret ++ (s.quotes ++
      maskKeyAfter key (lead ++ (s.quotes ++ (secret ++ s.quotes))).getLast? rest))) := by
  cases text with
  | nil => exact absurd (List.append_eq_nil_iff.mp h.text.symm).1 hlead
  | cons c tail =>
    rw [maskKeyAfter, hs]
    simp only [h.masked, h.parts.1, h.drop_pred hlead, List.append_assoc]

theorem secretOfKey?_self (h : Text.isWordAt before = false) (key rest : List Char) :
    secretOfKey? key ⟨before, key ++ rest⟩ =
      (secretBehind? ⟨key.getLast?.or before, rest⟩).map fun s => ⟨key.length + s.1, s.2.1, s.2.2⟩ := by
  unfold secretOfKey?
  rw [h, Text.after?_append, Place.advance_append]
  rfl

/-! ## Where a key cannot begin

Behind a character of a word no key begins. A quote at the end of the part is
not skipped either: it may belong to a key that follows. -/

/-- Neither text begins with the other, and so none begins with both. -/
def clash (s t : List Char) : Bool := !(s.isPrefixOf t || t.isPrefixOf s)

/-- Nowhere in this part of a text the key begins a secret, whatever follows the part. -/
def skips (key : List Char) (before : Option Char) : List Char → Bool
  | [] => true
  | c :: rest =>
    (Text.isWordAt before || clash key (c :: rest)) && (c != '"' || !rest.isEmpty) && skips key (some c) rest

theorem after?_of_clash (h : clash key lead) (rest : List Char) : Text.after? key (lead ++ rest) = none := by
  cases hafter : Text.after? key (lead ++ rest) with
  | none => rfl
  | some r =>
    have hkey : key <+: lead ++ rest := ⟨r, (Text.eq_append_of_after? hafter).symm⟩
    rw [clash, Bool.not_eq_true', Bool.or_eq_false_iff] at h
    rcases List.prefix_or_prefix_of_prefix hkey (List.prefix_append lead rest) with hpre | hpre
    · rw [List.isPrefixOf_iff_prefix.mpr hpre] at h
      cases h.1
    · rw [List.isPrefixOf_iff_prefix.mpr hpre] at h
      cases h.2

theorem secretOfKey?_of_clash (h : Text.isWordAt before || clash key lead) (rest : List Char) :
    secretOfKey? key ⟨before, lead ++ rest⟩ = none := by
  unfold secretOfKey?
  split
  · rfl
  · next hword =>
    rw [after?_of_clash ((Bool.or_eq_true_iff.mp h).resolve_left hword)]
    rfl

theorem secretAt?_of_skips {c : Char} (h : skips key before (c :: lead)) (rest : List Char) :
    secretAt? key ⟨before, c :: (lead ++ rest)⟩ = none := by
  simp only [skips, Bool.and_eq_true] at h
  obtain ⟨⟨hclash, hquote⟩, hlead⟩ := h
  unfold secretAt?
  split
  · next tail hahead =>
    obtain ⟨rfl, rfl⟩ := List.cons.inj hahead
    cases lead with
    | nil => cases hquote
    | cons d lead =>
      simp only [skips, Bool.and_eq_true] at hlead
      rw [show Place.advance ⟨before, '"' :: (d :: lead ++ rest)⟩ 1 = ⟨some '"', d :: lead ++ rest⟩ from rfl,
        secretOfKey?_of_clash hlead.1.1]
      rfl
  · exact secretOfKey?_of_clash hclash rest

/-- Where the key begins no secret the text passes as it is. -/
theorem maskKeyAfter_of_skips (h : skips key before lead) (rest : List Char) :
    maskKeyAfter key before (lead ++ rest) = lead ++ maskKeyAfter key (lead.getLast?.or before) rest := by
  induction lead generalizing before with
  | nil => rfl
  | cons c lead ih =>
    rw [List.cons_append, maskKeyAfter_of_none (secretAt?_of_skips h rest)]
    simp only [skips, Bool.and_eq_true] at h
    rw [ih h.2, List.cons_append, List.getLast?_cons]
    cases lead.getLast? <;> rfl

end

/-! ## What masking keeps

The first character is kept because a secret has a key before it. -/

/-- What may have become of a text whose secrets have been masked. -/
structure Masked (s t : List Char) : Prop where
  overwritten : Overwritten s t
  /-- The first character belongs to no secret. -/
  head : t.head? = s.head?
  /-- A key stays as it is in front of its secret, and so not everything is an asterisk. -/
  blank : (∀ c ∈ t, c = '*') → ∀ c ∈ s, c = '*'

theorem Masked.refl (s : List Char) : Masked s s := ⟨.refl s, rfl, id⟩

theorem Masked.trans {s t u : List Char} (h : Masked s t) (h' : Masked t u) : Masked s u where
  overwritten := h.overwritten.trans h'.overwritten
  head := h'.head.trans h.head
  blank := h.blank ∘ h'.blank

theorem masked_maskKeyAfter {key : List Char} (hkey : key.any (· != '*')) (before : Option Char)
    (text : List Char) : Masked text (maskKeyAfter key before text) := by
  induction before, text using maskKeyAfter.induct key with
  | case1 before =>
    rw [maskKeyAfter]
    exact .refl []
  | case2 before c rest hnone ih =>
    rw [maskKeyAfter_of_none hnone]
    refine ⟨.kept c ih.overwritten, rfl, fun h => ?_⟩
    rw [List.forall_mem_cons] at h ⊢
    exact ⟨h.1, ih.blank h.2⟩
  | case3 before c rest s hs ih =>
    obtain ⟨d, hd, hasterisk⟩ : ∃ d ∈ key, d ≠ '*' := by simpa using hkey
    obtain ⟨quote, gap, secret, rest', h⟩ := Secret.splits_at hs
    have hmem : d ∈ quote ++ (key ++ gap) := by simp [hd]
    generalize quote ++ (key ++ gap) = lead at h hmem
    have hlead : lead ≠ [] := List.ne_nil_of_mem hmem
    have htext : c :: rest = _ := h.text
    rw [h.parts.1, h.drop_pred hlead] at ih
    rw [maskKeyAfter_of_splits hs h hlead, htext]
    refine ⟨?_, ?_, fun hall => absurd (hall d (List.mem_append_left _ hmem)) hasterisk⟩
    · refine (Overwritten.refl lead).append ((Overwritten.refl s.quotes).append ?_)
      exact (Overwritten.asterisks h.noQuote).append ((Overwritten.refl s.quotes).append ih.overwritten)
    · obtain ⟨e, lead, rfl⟩ := List.exists_cons_of_ne_nil hlead
      rfl

theorem secretKeys_shown : ∀ key ∈ secretKeys, key.toList.any (· != '*') := by decide

theorem foldl_maskKey_of_skips {keys : List String} (hkeys : keys ⊆ secretKeys) {lead : List Char}
    (h : ∀ key ∈ keys, skips key.toList none lead) (text : List Char) :
    ∃ text', keys.foldl maskKey (lead ++ text) = lead ++ text' ∧ Masked text text' := by
  induction keys generalizing text with
  | nil => exact ⟨text, rfl, .refl text⟩
  | cons key keys ih =>
    obtain ⟨hkey, hkeys⟩ := List.cons_subset.mp hkeys
    obtain ⟨hskips, h⟩ := List.forall_mem_cons.mp h
    have hstep := masked_maskKeyAfter (secretKeys_shown key hkey) (lead.getLast?.or none) text
    obtain ⟨text', htext', hmasked⟩ := ih hkeys h _
    refine ⟨text', ?_, hstep.trans hmasked⟩
    rw [List.foldl_cons, maskKey, maskKeyAfter_of_skips hskips, htext']

/-- Masking only overwrites. -/
theorem masked_mask (text : List Char) : Masked text (mask text) := by
  have hskips : ∀ key ∈ secretKeys, skips key.toList none [] := fun _ _ => rfl
  obtain ⟨text', htext', hmasked⟩ := foldl_maskKey_of_skips (List.Subset.refl secretKeys) hskips text
  rw [show mask text = text' from htext']
  exact hmasked

end ScanConsole.Log
