import Mathlib.Data.List.Forall2
import Mathlib.Data.List.Infix
import ScanConsole.Proofs.MaskedSecrets

/-!
# Masked lines, byte by byte

A masked text comes from the text by overwriting characters with as many
asterisks as they have bytes (`Overwritten`). In UTF-8 this reads: byte for
byte, the same or an asterisk (`ByteKept`), so no byte is inserted, dropped or
moved, and line feeds and quotes stay where they are. Nothing is overwritten in
a text in which no key of a secret stands, since a secret is only found behind
its key (`mask_eq_self`).

`masking_only_overwrites` is about every line, with or without secrets, and
whatever letters are in it. That the secrets are overwritten is another matter,
on which see the module on masked secrets.
-/

namespace ScanConsole.Log

open Text.Utf8 (size encode)

/-! ## Bytes

By induction on the rule by which the text was overwritten; a character that is
overwritten leaves an asterisk for each of its bytes. -/

/-- The second byte may stand where the first one was: it is the same, or an asterisk. -/
def ByteKept (b b' : UInt8) : Prop := b' = b ∨ b' = 42

theorem byteKept_self (bytes : List UInt8) : List.Forall₂ ByteKept bytes bytes :=
  List.forall₂_same.mpr fun _ _ => .inl rfl

theorem byteKept_asterisks (bytes : List UInt8) :
    List.Forall₂ ByteKept bytes (List.replicate bytes.length 42) := by
  induction bytes with
  | nil => exact .nil
  | cons b bytes ih => exact .cons (.inr rfl) ih

theorem encode_cons (c : Char) (s : List Char) : encode (c :: s) = encode [c] ++ encode s :=
  encode_append [c] s

theorem Overwritten.bytes {s t : List Char} (h : Overwritten s t) :
    List.Forall₂ ByteKept (encode s) (encode t) := by
  induction h with
  | nil => exact .nil
  | @kept c s t _ ih =>
    rw [encode_cons c s, encode_cons c t]
    exact List.rel_append (byteKept_self _) ih
  | @masked c s t _ _ ih =>
    have hsize : size [c] = c.utf8Size := size_cons c []
    have hstars : encode (List.replicate c.utf8Size '*') = List.replicate (encode [c]).length 42 := by
      rw [← hsize]
      exact encode_asterisks [c]
    rw [encode_cons c s, encode_append, hstars]
    exact List.rel_append (byteKept_asterisks _) ih

/-! ## Texts without keys -/

theorem infix_of_secretAt? {key : List Char} {p : Place} {s : Secret} (h : secretAt? key p = some s) :
    key <:+: p.ahead := by
  obtain ⟨quote, lead, secret, rest, hsplits⟩ := Secret.splits_at h
  exact ⟨quote, lead ++ (s.quotes ++ (secret ++ (s.quotes ++ rest))), by simp [hsplits.text]⟩

theorem maskKeyAfter_eq_self {key text : List Char} (h : ¬key <:+: text) (before : Option Char) :
    maskKeyAfter key before text = text := by
  induction text generalizing before with
  | nil => rw [maskKeyAfter]
  | cons c rest ih =>
    have hnone : secretAt? key ⟨before, c :: rest⟩ = none := by
      rw [Option.eq_none_iff_forall_ne_some]
      exact fun _ hs => h (infix_of_secretAt? hs)
    rw [maskKeyAfter_of_none hnone, ih fun hrest => h (hrest.trans (List.suffix_cons c rest).isInfix)]

theorem mask_eq_self {text : List Char} (h : ∀ key ∈ secretKeys, ¬key.toList <:+: text) : mask text = text := by
  suffices ∀ keys ⊆ secretKeys, keys.foldl maskKey text = text from this _ (List.Subset.refl _)
  intro keys hkeys
  induction keys with
  | nil => rfl
  | cons key keys ih =>
    obtain ⟨hkey, hkeys⟩ := List.cons_subset.mp hkeys
    rw [List.foldl_cons, maskKey, maskKeyAfter_eq_self (h key hkey), ih hkeys]

/-- Masking a line only overwrites: there are as many bytes as before, each of them the one that was there or an
asterisk. The buffer stores a line as it has been masked, and so a line without any of the keys as it is. -/
theorem masking_only_overwrites (line : List Char) :
    (encode (mask line)).length = (encode line).length ∧
    (∀ i : Nat, (encode (mask line))[i]? = (encode line)[i]? ∨ (encode (mask line))[i]? = some 42) ∧
    (IsLine line → ∀ (b : Buffer), ∀ ending ∈ lineEndings,
      (b.write (encode (line ++ ending))).lines = (String.ofList (mask line) :: b.lines).take bufferLimit) ∧
    ((∀ key ∈ secretKeys, ¬key.toList <:+: line) → mask line = line) := by
  have hbytes := (masked_mask line).overwritten.bytes
  have hlength : (encode (mask line)).length = (encode line).length := hbytes.length_eq.symm
  refine ⟨hlength, fun i => ?_, fun hline b ending hending => lines_write hline hending b, mask_eq_self⟩
  by_cases hi : i < (encode line).length
  · have hi' : i < (encode (mask line)).length := hlength ▸ hi
    rw [List.getElem?_eq_getElem hi, List.getElem?_eq_getElem hi']
    exact (hbytes.get hi hi').imp (fun h => congrArg some h) fun h => congrArg some h
  · have hi : (encode line).length ≤ i := Nat.le_of_not_lt hi
    rw [List.getElem?_eq_none hi, List.getElem?_eq_none (hlength ▸ hi)]
    exact .inl rfl

/-- A line with a letter of two bytes and a word that looks like a key. -/
theorem masking_only_overwrites_plain_line :
    let line := "écran: passwort=geheim".toList
    (∀ key ∈ secretKeys, ¬key.toList <:+: line) ∧ IsLine line ∧
    (({} : Buffer).write (encode (line ++ ['\n']))).lines = [String.ofList line] := by
  intro line
  have hkeys : ∀ key ∈ secretKeys, ¬key.toList <:+: line := by decide
  have hline : IsLine line := ⟨by decide, by decide, by decide⟩
  obtain ⟨-, -, hstored, hkept⟩ := masking_only_overwrites line
  refine ⟨hkeys, hline, ?_⟩
  rw [hstored hline {} ['\n'] (by decide), hkept hkeys]
  rfl

end ScanConsole.Log
