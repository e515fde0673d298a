import ScanConsole.Script.Highlight

/-!
# Markup is read back as the script

The markup of a script can be read without knowing how it came about: `untagged`
leaves out what stands between angle brackets, `unescape` puts a character for
each entity, and `tagsIn` lists the tags. This gives back the script, whatever
it holds:

    unescape (untagged body) = script          (`highlight_lossless`)

`untagged` and `tagsIn` are a reader that knows of no token, and `unescape`
knows the five entities and nothing else. They go through the markup character
by character, so what they give is no matter of how it was put together.

The proof has two halves. The pieces of a script make up the script
(`flatMap_text_pieces`), and each is read back by itself (`read_markup`). The
former is all that is used of how a script is cut into pieces: a cut in another
place would be read back as well.

That nothing of the script passes for markup is a matter of the blocks that the
markup consists of (`IsBlock`): a tag, or one character of the script. An angle
bracket or an ampersand can only stand at the border of one, so an opening
bracket in the markup begins a block, and the block is a tag; a closing one ends
a tag, and an ampersand begins an entity.

Scripts are lists of characters, in which everything may occur, also what looks
like a tag or like an entity.
-/

namespace ScanConsole.Script

/-! ## Reading markup -/

def openingTag (kind : TokenKind) : List Char :=
  "<span class=\"token ".toList ++ kind.name.toList ++ "\">".toList

def closingTag : List Char := "</span>".toList

/-- The entities, each behind the character that it stands for. -/
def entities : List (Char × List Char) :=
  [('&', "&amp;".toList), ('<', "&lt;".toList), ('>', "&gt;".toList), ('"', "&quot;".toList),
    ('\x27', "&#39;".toList)]

/-- A text without its tags; `inside` says that it begins within one. -/
def untaggedFrom (inside : Bool) : List Char → List Char
  | [] => []
  | c :: rest =>
    if inside then untaggedFrom (c != '>') rest
    else if c == '<' then untaggedFrom true rest
    else c :: untaggedFrom false rest

/-- A text without its tags. -/
def untagged (markup : List Char) : List Char := untaggedFrom false markup

/-- The tags of a text, the first of which has begun if it begins within one. -/
def tagsFrom (begun : Option (List Char)) : List Char → List (List Char)
  | [] => []
  | c :: rest =>
    match begun with
    | none => tagsFrom (if c == '<' then some [c] else none) rest
    | some tag => if c == '>' then (tag ++ [c]) :: tagsFrom none rest else tagsFrom (some (tag ++ [c])) rest

/-- The tags of a text, in their order. -/
def tagsIn (markup : List Char) : List (List Char) := tagsFrom none markup

/-- A text with the characters for its entities. -/
def unescape : List Char → List Char
  | '&' :: 'a' :: 'm' :: 'p' :: ';' :: rest => '&' :: unescape rest
  | '&' :: 'l' :: 't' :: ';' :: rest => '<' :: unescape rest
  | '&' :: 'g' :: 't' :: ';' :: rest => '>' :: unescape rest
  | '&' :: 'q' :: 'u' :: 'o' :: 't' :: ';' :: rest => '"' :: unescape rest
  | '&' :: '#' :: '3' :: '9' :: ';' :: rest => '\x27' :: unescape rest
  | c :: rest => c :: unescape rest
  | [] => []

/-! ## One character

The entities are read back because none of them is the beginning of another, and
because a character that is none of the five is no ampersand. -/

theorem escapeChar_cases (c : Char) :
    (c, escapeChar c) ∈ entities ∨ escapeChar c = [c] ∧ ∀ e ∈ entities, c ≠ e.1 := by
  unfold escapeChar entities
  by_cases h1 : c = '&'
  · exact .inl (by simp [h1])
  by_cases h2 : c = '<'
  · exact .inl (by simp [h2])
  by_cases h3 : c = '>'
  · exact .inl (by simp [h3])
  by_cases h4 : c = '"'
  · exact .inl (by simp [h4])
  by_cases h5 : c = '\x27'
  · exact .inl (by simp [h5])
  exact .inr (by simp [h1, h2, h3, h4, h5])

theorem unescape_cons {c : Char} (h : c ≠ '&') (rest : List Char) :
    unescape (c :: rest) = c :: unescape rest := by
  rw [unescape.eq_def]
  split <;> simp_all

/-- A character in front of any text is read back. -/
theorem unescape_escapeChar (c : Char) (rest : List Char) :
    unescape (escapeChar c ++ rest) = c :: unescape rest := by
  rcases escapeChar_cases c with h | ⟨h, hc⟩
  · simp only [entities, List.mem_cons, Prod.mk.injEq, List.not_mem_nil, or_false] at h
    rcases h with ⟨rfl, h⟩ | ⟨rfl, h⟩ | ⟨rfl, h⟩ | ⟨rfl, h⟩ | ⟨rfl, h⟩ <;> rfl
  · rw [h]
    exact unescape_cons (hc _ List.mem_cons_self) rest

theorem unescape_escape (s : List Char) : unescape (escape s) = s := by
  induction s with
  | nil => rfl
  | cons c s ih =>
    rw [escape, List.flatMap_cons, unescape_escapeChar]
    exact congrArg _ ih

theorem not_mem_escapeChar {x : Char} (hx : x ∈ ['<', '>', '"', '\x27']) (c : Char) :
    x ∉ escapeChar c := by
  rcases escapeChar_cases c with h | ⟨h, hc⟩
  · have hall : ∀ e ∈ entities, ∀ x ∈ ['<', '>', '"', '\x27'], x ∉ e.2 := by simp [entities]
    exact hall _ h x hx
  · have hall : ∀ x ∈ ['<', '>', '"', '\x27'], ∃ e ∈ entities, x = e.1 := by simp [entities]
    obtain ⟨e, he, rfl⟩ := hall x hx
    rw [h, List.mem_singleton]
    exact fun heq => hc e he heq.symm

theorem ampersand_not_mem_tail (c : Char) : '&' ∉ (escapeChar c).tail := by
  rcases escapeChar_cases c with h | ⟨h, -⟩
  · have hall : ∀ e ∈ entities, '&' ∉ e.2.tail := by decide
    exact hall _ h
  · rw [h]
    exact List.not_mem_nil

theorem entity_of_head {c : Char} (h : (escapeChar c).head? = some '&') :
    ∃ e ∈ entities, e.2 = escapeChar c := by
  rcases escapeChar_cases c with he | ⟨he, hc⟩
  · exact ⟨_, he, rfl⟩
  · rw [he] at h
    exact absurd (Option.some.inj h) (hc _ List.mem_cons_self)

/-! ## Blocks

A character that is only in front of blocks begins the block that it is in, and
one that is only at the end of blocks ends it. -/

/-- What the markup of a script consists of: a tag, or a character of the script. -/
inductive IsBlock : List Char → Prop
  | opening (kind : TokenKind) : IsBlock (openingTag kind)
  | closing : IsBlock closingTag
  | char (c : Char) : IsBlock (escapeChar c)

/-- The blocks of a part of a script. -/
def Piece.blocks : Piece → List (List Char)
  | .plain c => [escapeChar c]
  | .token kind text => openingTag kind :: (text.map escapeChar ++ [closingTag])

theorem Piece.flatten_blocks (p : Piece) : p.blocks.flatten = p.markup := by
  cases p with
  | plain c => exact List.append_nil _
  | token kind text =>
    rw [blocks, List.flatten_cons, List.flatten_append, List.flatten_singleton, ← List.flatMap_def]
    exact (List.append_assoc ..).symm

theorem Piece.isBlock {p : Piece} {b : List Char} (h : b ∈ p.blocks) : IsBlock b := by
  cases p with
  | plain c =>
    rw [List.mem_singleton.mp h]
    exact .char c
  | token kind text =>
    rcases List.mem_cons.mp h with rfl | h
    · exact .opening kind
    rcases List.mem_append.mp h with h | h
    · obtain ⟨c, -, rfl⟩ := List.mem_map.mp h
      exact .char c
    · rw [List.mem_singleton.mp h]
      exact .closing

theorem IsBlock.bracket_not_mem_tail {b : List Char} (h : IsBlock b) : '<' ∉ b.tail := by
  cases h with
  | opening kind => cases kind <;> decide
  | closing => decide
  | char c => exact fun hmem => not_mem_escapeChar (by decide) c (List.mem_of_mem_tail hmem)

theorem IsBlock.bracket_not_mem_dropLast {b : List Char} (h : IsBlock b) : '>' ∉ b.dropLast := by
  cases h with
  | opening kind => cases kind <;> decide
  | closing => decide
  | char c => exact fun hmem => not_mem_escapeChar (by decide) c (List.dropLast_subset _ hmem)

theorem IsBlock.ampersand_not_mem_tail {b : List Char} (h : IsBlock b) : '&' ∉ b.tail := by
  cases h with
  | opening kind => cases kind <;> decide
  | closing => decide
  | char c => exact Script.ampersand_not_mem_tail c

theorem IsBlock.tag_of_bracket {b : List Char} (h : IsBlock b) {x : Char} (hx : x ∈ ['<', '>']) (hmem : x ∈ b) :
    (∃ kind, b = openingTag kind) ∨ b = closingTag := by
  cases h with
  | opening kind => exact .inl ⟨kind, rfl⟩
  | closing => exact .inr rfl
  | char c => exact absurd hmem (not_mem_escapeChar (List.mem_append_left ['"', '\x27'] hx) c)

theorem IsBlock.entity_of_ampersand {b : List Char} (h : IsBlock b) (hhead : b.head? = some '&') :
    ∃ e ∈ entities, e.2 = b := by
  cases h with
  | opening kind => cases kind <;> cases hhead
  | closing => cases hhead
  | char c => exact entity_of_head hhead

/-- A character that is only in front of blocks begins the block that it is in. -/
theorem exists_block_of_tail {x : Char} {blocks : List (List Char)} (h : ∀ b ∈ blocks, x ∉ b.tail)
    {before behind : List Char} (hsplit : blocks.flatten = before ++ x :: behind) :
    ∃ b ∈ blocks, b.head? = some x ∧ b <+: x :: behind := by
  induction blocks generalizing before with
  | nil => cases (List.append_eq_nil_iff.mp hsplit.symm).2
  | cons b blocks ih =>
    have hlater (before' : List Char) (hrest : blocks.flatten = before' ++ x :: behind) :
        ∃ b' ∈ b :: blocks, b'.head? = some x ∧ b' <+: x :: behind := by
      obtain ⟨b', hb', hfound⟩ := ih (fun b' hb' => h b' (List.mem_cons_of_mem _ hb')) hrest
      exact ⟨b', List.mem_cons_of_mem _ hb', hfound⟩
    rw [List.flatten_cons] at hsplit
    rcases List.append_eq_append_iff.mp hsplit with ⟨part, rfl, hrest⟩ | ⟨part, rfl, hrest⟩
    · exact hlater part hrest
    · cases part with
      | nil => exact hlater [] hrest.symm
      | cons y part =>
        obtain ⟨rfl, rfl⟩ := List.cons.inj hrest
        cases before with
        | nil => exact ⟨_, List.mem_cons_self, rfl, List.prefix_append _ _⟩
        | cons z before =>
          refine absurd ?_ (h _ List.mem_cons_self)
          simp

theorem exists_block_of_dropLast {x : Char} {blocks : List (List Char)} (h : ∀ b ∈ blocks, x ∉ b.dropLast)
    {before behind : List Char} (hsplit : blocks.flatten = before ++ x :: behind) :
    ∃ b ∈ blocks, b.getLast? = some x ∧ b <:+ before ++ [x] := by
  have hturned : (blocks.map List.reverse).reverse.flatten = behind.reverse ++ x :: before.reverse := by
    rw [← List.reverse_flatten, hsplit]
    simp
  have htails : ∀ b ∈ (blocks.map List.reverse).reverse, x ∉ b.tail := by
    intro t ht
    obtain ⟨b, hb, rfl⟩ := List.mem_map.mp (List.mem_reverse.mp ht)
    rw [List.tail_reverse, List.mem_reverse]
    exact h b hb
  obtain ⟨t, ht, hhead, hprefix⟩ := exists_block_of_tail htails hturned
  obtain ⟨b, hb, rfl⟩ := List.mem_map.mp (List.mem_reverse.mp ht)
  refine ⟨b, hb, by rwa [List.head?_reverse] at hhead, ?_⟩
  rw [← List.reverse_prefix]
  simpa using hprefix

/-! ## Tags

A tag is passed over by one reader and taken by the other, and what holds no
opening bracket is left alone by both. -/

section
variable {s : List Char}

theorem untaggedFrom_append_of_not_mem (h : '<' ∉ s) (rest : List Char) :
    untaggedFrom false (s ++ rest) = s ++ untaggedFrom false rest := by
  induction s with
  | nil => rfl
  | cons c s ih =>
    have hc := List.ne_of_not_mem_cons h
    have hs := List.not_mem_of_not_mem_cons h
    simp [untaggedFrom, ih hs, hc.symm]

theorem tagsFrom_append_of_not_mem (h : '<' ∉ s) (rest : List Char) :
    tagsFrom none (s ++ rest) = tagsFrom none rest := by
  induction s with
  | nil => rfl
  | cons c s ih =>
    have hc := List.ne_of_not_mem_cons h
    have hs := List.not_mem_of_not_mem_cons h
    simp [tagsFrom, ih hs, hc.symm]

theorem untaggedFrom_close (h : '>' ∉ s) (rest : List Char) :
    untaggedFrom true (s ++ '>' :: rest) = untaggedFrom false rest := by
  induction s with
  | nil => rfl
  | cons c s ih =>
    have hc := List.ne_of_not_mem_cons h
    have hs := List.not_mem_of_not_mem_cons h
    have hopen : (c != '>') = true := by simpa using hc.symm
    rw [List.cons_append, untaggedFrom, if_pos rfl, hopen, ih hs]

theorem tagsFrom_close (begun : List Char) (h : '>' ∉ s) (rest : List Char) :
    tagsFrom (some begun) (s ++ '>' :: rest) = (begun ++ s ++ ['>']) :: tagsFrom none rest := by
  induction s generalizing begun with
  | nil => simp [tagsFrom]
  | cons c s ih =>
    have hc := List.ne_of_not_mem_cons h
    have hs := List.not_mem_of_not_mem_cons h
    simp [tagsFrom, ih _ hs, hc.symm]

end

/-- A tag: angle brackets around what holds no closing one. -/
def IsTag (t : List Char) : Prop := ∃ s, t = '<' :: (s ++ ['>']) ∧ '>' ∉ s

theorem isTag_opening (kind : TokenKind) : IsTag (openingTag kind) :=
  ⟨(openingTag kind).tail.dropLast, by cases kind <;> rfl, by cases kind <;> decide⟩

theorem isTag_closing : IsTag closingTag := ⟨closingTag.tail.dropLast, rfl, by decide⟩

theorem IsTag.untagged_append {t : List Char} (h : IsTag t) (rest : List Char) :
    untagged (t ++ rest) = untagged rest := by
  obtain ⟨s, rfl, hs⟩ := h
  rw [List.cons_append, List.append_assoc]
  exact untaggedFrom_close hs rest

theorem IsTag.tagsIn_append {t : List Char} (h : IsTag t) (rest : List Char) :
    tagsIn (t ++ rest) = t :: tagsIn rest := by
  obtain ⟨s, rfl, hs⟩ := h
  rw [List.cons_append, List.append_assoc]
  exact tagsFrom_close ['<'] hs rest

theorem not_mem_escape {x : Char} (hx : x ∈ ['<', '>', '"', '\x27']) (s : List Char) : x ∉ escape s := by
  intro hmem
  obtain ⟨c, -, hc⟩ := List.mem_flatMap.mp hmem
  exact not_mem_escapeChar hx c hc

def Piece.kind? : Piece → Option TokenKind
  | .plain _ => none
  | .token kind _ => some kind

theorem Piece.read_markup (p : Piece) (rest : List Char) :
    untagged (p.markup ++ rest) = escape p.text ++ untagged rest ∧
      tagsIn (p.markup ++ rest) =
        (p.kind?.toList.flatMap fun kind => [openingTag kind, closingTag]) ++ tagsIn rest := by
  cases p with
  | plain c =>
    have hc : '<' ∉ escapeChar c := not_mem_escapeChar (by decide) c
    rw [show escape (Piece.plain c).text = escapeChar c from List.append_nil _]
    exact ⟨untaggedFrom_append_of_not_mem hc rest, tagsFrom_append_of_not_mem hc rest⟩
  | token kind text =>
    have hmarkup : (Piece.token kind text).markup ++ rest =
        openingTag kind ++ (escape text ++ (closingTag ++ rest)) := by
      rw [← Piece.flatten_blocks, blocks, List.flatten_cons, List.flatten_append, List.flatten_singleton,
        ← List.flatMap_def]
      simp only [escape, List.append_assoc]
    have htext : '<' ∉ escape text := not_mem_escape (by decide) text
    rw [hmarkup, (isTag_opening kind).untagged_append, (isTag_opening kind).tagsIn_append]
    constructor
    · rw [untagged, untaggedFrom_append_of_not_mem htext]
      exact congrArg _ (isTag_closing.untagged_append rest)
    · rw [tagsIn, tagsFrom_append_of_not_mem htext]
      exact congrArg _ (isTag_closing.tagsIn_append rest)

/-- The markup of the parts of a script, read back. -/
theorem read_markup (ps : List Piece) :
    untagged (ps.flatMap Piece.markup) = escape (ps.flatMap Piece.text) ∧
      tagsIn (ps.flatMap Piece.markup) =
        (ps.filterMap Piece.kind?).flatMap fun kind => [openingTag kind, closingTag] := by
  induction ps with
  | nil => exact ⟨rfl, rfl⟩
  | cons p ps ih =>
    obtain ⟨huntagged, htags⟩ := p.read_markup (ps.flatMap Piece.markup)
    rw [List.flatMap_cons, List.flatMap_cons, huntagged, htags, ih.1, ih.2]
    refine ⟨List.flatMap_append.symm, ?_⟩
    cases hkind : p.kind? with
    | none => rw [List.filterMap_cons_none hkind]; rfl
    | some kind => rw [List.filterMap_cons_some hkind]; rfl

/-! ## The pieces of a script

Pieces are cut off at the front, and nothing is lost between them. -/

theorem flatMap_text_piecesAfter (before : Option Char) (s : List Char) :
    (piecesAfter before s).flatMap Piece.text = s := by
  fun_induction piecesAfter before s with
  | case1 => rfl
  | case2 before c rest _ ih =>
    rw [List.flatMap_cons, ih]
    rfl
  | case3 before c rest kind more _ text ih =>
    rw [List.flatMap_cons, ih]
    exact congrArg (c :: ·) (List.take_append_drop more rest)

/-- The pieces of a script make up the script. -/
theorem flatMap_text_pieces (script : List Char) : (pieces script).flatMap Piece.text = script :=
  flatMap_text_piecesAfter none script

theorem ofList_around (s t : String) (body : List Char) :
    String.ofList (s.toList ++ body ++ t.toList) = s ++ String.ofList body ++ t := by
  rw [String.ofList_append, String.ofList_append, String.ofList_toList, String.ofList_toList]

/-- The markup of a script is one element around a body in which every angle bracket is that of a tag, every
ampersand that of an entity, and the tags come in pairs, one pair behind the other. Outside of them there is no
quote. Without the tags, and with the characters for the entities, the body is the script. -/
theorem highlight_lossless (script : String) :
    ∃ body : List Char,
      highlight script = "<code class=\"language-bash\">" ++ String.ofList body ++ "</code>" ∧
      (∀ before behind, body = before ++ '<' :: behind →
        (∃ kind, openingTag kind <+: '<' :: behind) ∨ closingTag <+: '<' :: behind) ∧
      (∀ before behind, body = before ++ '>' :: behind →
        (∃ kind, openingTag kind <:+ before ++ ['>']) ∨ closingTag <:+ before ++ ['>']) ∧
      (∃ kinds : List TokenKind, tagsIn body = kinds.flatMap fun kind => [openingTag kind, closingTag]) ∧
      (∀ before behind, body = before ++ '&' :: behind → ∃ e ∈ entities, e.2 <+: '&' :: behind) ∧
      ('"' ∉ untagged body ∧ '\x27' ∉ untagged body) ∧
      unescape (untagged body) = script.toList := by
  let ps := pieces script.toList
  let blocks := ps.flatMap Piece.blocks
  have hblocks : ∀ b ∈ blocks, IsBlock b := by
    intro b hb
    obtain ⟨p, -, hp⟩ := List.mem_flatMap.mp hb
    exact Piece.isBlock hp
  have hbody : blocks.flatten = ps.flatMap Piece.markup := by
    rw [← List.flatMap_id, List.flatMap_assoc]
    exact congrArg (ps.flatMap ·) (funext fun p => List.flatMap_id.trans p.flatten_blocks)
  obtain ⟨huntagged, htags⟩ := read_markup ps
  rw [flatMap_text_pieces] at huntagged
  refine ⟨ps.flatMap Piece.markup, ?_, ?_, ?_, ⟨_, htags⟩, ?_, ?_, ?_⟩
  · exact ofList_around _ _ _
  · intro before behind hsplit
    obtain ⟨b, hb, hhead, hprefix⟩ := exists_block_of_tail
      (fun b hb => (hblocks b hb).bracket_not_mem_tail) (hbody.trans hsplit)
    rcases (hblocks b hb).tag_of_bracket (by decide) (List.mem_of_mem_head? hhead) with ⟨kind, rfl⟩ | rfl
    · exact .inl ⟨kind, hprefix⟩
    · exact .inr hprefix
  · intro before behind hsplit
    obtain ⟨b, hb, hlast, hsuffix⟩ := exists_block_of_dropLast
      (fun b hb => (hblocks b hb).bracket_not_mem_dropLast) (hbody.trans hsplit)
    rcases (hblocks b hb).tag_of_bracket (by decide) (List.mem_of_getLast? hlast) with ⟨kind, rfl⟩ | rfl
    · exact .inl ⟨kind, hsuffix⟩
    · exact .inr hsuffix
  · intro before behind hsplit
    obtain ⟨b, hb, hhead, hprefix⟩ := exists_block_of_tail
      (fun b hb => (hblocks b hb).ampersand_not_mem_tail) (hbody.trans hsplit)
    obtain ⟨e, he, rfl⟩ := (hblocks b hb).entity_of_ampersand hhead
    exact ⟨e, he, hprefix⟩
  · rw [huntagged]
    exact ⟨not_mem_escape (by decide) _, not_mem_escape (by decide) _⟩
  · rw [huntagged, unescape_escape]

end ScanConsole.Script
