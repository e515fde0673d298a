import ScanConsole.Csrf.Token

/-!
# The token of a page

A client takes its token from a page and from the cookies that come with it. The
page is not parsed: two patterns are searched for in its text, the first for a
tag and the second, in this tag, for an attribute. `token_used` says which token
this gives, in a grammar that does not mention the search:

    tag        `<meta` body `>`, in any letter case          (`IsTokenTag`)
    body       two attributes in either order, one that names the token and
               one that holds it, and anything behind them   (`IsTokenBody`)
    attribute  `name = "value"`, in any letter case, with any blanks around
               the sign and either kind of quote             (`IsAttribute`)
    cookie     `name=value`, with any blanks around both     (`IsCookie`)

A search on a page finds the first such tag (`metaTag?_append`), and in it the
attribute that holds the token, since it passes over all that stands before
(`Skips`). The page may hold anything else, except that nothing before the tag
may look like the head of a `meta` tag, and that the token holds no quote and
does not close the tag. The first cookie of the name counts
(`ofCookies?_append`), and a page comes before the cookies.

A token that is blank is none; then the search ends, and no second tag and no
second cookie is looked at. With the page this means that the cookies are asked.
-/

namespace ScanConsole.CsrfToken

open Text (isBlank trim trimStart trimEnd afterFolded? sameFolded splitOnce? splitAtEach)

variable {name value text token tag body gap : List Char}

/-! ## The grammar of the tag -/

/-- The text reads `name = "value"`, with the name in any letter case, any blanks around the sign of equality,
and either kind of quote on either side. -/
def IsAttribute (name value text : List Char) : Prop :=
  ∃ spelled gap gap' : List Char, ∃ q q' : Char,
    spelled.map Char.toLower = name ∧ (∀ c ∈ gap ++ gap', isBlank c = true) ∧
    isQuote q = true ∧ isQuote q' = true ∧ text = spelled ++ gap ++ '=' :: gap' ++ q :: value ++ [q']

/-- The attribute by which the tag says that it is the token's. -/
def IsNaming (text : List Char) : Prop := IsAttribute "name".toList "csrf-token".toList text

def IsHolding (token text : List Char) : Prop := IsAttribute "content".toList token text

/-- What stands in the tag behind its name: the two attributes in either order, any blanks before and between
them, and anything else behind them. -/
def IsTokenBody (token body : List Char) : Prop :=
  ∃ gap first between second rest : List Char,
    gap ≠ [] ∧ (∀ c ∈ gap ++ between, isBlank c = true) ∧
    (IsNaming first ∧ IsHolding token second ∨ IsHolding token first ∧ IsNaming second) ∧ '>' ∉ rest ∧
    body = gap ++ (first ++ (between ++ (second ++ rest)))

/-- The text is the tag of the token, a `meta` tag in any letter case. -/
def IsTokenTag (token tag : List Char) : Prop :=
  ∃ spelled body : List Char,
    spelled.map Char.toLower = "meta".toList ∧ IsTokenBody token body ∧ tag = '<' :: spelled ++ body ++ ['>']

/-! ## Searching

A search passes over a text if it gives no answer at any place of it, whatever
stands behind. This is kept when texts are put one behind the other. -/

section Search

variable {α : Type} {f : List Char → Option α} {a b s : List Char}

theorem firstAt?_append (h : ∀ v, v <:+ a → v ≠ [] → f (v ++ s) = none) :
    firstAt? f (a ++ s) = firstAt? f s := by
  induction a with
  | nil => rfl
  | cons c a ih =>
    have hhead := h (c :: a) (List.suffix_refl _) (List.cons_ne_nil _ _)
    rw [List.cons_append] at hhead ⊢
    rw [firstAt?, hhead]
    exact ih fun v hv => h v (hv.trans (List.suffix_cons c a))

theorem firstAt?_of_some {x : α} (h : f s = some x) : firstAt? f s = some x := by
  cases s with
  | nil => exact h
  | cons c s => rw [firstAt?, h]

/-- The search passes over this text, whatever stands behind it. -/
def Skips (f : List Char → Option α) (a : List Char) : Prop := ∀ s, firstAt? f (a ++ s) = firstAt? f s

theorem Skips.append (ha : Skips f a) (hb : Skips f b) : Skips f (a ++ b) := by
  intro s
  rw [List.append_assoc, ha, hb]

theorem skips_of_forall (h : ∀ c ∈ a, ∀ s, f (c :: s) = none) : Skips f a := by
  intro s
  refine firstAt?_append fun v hv hne => ?_
  obtain ⟨c, v, rfl⟩ := List.exists_cons_of_ne_nil hne
  exact h c (hv.subset List.mem_cons_self) _

theorem anyBehind_append {p : List Char → Bool} (ha : a ≠ []) (h : p s = true) :
    anyBehind p (a ++ s) = true := by
  induction a with
  | nil => exact absurd rfl ha
  | cons c a ih =>
    rw [List.cons_append, anyBehind, Bool.or_eq_true]
    cases a with
    | nil => exact .inl h
    | cons d a => exact .inr (ih (List.cons_ne_nil d a))

end Search

/-! ## Reading an attribute

An attribute is read up to its value; blanks are trimmed on both sides of the
sign. -/

theorem trimStart_append_visible (hgap : ∀ c ∈ gap, isBlank c = true) {c : Char} (hc : isBlank c = false)
    (s : List Char) : trimStart (gap ++ c :: s) = c :: s := by
  rw [Text.trimStart_blanks_append hgap]
  exact List.dropWhile_cons_of_neg (by simp [hc])

theorem isBlank_of_isQuote {q : Char} (h : isQuote q = true) : isBlank q = false := by
  rw [isQuote, Bool.or_eq_true, beq_iff_eq, beq_iff_eq] at h
  obtain rfl | rfl := h <;> rfl

/-- An attribute is read up to its value. -/
theorem afterAttribute?_append (h : IsAttribute name value text) (s : List Char) :
    ∃ q, isQuote q = true ∧ afterAttribute? name (text ++ s) = some (value ++ q :: s) := by
  obtain ⟨spelled, gap, gap', q, q', rfl, hgaps, hq, hq', rfl⟩ := h
  refine ⟨q', hq', ?_⟩
  have hgap := fun c hc => hgaps c (List.mem_append_left gap' hc)
  have hgap' := fun c hc => hgaps c (List.mem_append_right gap hc)
  have hshape : spelled ++ gap ++ '=' :: gap' ++ q :: value ++ [q'] ++ s =
      spelled ++ (gap ++ '=' :: (gap' ++ q :: (value ++ q' :: s))) := by simp
  rw [hshape, afterAttribute?, Text.afterFolded?_append, Option.map_some,
    trimStart_append_visible hgap rfl]
  simp only [trimStart_append_visible hgap' (isBlank_of_isQuote hq), hq, if_true]

theorem isTokenName_append (h : IsNaming text) (s : List Char) : isTokenName (text ++ s) = true := by
  obtain ⟨q, hq, hafter⟩ := afterAttribute?_append h s
  have hvalue := Text.afterFolded?_append "csrf-token".toList (q :: s)
  rw [show "csrf-token".toList.map Char.toLower = "csrf-token".toList from rfl] at hvalue
  simp only [isTokenName, hafter, hvalue, hq]

theorem contentValue?_append (h : IsHolding token text) (htoken : ∀ c ∈ token, isQuote c = false)
    (s : List Char) : contentValue? (text ++ s) = some token := by
  obtain ⟨q, hq, hafter⟩ := afterAttribute?_append h s
  have hany : (token ++ q :: s).any isQuote = true := by simp [hq]
  have htake : (token ++ q :: s).takeWhile (fun c => !isQuote c) = token := by
    rw [List.takeWhile_append_of_pos fun c hc => by rw [htoken c hc]; rfl,
      List.takeWhile_cons_of_neg (by simp [hq]), List.append_nil]
  rw [contentValue?, hafter, Option.bind_some, hany, if_pos rfl, htake]

/-! ## What a search for the content passes over

What stands before the attribute that holds the token cannot begin one: blanks,
quotes, and the attribute that names the token. -/

theorem contentValue?_eq_none {c : Char} (h : c.toLower ≠ 'c') (s : List Char) :
    contentValue? (c :: s) = none := by
  have hc : sameFolded 'c' c = false := by simpa [sameFolded] using Ne.symm h
  have hafter : afterFolded? "content".toList (c :: s) = none := by
    rw [show "content".toList = 'c' :: "ontent".toList from rfl, afterFolded?, hc]
    rfl
  rw [contentValue?, afterAttribute?, hafter]
  rfl

theorem toLower_of_isBlank {c : Char} (h : isBlank c = true) : c.toLower = c := by
  refine dif_neg ?_
  rintro ⟨hfirst, hlast⟩
  have hfirst : 65 ≤ c.toNat := hfirst
  have hlast : c.toNat ≤ 90 := hlast
  simp only [isBlank, Bool.or_eq_true, Bool.and_eq_true, decide_eq_true_eq, beq_iff_eq] at h
  omega

theorem skips_blanks (h : ∀ c ∈ gap, isBlank c = true) : Skips contentValue? gap := by
  refine skips_of_forall fun c hc s => contentValue?_eq_none ?_ s
  rw [toLower_of_isBlank (h c hc)]
  rintro rfl
  exact absurd (h 'c' hc) (by decide)

theorem skips_quote {q : Char} (hq : isQuote q = true) : Skips contentValue? [q] := by
  rw [isQuote, Bool.or_eq_true, beq_iff_eq, beq_iff_eq] at hq
  refine skips_of_forall fun c hc s => contentValue?_eq_none ?_ s
  obtain rfl := List.mem_singleton.mp hc
  obtain rfl | rfl := hq <;> decide

theorem skips_naming (h : IsNaming text) : Skips contentValue? text := by
  obtain ⟨spelled, gap, gap', q, q', hname, hgaps, hq, hq', rfl⟩ := h
  have hspelled : Skips contentValue? spelled := by
    refine skips_of_forall fun c hc s => contentValue?_eq_none ?_ s
    have hletter : c.toLower ∈ "name".toList := hname ▸ List.mem_map_of_mem hc
    intro heq
    rw [heq] at hletter
    exact absurd hletter (by decide)
  have hsign : Skips contentValue? ['='] := fun _ => rfl
  have hvalue : Skips contentValue? "csrf-token".toList := fun _ => rfl
  have hshape : spelled ++ gap ++ '=' :: gap' ++ q :: "csrf-token".toList ++ [q'] =
      spelled ++ gap ++ ['='] ++ gap' ++ [q] ++ "csrf-token".toList ++ [q'] := by simp
  rw [hshape]
  have hgap := skips_blanks fun c hc => hgaps c (List.mem_append_left gap' hc)
  have hgap' := skips_blanks fun c hc => hgaps c (List.mem_append_right gap hc)
  exact (((((hspelled.append hgap).append hsign).append hgap').append (skips_quote hq)).append hvalue).append
    (skips_quote hq')

/-! ## Finding the tag

A letter of another case may be one that is folded to it, and two letters beyond
ASCII are folded to `k` and `s`. The head of a `meta` tag holds neither of the
two. -/

theorem afterFolded?_eq_none {p v : List Char} (hs : 's' ∉ p) (hk : 'k' ∉ p) (hp : '<' ∉ p)
    (hv : ¬ p <+: v.map Char.toLower) (s : List Char) : afterFolded? p (v ++ '<' :: s) = none := by
  induction p generalizing v with
  | nil => exact absurd List.nil_prefix hv
  | cons x p ih =>
    rw [List.mem_cons, not_or] at hs hk hp
    have hsame (c : Char) : sameFolded x c = (x == c.toLower) := by
      simp [sameFolded, beq_false_of_ne (Ne.symm hs.1), beq_false_of_ne (Ne.symm hk.1)]
    cases v with
    | nil =>
      have hx : sameFolded x '<' = false := by
        rw [hsame, beq_eq_false_iff_ne]
        exact Ne.symm hp.1
      rw [List.nil_append, afterFolded?, hx]
      rfl
    | cons c v =>
      rw [List.cons_append, afterFolded?, hsame]
      split
      · next hx =>
        refine ih hs.2 hk.2 hp.2 fun hpre => hv ?_
        rw [List.map_cons, ← beq_iff_eq.mp hx]
        exact (List.cons_prefix_cons).mpr ⟨rfl, hpre⟩
      · rfl

/-- The search for the tag passes over a text without the head of one. -/
theorem firstAt?_metaTag?_append {before : List Char} (h : ¬ "<meta".toList <:+: before.map Char.toLower)
    (s : List Char) : firstAt? metaTag? (before ++ '<' :: s) = firstAt? metaTag? ('<' :: s) := by
  refine firstAt?_append fun v hv hne => ?_
  obtain ⟨c, v, rfl⟩ := List.exists_cons_of_ne_nil hne
  have hhead : ¬ "<meta".toList <+: (c :: v).map Char.toLower := fun hpre =>
    h (hpre.isInfix.trans (hv.map Char.toLower).isInfix)
  have hafter : afterFolded? "<meta".toList (c :: v ++ '<' :: s) = none := by
    rw [show "<meta".toList = '<' :: "meta".toList from rfl, List.cons_append, afterFolded?]
    split
    · next hc =>
      have hc : '<' = c.toLower := by simpa [sameFolded] using hc
      refine afterFolded?_eq_none (by decide) (by decide) (by decide) (fun hpre => hhead ?_) s
      rw [List.map_cons, ← hc]
      exact List.cons_prefix_cons.mpr ⟨rfl, hpre⟩
    · rfl
  rw [metaTag?, hafter]

theorem not_mem_blanks (h : ∀ c ∈ gap, isBlank c = true) : '>' ∉ gap := fun hmem =>
  absurd (h '>' hmem) (by decide)

theorem not_mem_attribute (h : IsAttribute name value text) (hname : '>' ∉ name) (hvalue : '>' ∉ value) :
    '>' ∉ text := by
  obtain ⟨spelled, gap, gap', q, q', rfl, hgaps, hq, hq', rfl⟩ := h
  have hspelled : '>' ∉ spelled := fun hmem => hname (List.mem_map_of_mem (f := Char.toLower) hmem)
  have hgap := not_mem_blanks hgaps
  rw [List.mem_append, not_or] at hgap
  have hquote {q : Char} (hq : isQuote q = true) : '>' ≠ q := by
    rintro rfl
    exact absurd hq (by decide)
  simp [hspelled, hgap, hvalue, hquote hq, hquote hq']

theorem not_mem_body (h : IsTokenBody token body) (hclose : '>' ∉ token) : '>' ∉ body := by
  obtain ⟨gap, first, between, second, rest, -, hgaps, horder, hrest, rfl⟩ := h
  have hblank := not_mem_blanks hgaps
  rw [List.mem_append, not_or] at hblank
  have hnaming {text : List Char} (h : IsNaming text) : '>' ∉ text :=
    not_mem_attribute h (by decide) (by decide)
  have hholding {text : List Char} (h : IsHolding token text) : '>' ∉ text :=
    not_mem_attribute h (by decide) hclose
  simp only [List.mem_append, not_or]
  refine ⟨hblank.1, ?_, hblank.2, ?_, hrest⟩
  · exact horder.elim (hnaming ·.1) (hholding ·.1)
  · exact horder.elim (hholding ·.2) (hnaming ·.2)

theorem isNamed_body (h : IsTokenBody token body) :
    (body.head?.any isBlank && anyBehind isTokenName body) = true := by
  obtain ⟨gap, first, between, second, rest, hne, hgaps, horder, -, rfl⟩ := h
  have htoken : anyBehind isTokenName (gap ++ (first ++ (between ++ (second ++ rest)))) = true := by
    obtain ⟨hfirst, -⟩ | ⟨-, hsecond⟩ := horder
    · exact anyBehind_append hne (isTokenName_append hfirst _)
    · rw [← List.append_assoc first, ← List.append_assoc gap]
      exact anyBehind_append (by simp [hne]) (isTokenName_append hsecond _)
  rw [htoken, Bool.and_true]
  obtain ⟨c, gap, rfl⟩ := List.exists_cons_of_ne_nil hne
  exact hgaps c (List.mem_append_left between List.mem_cons_self)

/-- The first content in the body is the token. -/
theorem firstAt?_body (h : IsTokenBody token body) (hquotes : ∀ c ∈ token, isQuote c = false) :
    firstAt? contentValue? body = some token := by
  obtain ⟨gap, first, between, second, rest, -, hgaps, horder, -, rfl⟩ := h
  have hanswer {text : List Char} (h : IsHolding token text) (s : List Char) :
      firstAt? contentValue? (text ++ s) = some token :=
    firstAt?_of_some (contentValue?_append h hquotes s)
  rw [skips_blanks fun c hc => hgaps c (List.mem_append_left between hc)]
  obtain ⟨hfirst, hsecond⟩ | ⟨hfirst, -⟩ := horder
  · rw [skips_naming hfirst, skips_blanks fun c hc => hgaps c (List.mem_append_right gap hc), hanswer hsecond]
  · rw [hanswer hfirst]

/-- The tag is found where it begins, up to its closing bracket. -/
theorem metaTag?_append {spelled : List Char} (hname : spelled.map Char.toLower = "meta".toList)
    (hbody : IsTokenBody token body) (hclose : '>' ∉ token) (after : List Char) :
    metaTag? ('<' :: spelled ++ body ++ ['>'] ++ after) = some body := by
  have hspelled := Text.afterFolded?_append ('<' :: spelled) (body ++ '>' :: after)
  rw [List.map_cons, hname, show '<'.toLower :: "meta".toList = "<meta".toList from rfl] at hspelled
  have hnamed := isNamed_body hbody
  rw [List.append_assoc, List.append_assoc, List.singleton_append, metaTag?, hspelled]
  simp only [Text.splitOnce?_append (not_mem_body hbody hclose)]
  cases body with
  | nil => cases hnamed
  | cons c body => exact if_pos hnamed

/-- The token of a page is the one in its first tag of a token. -/
theorem ofPage?_append {before : List Char} (hbefore : ¬ "<meta".toList <:+: before.map Char.toLower)
    (h : IsTokenTag token tag) (hquotes : ∀ c ∈ token, isQuote c = false) (hclose : '>' ∉ token)
    (after : List Char) : ofPage? (String.ofList (before ++ tag ++ after)) = ofText? (String.ofList token) := by
  obtain ⟨spelled, body, hname, hbody, rfl⟩ := h
  have hfound : firstAt? metaTag? (before ++ ('<' :: spelled ++ body ++ ['>']) ++ after) = some body := by
    rw [List.append_assoc, List.cons_append, List.cons_append, List.cons_append,
      firstAt?_metaTag?_append hbefore]
    exact firstAt?_of_some (metaTag?_append hname hbody hclose after)
  simp only [ofPage?, String.toList_ofList, hfound, firstAt?_body hbody hquotes, Option.bind_eq_bind,
    Option.bind_some]

/-! ## Cookies

The segments of a header are those between its semicolons, and the ones that are
no cookie of the name do not count. -/

/-- The segment reads `name=value`, with any blanks around the name. The value may have signs of equality in
it. -/
def IsCookie (name : String) (value segment : List Char) : Prop :=
  ∃ key : List Char, segment = key ++ '=' :: value ∧ '=' ∉ key ∧ String.ofList (trim key) = name

theorem cookie?_append {key : List Char} (hkey : '=' ∉ key) (value : List Char) :
    cookie? (key ++ '=' :: value) = some (String.ofList (trim key), String.ofList (trim value)) := by
  have hstart : '=' ∉ trimStart key := fun h => hkey ((List.dropWhile_sublist isBlank).subset h)
  rw [cookie?, Text.trim_append_cons rfl, Text.splitOnce?_append hstart, Option.map_some,
    Text.trim_trimStart, Text.trim_trimEnd]

theorem cookie?_eq_none {segment : List Char} (h : '=' ∉ segment) : cookie? segment = none := by
  have htrim : '=' ∉ trim segment := by
    intro hmem
    obtain ⟨l, hl, -⟩ := Text.exists_trimStart segment
    obtain ⟨r, hr, -⟩ := Text.exists_trimEnd (trimStart segment)
    rw [hl, hr] at h
    exact h (List.mem_append_right l (List.mem_append_left r hmem))
  rw [cookie?, Text.splitOnce?_eq_none htrim, Option.map_none]

theorem cookie?_eq_some_iff {name shown : String} {segment : List Char} :
    cookie? segment = some (name, shown) ↔
      ∃ value, IsCookie name value segment ∧ String.ofList (trim value) = shown := by
  constructor
  · intro h
    by_cases hmem : '=' ∈ segment
    · obtain ⟨key, value, rfl, hkey⟩ := List.eq_append_cons_of_mem hmem
      rw [cookie?_append hkey, Option.some.injEq, Prod.mk.injEq] at h
      exact ⟨value, ⟨key, rfl, hkey, h.1⟩, h.2⟩
    · rw [cookie?_eq_none hmem] at h
      cases h
  · rintro ⟨value, ⟨key, rfl, hkey, rfl⟩, rfl⟩
    exact cookie?_append hkey value

theorem ofCookies?_intercalate {segments : List (List Char)} (h : ∀ s ∈ segments, ';' ∉ s) (name : String) :
    ofCookies? (String.ofList ([';'].intercalate segments)) name =
      ((segments.filterMap cookie?).find? fun c => c.1 == name).bind fun c => ofText? c.2 := by
  have hcookies : (splitAtEach (· == ';') ([';'].intercalate segments)).filterMap cookie? =
      segments.filterMap cookie? := by
    by_cases hne : segments = []
    · subst hne
      rfl
    · rw [Text.splitAtEach_intercalate rfl hne]
      intro s hs c hc
      rw [beq_eq_false_iff_ne]
      rintro rfl
      exact h s hs hc
  rw [ofCookies?, String.toList_ofList, hcookies]
  rfl

theorem find?_cookies_eq_none {name : String} {segments : List (List Char)}
    (h : ∀ s ∈ segments, ∀ value, ¬ IsCookie name value s) :
    (segments.filterMap cookie?).find? (fun c => c.1 == name) = none := by
  rw [List.find?_eq_none]
  rintro ⟨key, shown⟩ hmem hname
  obtain ⟨s, hs, hcookie⟩ := List.mem_filterMap.mp hmem
  obtain ⟨value, his, -⟩ := cookie?_eq_some_iff.mp hcookie
  obtain rfl := beq_iff_eq.mp hname
  exact h s hs value his

/-- The first cookie of the name gives the token. -/
theorem ofCookies?_append {name : String} {earlier later : List (List Char)} {segment value : List Char}
    (hsegments : ∀ s ∈ earlier ++ segment :: later, ';' ∉ s) (h : IsCookie name value segment)
    (hfirst : ∀ s ∈ earlier, ∀ value', ¬ IsCookie name value' s) :
    ofCookies? (String.ofList ([';'].intercalate (earlier ++ segment :: later))) name =
      ofText? (String.ofList (trim value)) := by
  have hcookie := cookie?_eq_some_iff.mpr ⟨value, h, rfl⟩
  rw [ofCookies?_intercalate hsegments, List.filterMap_append, List.filterMap_cons_some hcookie,
    List.find?_append, find?_cookies_eq_none hfirst, Option.none_or, List.find?_cons, beq_self_eq_true]
  rfl

/-! ## The token that is used

Page, cookies and both. -/

/-- The token of a page is the text in its first tag of a token, if it is not blank, however the tag is spelled
and whatever stands around it. The token of the cookies is the value of the first cookie of the name, without
the blanks around it. The first counts before the second. -/
theorem token_used :
    (∀ before token tag after : List Char, ¬ "<meta".toList <:+: before.map Char.toLower →
      (∀ c ∈ token, isQuote c = false ∧ c ≠ '>') → IsTokenTag token tag →
      ofPage? (String.ofList (before ++ tag ++ after)) = ofText? (String.ofList token)) ∧
    (∀ (name : String) (segments : List (List Char)), (∀ s ∈ segments, ';' ∉ s) →
      (∀ earlier segment later value, segments = earlier ++ segment :: later →
        IsCookie name value segment → (∀ s ∈ earlier, ∀ value', ¬ IsCookie name value' s) →
        ofCookies? (String.ofList ([';'].intercalate segments)) name =
          ofText? (String.ofList (trim value))) ∧
      ((∀ s ∈ segments, ∀ value, ¬ IsCookie name value s) →
        ofCookies? (String.ofList ([';'].intercalate segments)) name = none)) ∧
    ∀ (page cookies : Option String) (name : String),
      (∀ t, page.bind ofPage? = some t → resolve? page cookies name = some t) ∧
      (page.bind ofPage? = none →
        resolve? page cookies name = cookies.bind fun header => ofCookies? header name) := by
  refine ⟨?page, ?cookies, ?both⟩
  case page =>
    intro before token tag after hbefore htoken htag
    exact ofPage?_append hbefore htag (fun c hc => (htoken c hc).1) (fun hc => (htoken '>' hc).2 rfl) after
  case cookies =>
    intro name segments hsegments
    refine ⟨?_, fun hnone => ?_⟩
    · rintro earlier segment later value rfl hcookie hfirst
      exact ofCookies?_append hsegments hcookie hfirst
    · rw [ofCookies?_intercalate hsegments, find?_cookies_eq_none hnone]
      rfl
  case both =>
    intro page cookies name
    refine ⟨fun t ht => ?_, fun hnone => ?_⟩
    · rw [resolve?, ht]
    · rw [resolve?, hnone]

/-- A page with a tag in capitals, the content first, and cookies of which two have the name. -/
theorem token_used_in_capitals :
    let page := String.ofList
      ("<p>".toList ++ "<META  content = 'a b'\nName=\"csrf-token\"/>".toList ++ "</p>".toList)
    let header := "s=1; csrftoken =x=y ;csrftoken=z"
    ofPage? page = some ⟨"a b"⟩ ∧
      ofCookies? header "csrftoken" = some ⟨"x=y"⟩ ∧ ofCookies? header "token" = none ∧
      resolve? (some page) (some header) "csrftoken" = some ⟨"a b"⟩ ∧
      resolve? (some "<p></p>") (some header) "csrftoken" = some ⟨"x=y"⟩ := by
  intro page header
  obtain ⟨hpages, hcookies, hboth⟩ := token_used
  have hother {name shown : String} {segment : List Char} (key : String)
      (h : cookie? segment = some (key, shown)) (hne : key ≠ name) : ∀ value, ¬ IsCookie name value segment := by
    intro value his
    have hthis := cookie?_eq_some_iff.mpr ⟨value, his, rfl⟩
    rw [h, Option.some.injEq, Prod.mk.injEq] at hthis
    exact hne hthis.1
  have hpage : ofPage? page = some ⟨"a b"⟩ := by
    refine hpages "<p>".toList "a b".toList _ "</p>".toList (by decide) (by simp [isQuote]) ?_
    refine ⟨"META".toList, _, rfl, ⟨"  ".toList, "content = 'a b'".toList, "\n".toList,
      "Name=\"csrf-token\"".toList, "/".toList, by decide, List.all_eq_true.mp rfl, .inr ⟨?_, ?_⟩, by decide,
      rfl⟩, rfl⟩
    · exact ⟨"content".toList, [' '], [' '], '\x27', '\x27', rfl, List.all_eq_true.mp rfl, rfl, rfl, rfl⟩
    · exact ⟨"Name".toList, [], [], '"', '"', rfl, List.all_eq_true.mp rfl, rfl, rfl, rfl⟩
  have hfound : ofCookies? header "csrftoken" = some ⟨"x=y"⟩ := by
    refine (hcookies "csrftoken" ["s=1".toList, " csrftoken =x=y ".toList, "csrftoken=z".toList] (by decide)).1
      ["s=1".toList] " csrftoken =x=y ".toList ["csrftoken=z".toList] "x=y ".toList rfl
      ⟨" csrftoken ".toList, rfl, by decide, rfl⟩ ?_
    intro s hs
    obtain rfl := List.mem_singleton.mp hs
    exact hother "s" rfl (by decide)
  refine ⟨hpage, hfound, ?_, (hboth (some page) _ "csrftoken").1 _ hpage, ?_⟩
  · refine (hcookies "token" ["s=1".toList, " csrftoken =x=y ".toList, "csrftoken=z".toList] (by decide)).2 ?_
    intro s hs
    simp only [List.mem_cons, List.not_mem_nil, or_false] at hs
    obtain rfl | rfl | rfl := hs
    · exact hother "s" rfl (by decide)
    · exact hother "csrftoken" rfl (by decide)
    · exact hother "csrftoken" rfl (by decide)
  · rw [(hboth (some "<p></p>") _ "csrftoken").2 rfl]
    exact hfound

end ScanConsole.CsrfToken
