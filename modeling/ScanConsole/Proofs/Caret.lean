import Mathlib.Order.Bounds.Basic
import ScanConsole.Proofs.Tabs
import ScanConsole.Proofs.Utf8

/-!
# A caret between two characters

The caret that is kept for a text is found from its beginning on, one character
after the other. It can be said in two other ways: it is the greatest place
between two characters that is no further than the caret reported, and it is
where stepping back from there byte by byte comes to a place between two
characters.

    IsGreatest {m | m ≤ min n text.utf8ByteSize ∧ ⟨m⟩ is valid in text} caret
                                                       (`isGreatest_caretWithin`)
    stepBack? text (min n text.utf8ByteSize) = some caret      (`stepBack?_eq`)

Stepping back ends after three steps at most, since a character has four bytes
at most, and never below zero, since zero is such a place.

No action leaves the caret of the open form anywhere else: a form is opened with
its caret at the end of the text, and text is only written to it together with a
caret for that text. So `caret_usable` holds of every list of actions, and of
every text and every number that is reported for a caret.
-/

namespace ScanConsole

open Text.Utf8 (size)

/-! ## Places between characters

A place is a number of bytes. It lies between two characters if the characters
before it take as many bytes (`isValid_iff`), which ties `String.Pos` to lists
of characters. Stepping back stops at the first such place. -/

/-- Stepping back from a place, byte by byte, to one between two characters; none if that leads below zero. -/
def stepBack? (text : String) : Nat → Option Nat
  | 0 => if (⟨0⟩ : String.Pos.Raw).isValid text then some 0 else none
  | n + 1 => if (⟨n + 1⟩ : String.Pos.Raw).isValid text then some (n + 1) else stepBack? text n

theorem size_eq_utf8ByteSize (s : List Char) : size s = (String.ofList s).utf8ByteSize := by
  rw [← String.size_toByteArray, String.toByteArray_ofList, List.utf8Encode, size, Text.Utf8.encode,
    List.size_toByteArray]

theorem size_toList (text : String) : size text.toList = text.utf8ByteSize := by
  rw [size_eq_utf8ByteSize, String.ofList_toList]

theorem isValid_iff {text : String} {n : Nat} :
    (⟨n⟩ : String.Pos.Raw).IsValid text ↔ ∃ before, before <+: text.toList ∧ n = size before := by
  simp only [String.Pos.Raw.isValid_iff_exists_take_toList, ← size_eq_utf8ByteSize]
  constructor
  · rintro ⟨i, h⟩
    exact ⟨_, List.take_prefix i _, h⟩
  · rintro ⟨before, hbefore, h⟩
    exact ⟨before.length, by rw [← List.prefix_iff_eq_take.mp hbefore, h]⟩

theorem stepBack?_eq_some {text : String} {m n : Nat} (hm : (⟨m⟩ : String.Pos.Raw).IsValid text) (hmn : m ≤ n)
    (hnone : ∀ k, m < k → k ≤ n → ¬(⟨k⟩ : String.Pos.Raw).IsValid text) : stepBack? text n = some m := by
  induction n with
  | zero =>
    obtain rfl := Nat.le_zero.mp hmn
    exact if_pos (String.Pos.Raw.isValid_eq_true_iff.mpr hm)
  | succ n ih =>
    rcases Nat.lt_or_eq_of_le hmn with hlt | rfl
    · have hnot := hnone (n + 1) hlt (Nat.le_refl _)
      rw [stepBack?, if_neg fun h => hnot (String.Pos.Raw.isValid_eq_true_iff.mp h)]
      exact ih (Nat.le_of_lt_succ hlt) fun k hk hkn => hnone k hk (Nat.le_succ_of_le hkn)
    · exact if_pos (String.Pos.Raw.isValid_eq_true_iff.mpr hm)

/-! ## The caret for a text

What is before the caret is a prefix of the text, and no longer prefix fits
before the caret reported. A place between two characters is its own caret, so
keeping a caret twice is keeping it once. -/

theorem caretWithin_le (s : List Char) (n : Nat) : caretWithin s n ≤ n := by
  induction s generalizing n with
  | nil => exact Nat.zero_le n
  | cons c s ih =>
    rw [caretWithin]
    split
    · exact Nat.zero_le n
    · next h =>
      have := ih (n - c.utf8Size)
      omega

theorem exists_prefix_caretWithin (s : List Char) (n : Nat) :
    ∃ before, before <+: s ∧ caretWithin s n = size before := by
  induction s generalizing n with
  | nil => exact ⟨[], List.prefix_rfl, rfl⟩
  | cons c s ih =>
    rw [caretWithin]
    split
    · exact ⟨[], List.nil_prefix, rfl⟩
    · obtain ⟨before, hbefore, h⟩ := ih (n - c.utf8Size)
      exact ⟨c :: before, List.cons_prefix_cons.mpr ⟨rfl, hbefore⟩,
        (congrArg (c.utf8Size + ·) h).trans (Text.Utf8.length_encode_cons c before).symm⟩

theorem size_le_caretWithin {before s : List Char} (h : before <+: s) {n : Nat} (hn : size before ≤ n) :
    size before ≤ caretWithin s n := by
  induction s generalizing before n with
  | nil =>
    rw [List.prefix_nil.mp h]
    exact Nat.le_refl 0
  | cons c s ih =>
    cases before with
    | nil => exact Nat.zero_le _
    | cons d before =>
      obtain ⟨rfl, hbefore⟩ := List.cons_prefix_cons.mp h
      have hsize : size (d :: before) = d.utf8Size + size before := Text.Utf8.length_encode_cons d before
      have := ih hbefore (n := n - d.utf8Size) (by omega)
      rw [caretWithin, if_neg (by omega)]
      omega

theorem le_caretWithin_add (s : List Char) (n : Nat) : min n (size s) ≤ caretWithin s n + 3 := by
  induction s generalizing n with
  | nil => exact Nat.le_trans (Nat.min_le_right n _) (Nat.zero_le _)
  | cons c s ih =>
    have hsize : size (c :: s) = c.utf8Size + size s := Text.Utf8.length_encode_cons c s
    have hfour := c.utf8Size_le_four
    have := ih (n - c.utf8Size)
    rw [caretWithin]
    split <;> omega

/-- The caret is the last place between two characters that is not behind the one reported. -/
theorem isGreatest_caretWithin (text : String) (n : Nat) :
    IsGreatest {m | m ≤ min n text.utf8ByteSize ∧ (⟨m⟩ : String.Pos.Raw).IsValid text}
      (caretWithin text.toList n) := by
  constructor
  · have hvalid := isValid_iff.mpr (exists_prefix_caretWithin text.toList n)
    exact ⟨Nat.le_min.mpr ⟨caretWithin_le _ n, hvalid.le_utf8ByteSize⟩, hvalid⟩
  · rintro m ⟨hm, hvalid⟩
    obtain ⟨before, hbefore, rfl⟩ := isValid_iff.mp hvalid
    exact size_le_caretWithin hbefore (Nat.le_trans hm (Nat.min_le_left _ _))

theorem stepBack?_eq (text : String) (n : Nat) :
    stepBack? text (min n text.utf8ByteSize) = some (caretWithin text.toList n) := by
  obtain ⟨⟨hle, hvalid⟩, hgreatest⟩ := isGreatest_caretWithin text n
  refine stepBack?_eq_some hvalid hle fun k hk hkn hvalid' => ?_
  exact Nat.not_lt.mpr (hgreatest ⟨hkn, hvalid'⟩) hk

theorem caretWithin_eq_self {text : String} {n : Nat} (h : (⟨n⟩ : String.Pos.Raw).IsValid text) :
    caretWithin text.toList n = n := by
  refine Nat.le_antisymm (caretWithin_le _ n) ?_
  exact (isGreatest_caretWithin text n).2 ⟨Nat.le_min.mpr ⟨Nat.le_refl n, h.le_utf8ByteSize⟩, h⟩

/-! ## The open form

The invariant is that of `Editor.Usable` on the form, if one is open. Actions of
other sections leave it alone (`plugins_apply`). -/

/-- The caret can be used: it lies inside the text and between two characters. -/
structure Editor.Usable (e : Editor) : Prop where
  inside : e.caret ≤ e.text.utf8ByteSize
  between : (⟨e.caret⟩ : String.Pos.Raw).IsValid e.text

namespace Editor

theorem Usable.of_between {e : Editor} (h : (⟨e.caret⟩ : String.Pos.Raw).IsValid e.text) : e.Usable :=
  ⟨h.le_utf8ByteSize, h⟩

theorem usable_empty : Usable {} := .of_between String.Pos.Raw.isValid_zero

theorem usable_ofText (text : String) : (ofText text).Usable :=
  .of_between (isValid_iff.mpr ⟨text.toList, List.prefix_rfl, rfl⟩)

theorem usable_input (text : String) (caret : Nat) : (input text caret).Usable :=
  .of_between (isValid_iff.mpr (exists_prefix_caretWithin text.toList caret))

end Editor

theorem PluginForm.usable_ofPlugin (plugin : Option Plugin) : (PluginForm.ofPlugin plugin).code.Usable := by
  cases plugin with
  | none => exact Editor.usable_empty
  | some p => exact Editor.usable_ofText p.body

/-- The action is one of the section of plugins. -/
def Action.isOfPlugins : Action → Bool
  | .pluginsLoaded _ => true
  | .pluginNotice _ => true
  | .pluginEditorOpened _ => true
  | .pluginNameChanged _ => true
  | .pluginCodeInput _ _ => true
  | .pluginSaving _ => true
  | .pluginEditorClosed => true
  | .pluginCreated _ => true
  | .pluginUpdated _ => true
  | .pluginDeleted _ => true
  | _ => false

theorem plugins_fallBack (s : State) : s.fallBack.plugins = s.plugins := by
  rcases fallBack_cases s with ⟨-, h⟩ | ⟨t, -, h⟩
  · rw [h]
  · rw [h]

theorem plugins_apply {a : Action} (ha : a.isOfPlugins = false) (s : State) :
    (s.apply a).plugins = s.plugins := by
  cases a with
  | pluginsLoaded items => cases ha
  | pluginNotice notice => cases ha
  | pluginEditorOpened plugin => cases ha
  | pluginNameChanged name => cases ha
  | pluginCodeInput text caret => cases ha
  | pluginSaving saving => cases ha
  | pluginEditorClosed => cases ha
  | pluginCreated plugin => cases ha
  | pluginUpdated plugin => cases ha
  | pluginDeleted id => cases ha
  | executionDismissed id =>
    show (s.dismiss id).plugins = _
    obtain ⟨xs, h⟩ := dismiss_eq s id
    rw [h]
  | tabRefreshed id results logs time =>
    show (s.refreshTab id results logs time).plugins = _
    rcases refreshTab_eq s id results logs time with h | ⟨f, xs, -, -, h⟩
    · rw [h]
    · rw [h]
      rfl
  | tabRefreshFailed id session time =>
    show (s.failRefresh id session time).plugins = _
    rcases failRefresh_eq s id session time with h | ⟨f, xs, -, -, h⟩
    · rw [h]
    · rw [h]
      rfl
  | tabActivated id =>
    show (s.activate id).plugins = _
    rcases activate_cases s id with h | ⟨t, -, -, h⟩
    · rw [h]
    · rw [h]
  | tabClosed id =>
    show (s.closeTab id).plugins = _
    rcases closeTab_cases s id with ⟨h, -⟩ | ⟨old, before, after, -, -, -, -, h⟩
    · rw [h]
    · rw [h]
      split
      · exact plugins_fallBack _
      · rfl
  | tabsClosedAll =>
    show s.closeAllTabs.plugins = _
    rw [closeAllTabs_eq]
    split
    · rfl
    · exact plugins_fallBack _
  | _ => rfl

theorem usable_apply {s : State} (h : ∀ form ∈ s.plugins.form, form.code.Usable) (a : Action) :
    ∀ form ∈ (s.apply a).plugins.form, form.code.Usable := by
  have hform (f : PluginForm → PluginForm) (hf : ∀ form : PluginForm, form.code.Usable → (f form).code.Usable) :
      ∀ form ∈ s.plugins.form.map f, form.code.Usable := by
    intro form hmem
    obtain ⟨form', hform', rfl⟩ := Option.mem_map.mp hmem
    exact hf form' (h form' hform')
  cases a with
  | pluginEditorOpened plugin =>
    intro form hmem
    rw [← Option.mem_some.mp hmem]
    exact PluginForm.usable_ofPlugin plugin
  | pluginNameChanged name => exact hform _ fun _ hused => hused
  | pluginCodeInput text caret => exact hform _ fun _ _ => Editor.usable_input text caret
  | pluginSaving saving => exact hform _ fun _ hused => hused
  | pluginEditorClosed =>
    intro form hmem
    cases hmem
  | pluginsLoaded items => exact h
  | pluginNotice notice => exact h
  | pluginCreated plugin => exact h
  | pluginUpdated plugin => exact h
  | pluginDeleted id => exact h
  | _ =>
    rw [plugins_apply rfl s]
    exact h

theorem usable_applyAll (actions : List Action) {s : State} (h : ∀ form ∈ s.plugins.form, form.code.Usable) :
    ∀ form ∈ (s.applyAll actions).plugins.form, form.code.Usable := by
  induction actions generalizing s with
  | nil => exact h
  | cons a actions ih => exact ih (usable_apply h a)

/-- Whatever actions the console has taken, the caret of the open form can be used. And whatever text and caret
are reported: the text is taken as it is, with the caret on the last place between two characters that is behind
neither the caret reported nor the text. Stepping back from there leads to that place, in three steps at most,
and to report it again changes nothing. -/
theorem caret_usable :
    (∀ actions form, (State.applyAll {} actions).plugins.form = some form → form.code.Usable) ∧
    ∀ (text : String) (caret : Nat),
      let e := Editor.input text caret
      e.text = text ∧
      IsGreatest {n | n ≤ min caret text.utf8ByteSize ∧ (⟨n⟩ : String.Pos.Raw).IsValid text} e.caret ∧
      stepBack? text (min caret text.utf8ByteSize) = some e.caret ∧
      min caret text.utf8ByteSize ≤ e.caret + 3 ∧
      Editor.input text e.caret = e := by
  constructor
  · intro actions form hform
    exact usable_applyAll actions (fun form hmem => by cases hmem) form hform
  · intro text caret e
    refine ⟨rfl, isGreatest_caretWithin text caret, stepBack?_eq text caret, ?_, ?_⟩
    · rw [← size_toList]
      exact le_caretWithin_add text.toList caret
    · exact congrArg (Editor.mk text) (caretWithin_eq_self (Editor.usable_input text caret).between)

/-- The caret reported lies inside the letter of two bytes. -/
theorem caret_usable_behind_letter :
    ∃ form, (State.applyAll {} [.pluginEditorOpened none, .pluginCodeInput "echo é!" 6]).plugins.form = some form ∧
      form.code.caret = 5 ∧ form.code.Usable := by
  refine ⟨{ code := .input "echo é!" 6 }, rfl, by decide, ?_⟩
  exact caret_usable.1 [.pluginEditorOpened none, .pluginCodeInput "echo é!" 6] _ rfl

end ScanConsole
