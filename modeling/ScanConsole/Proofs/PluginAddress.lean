import Mathlib.Data.List.TakeWhile
import ScanConsole.Backend.Client
import ScanConsole.Proofs.Segments

/-!
# Where operations on a plugin go

A plugin is changed and deleted by requests to a path that ends in its
identifier as it is, not encoded. The path is then read like any other text: a
slash in it ends a segment, a question mark or a number sign ends the path, dots
stand for directories, tabs and line ends are left out, and what looks encoded
is taken to be. `PluginId.isSegment` says that nothing of this happens to an
identifier.

At a base that paths can be joined to,

    id.isSegment special ↔ the endpoint is `/api/plugins/` and one segment,
                           which is decoded to the text of `id`

(`plugin_addressed`). The operations on these identifiers send their requests to
this address, and different ones among them are addressed by different requests.
Others may share the request of another plugin (`deletion_of_other_plugin`).

That a backend reads the segment by decoding it is the usual way and an
assumption of nothing here: the theorem says what the requests are. At a file
nothing is sent, and to a base without segments nothing can be joined, so these
two are left out.

## The two directions

Left to right, each step of the reading is followed on the identifier: nothing
is cut off at its end (`Url.cleanEnd`), it is one piece between slashes, and it
is not the name of a directory. What is then encoded in it is decoded again,
since a percent sign in front of two hexadecimal digits is excluded.

Right to left, the segment at the end of the path is known, and it is asked what
identifiers lead to it (`PluginId.isSegment_of_mem`).
-/

namespace ScanConsole

open Text.Utf8 (encode)

namespace Url

/-! ## What is left of the end of a text

Blanks at the end of an address are cut off, and tabs and line ends anywhere. -/

/-- What `clean` leaves of a text that does not start with a blank. -/
def cleanEnd (s : List Char) : List Char :=
  ((s.reverse.dropWhile fun c => c.toNat ≤ 0x20).reverse).filter fun c =>
    c != '\t' && c != '\n' && c != '\r'

theorem cleanEnd_sublist (s : List Char) : (cleanEnd s).Sublist s := by
  have hend : ((s.reverse.dropWhile fun c => c.toNat ≤ 0x20).reverse).Sublist s := by
    have h := (List.dropWhile_sublist (l := s.reverse) fun c : Char => c.toNat ≤ 0x20).reverse
    rwa [List.reverse_reverse] at h
  exact List.filter_sublist.trans hend

theorem cleanEnd_eq_self {s : List Char} (hend : ∀ c ∈ s.getLast?, 0x20 < c.toNat)
    (hin : ∀ c ∈ s, c ≠ '\t' ∧ c ≠ '\n' ∧ c ≠ '\r') : cleanEnd s = s := by
  have hdrop : (s.reverse.dropWhile fun c => c.toNat ≤ 0x20) = s.reverse := by
    obtain rfl | ⟨r, c, rfl⟩ := List.eq_nil_or_concat s
    · rfl
    · have hc : 0x20 < c.toNat := hend c (by simp)
      simp [Nat.not_le.mpr hc]
  rw [cleanEnd, hdrop, List.reverse_reverse, List.filter_eq_self]
  intro c hc
  obtain ⟨htab, hfeed, hreturn⟩ := hin c hc
  simp [htab, hfeed, hreturn]

theorem of_cleanEnd_eq_self {s : List Char} (h : cleanEnd s = s) :
    (∀ c ∈ s.getLast?, 0x20 < c.toNat) ∧ ∀ c ∈ s, c ≠ '\t' ∧ c ≠ '\n' ∧ c ≠ '\r' := by
  constructor
  · intro c hc
    obtain ⟨r, rfl⟩ := List.getLast?_eq_some_iff.mp hc
    -- a blank at the end would have been left out
    refine Nat.lt_of_not_le ?_
    intro hblank
    have hshort : (cleanEnd (r ++ [c])).Sublist r := by
      have hsame : cleanEnd (r ++ [c]) = cleanEnd r := by
        unfold cleanEnd
        simp [hblank]
      exact hsame ▸ cleanEnd_sublist r
    have hlength := hshort.length_le
    rw [h, List.length_append, List.length_singleton] at hlength
    omega
  · intro c hc
    rw [← h] at hc
    have hkept := (List.mem_filter.mp hc).2
    simpa [and_assoc] using hkept

/-! ## The address of a plugin

The path begins with two segments that are kept in any case, and the rest is
what is made of the identifier. -/

theorem clean_append {p : List Char} (hne : p ≠ []) (h : (p.all fun c => 0x20 < c.toNat) = true)
    (s : List Char) : clean (p ++ s) = p ++ cleanEnd s := by
  have h : ∀ c ∈ p, 0x20 < c.toNat := fun c hc => of_decide_eq_true (List.all_eq_true.mp h c hc)
  have hstay {q : List Char} (hq : q ≠ []) (hseen : ∀ c ∈ q, 0x20 < c.toNat) (t : List Char) :
      ((q ++ t).dropWhile fun c => decide (c.toNat ≤ 0x20)) = q ++ t := by
    obtain ⟨c, q, rfl⟩ := List.exists_cons_of_ne_nil hq
    exact List.dropWhile_cons_of_neg (by simpa using hseen c List.mem_cons_self)
  have hend := hstay (List.reverse_ne_nil_iff.mpr hne) (fun c hc => h c (List.mem_reverse.mp hc)) []
  rw [List.append_nil] at hend
  have hkept : (p.filter fun c => c != '\t' && c != '\n' && c != '\r') = p := by
    refine List.filter_eq_self.mpr fun c hc => ?_
    have hother {d : Char} (hd : d.toNat ≤ 0x20) : c ≠ d := by
      rintro rfl
      exact Nat.not_le.mpr (h c hc) hd
    simp [hother (d := '\t') (by decide), hother (d := '\n') (by decide), hother (d := '\r') (by decide)]
  dsimp only [clean, cleanEnd]
  rw [hstay hne h, List.reverse_append, List.dropWhile_append]
  split
  · next hblank =>
    rw [hend, List.reverse_reverse, hkept, List.isEmpty_iff.mp hblank]
    simp
  · rw [List.reverse_append, List.reverse_reverse, List.filter_append, hkept]

theorem scheme?_slash (s : List Char) : scheme? ('/' :: s) = none := by
  have hsplit : Text.splitOnce? ':' ('/' :: s) =
      (Text.splitOnce? ':' s).map fun r => ('/' :: r.1, r.2) := rfl
  unfold scheme?
  rw [hsplit]
  cases Text.splitOnce? ':' s with
  | none => rfl
  | some r => rfl

theorem scheme_fileAtRoot (base : Option Url) (s : List Char) :
    (fileAtRoot base s).scheme = "file".toList := by
  unfold fileAtRoot
  repeat' split
  all_goals rfl

variable {b : Url} {ss : List (List Char)} (hpath : b.path = .segments ss)
  (hfile : b.scheme ≠ "file".toList)

include hpath hfile in
/-- A path of the interface leads to an address of the same scheme and authority. -/
theorem join?_api {text : String} {rest : List Char}
    (hclean : clean text.toList = "/api/".toList ++ rest) :
    b.join? text = some (withPath b.scheme b.authority root ("api/".toList ++ rest)) := by
  have hscheme : (b.scheme == "file".toList) = false := beq_eq_false_iff_ne.mpr hfile
  have hnone : scheme? ("/api/".toList ++ rest) = none := scheme?_slash _
  unfold join? resolve?
  simp only [hclean, hnone, hpath, hscheme]
  rfl

include hpath hfile in
theorem join?_plugin (id : PluginId) :
    b.join? (Client.pluginPath id) =
      some (withPath b.scheme b.authority root ("api/plugins/".toList ++ cleanEnd id.text.toList)) := by
  have htext : (Client.pluginPath id).toList = "/api/plugins/".toList ++ id.text.toList :=
    String.toList_append
  have hclean : clean (Client.pluginPath id).toList =
      "/api/".toList ++ ("plugins/".toList ++ cleanEnd id.text.toList) := by
    rw [htext, clean_append (p := "/api/plugins/".toList) (by decide) rfl]
    rfl
  exact join?_api hpath hfile hclean

theorem withPath_of_pathText {s : List Char} (h : pathText s = s) (scheme : List Char)
    (authority : Option Authority) (path : List (List Char)) :
    withPath scheme authority path s =
      ⟨scheme, authority, (withPath scheme authority path s).path, none, none⟩ := by
  dsimp only [withPath]
  rw [h, List.drop_length]
  rfl

theorem pieces_plugin (special : Bool) (s : List Char) :
    pieces special ("api/plugins/".toList ++ s) =
      "api".toList :: "plugins".toList :: pieces special s := by
  have hslash : isSlash special '/' = true := rfl
  have hplain : (∀ c ∈ "api".toList, isSlash special c = false) ∧
      ∀ c ∈ "plugins".toList, isSlash special c = false := by
    simp [isSlash]
  have htext : pathText ("api/plugins/".toList ++ s) =
      "api".toList ++ '/' :: ("plugins".toList ++ '/' :: pathText s) := rfl
  rw [pieces, htext, Text.splitAtEach_append hslash hplain.1, Text.splitAtEach_append hslash hplain.2]
  rfl

theorem addSegments_plugin {ps : List (List Char)} (hne : ps ≠ []) :
    addSegments false root ("api".toList :: "plugins".toList :: ps) =
      addSegments false [[], "plugins".toList, "api".toList] ps := by
  obtain ⟨p, ps, rfl⟩ := List.exists_cons_of_ne_nil hne
  rfl

theorem withPath_plugin {scheme : List Char} (hfile : scheme ≠ "file".toList)
    (authority : Option Authority) (s : List Char) :
    (withPath scheme authority root ("api/plugins/".toList ++ s)).path =
      .segments (addSegments false [[], "plugins".toList, "api".toList] (pieces (isSpecial scheme) s)) := by
  have hscheme : (scheme == "file".toList) = false := beq_eq_false_iff_ne.mpr hfile
  have hne : pieces (isSpecial scheme) s ≠ [] := by
    intro hnil
    have hsplit := List.map_eq_nil_iff.mp hnil
    exact Text.splitAtEach_ne_nil hsplit
  show Path.segments _ = _
  rw [← addSegments_plugin hne, ← pieces_plugin]
  simp only [hscheme, Bool.false_eq_true, if_false]

end Url

/-! ## Identifiers that stand for themselves

A backslash ends a segment at the base of a special scheme only. -/

/-- The identifier is a segment of a path that stands for itself. -/
def PluginId.isSegment (special : Bool) (id : PluginId) : Bool :=
  let s := id.text.toList
  s.all (fun c => !Url.endsAuthority special c && c != '\t' && c != '\n' && c != '\r') &&
    s.getLast?.all (fun c => 0x20 < c.toNat) && s != ['.'] && s != ['.', '.'] && !Url.hasEscape s

namespace PluginId

variable {special : Bool} {id : PluginId}

theorem isSegment_iff :
    id.isSegment special = true ↔
      (∀ c ∈ id.text.toList,
        Url.endsAuthority special c = false ∧ c ≠ '\t' ∧ c ≠ '\n' ∧ c ≠ '\r') ∧
      (∀ c ∈ id.text.toList.getLast?, 0x20 < c.toNat) ∧
      id.text.toList ≠ ['.'] ∧ id.text.toList ≠ ['.', '.'] ∧
      Url.hasEscape id.text.toList = false := by
  simp [isSegment, and_assoc, Option.all_eq_true]

theorem pieces_of_isSegment (h : id.isSegment special = true) :
    Url.cleanEnd id.text.toList = id.text.toList ∧ Url.pathText id.text.toList = id.text.toList ∧
      Url.pieces special id.text.toList = [Url.percentEncode Url.inPathSet id.text.toList] := by
  obtain ⟨hin, hend, -⟩ := isSegment_iff.mp h
  have hends (c : Char) (hc : c ∈ id.text.toList) :
      Url.isSlash special c = false ∧ c ≠ '?' ∧ c ≠ '#' := by
    have hno := (hin c hc).1
    simpa [Url.endsAuthority, and_assoc] using hno
  have hpath : Url.pathText id.text.toList = id.text.toList := by
    refine List.takeWhile_eq_self_iff.mpr ?_
    intro c hc
    simp [hends c hc]
  refine ⟨Url.cleanEnd_eq_self hend fun c hc => (hin c hc).2, hpath, ?_⟩
  rw [Url.pieces, hpath, Text.splitAtEach_of_forall fun c hc => (hends c hc).1]
  rfl

theorem isDots_of_isSegment (h : id.isSegment special = true) :
    Url.isDots (Url.percentEncode Url.inPathSet id.text.toList) = false := by
  obtain ⟨-, -, hone, htwo, hescape⟩ := isSegment_iff.mp h
  rw [← Bool.not_eq_true]
  intro hdots
  have hdecode := Url.percentDecode_percentEncode hescape
  obtain heq | heq := Url.percentDecode_of_isDots hdots
  · exact hone (Text.Utf8.encode_injective (hdecode.symm.trans heq))
  · exact htwo (Text.Utf8.encode_injective (hdecode.symm.trans heq))

/-- A segment that stands for an identifier and is what the path makes of it: then the identifier is one that
stands for itself. -/
theorem isSegment_of_mem {segment : List Char}
    (hmem : segment ∈ Url.addSegments false [[], "plugins".toList, "api".toList]
      (Url.pieces special (Url.cleanEnd id.text.toList)))
    (hdecode : Url.percentDecode segment = encode id.text.toList) : id.isSegment special = true := by
  have hsame {s : List Char} (hs : Url.percentDecode segment = encode s) : id.text.toList = s :=
    Text.Utf8.encode_injective (hdecode.symm.trans hs)
  obtain rfl | hfixed | ⟨hpiece, hdots⟩ := Url.mem_addSegments hmem
  · have hid := hsame (s := []) Url.percentDecode_nil
    simp [isSegment, hid, Url.hasEscape]
  · -- the identifier is the name of a directory above it
    simp only [List.mem_cons, List.not_mem_nil, or_false] at hfixed
    obtain rfl | rfl := hfixed
    · have hid := hsame (Url.percentDecode_percentEncode (s := "plugins".toList) rfl)
      unfold isSegment
      rw [hid]
      cases special <;> rfl
    · have hid := hsame (Url.percentDecode_percentEncode (s := "api".toList) rfl)
      unfold isSegment
      rw [hid]
      cases special <;> rfl
  · obtain ⟨piece, hsplit, rfl⟩ := List.mem_map.mp hpiece
    obtain ⟨hslash, hsub⟩ := Text.of_mem_splitAtEach hsplit
    have hpath : (Url.pathText (Url.cleanEnd id.text.toList)).Sublist (Url.cleanEnd id.text.toList) :=
      List.takeWhile_sublist _
    have hclean := Url.cleanEnd_sublist id.text.toList
    have hlength := Url.length_percentDecode piece
    rw [hdecode] at hlength
    -- nothing was left out, as that would show in the number of bytes
    obtain rfl : piece = id.text.toList :=
      Text.Utf8.eq_of_sublist (hsub.trans (hpath.trans hclean)) hlength.1
    have hcleaned : Url.cleanEnd id.text.toList = id.text.toList :=
      hclean.eq_of_length_le (hsub.trans hpath).length_le
    rw [hcleaned] at hsub hpath
    have hwhole : Url.pathText id.text.toList = id.text.toList := hpath.eq_of_length_le hsub.length_le
    have hmarks := List.takeWhile_eq_self_iff.mp hwhole
    obtain ⟨hend, hin⟩ := Url.of_cleanEnd_eq_self hcleaned
    refine isSegment_iff.mpr ⟨fun c hc => ⟨?_, hin c hc⟩, hend, ?_, ?_, ?_⟩
    · have hmark := hmarks c hc
      simp only [Bool.and_eq_true, bne_iff_ne] at hmark
      simp [Url.endsAuthority, hslash c hc, hmark.1, hmark.2]
    · intro heq
      rw [heq] at hdots
      cases hdots
    · intro heq
      rw [heq] at hdots
      cases hdots
    · rw [← Bool.not_eq_true]
      exact fun hescape => Nat.lt_irrefl _ (hlength.2 hescape)

end PluginId

/-! ## Requests

A request is made for the endpoint of its path, and arrives if it can be sent
and anything arrives at all. -/

namespace Client

/-- The address of a segment among the plugins of the backend at `b`. -/
def pluginUrl (b : Url) (segment : List Char) : Url :=
  ⟨b.scheme, b.authority, .segments ["api".toList, "plugins".toList, segment], none, none⟩

/-- A request as it arrives: not if it cannot be sent or nothing arrives at all. -/
def arriving (c : Client) (r : Http.Request) : List Http.Request :=
  if r.isSendable && c.network.reachable then [r] else []

/-- The operations on a plugin send one request each, to this address. -/
structure Addresses (c : Client) (id : PluginId) (url : Url) : Prop where
  update : ∀ d, ∃ r, c.request "PUT" (pluginPath id) [] (some d.toJson) = .ok r ∧ r.url = url ∧
    (c.updatePlugin id d).2.network.sent = c.network.sent ++ c.arriving r
  delete : ∃ r, c.request "DELETE" (pluginPath id) [] none = .ok r ∧ r.url = url ∧
    (c.deletePlugin id).2.network.sent = c.network.sent ++ c.arriving r

theorem sent_of_exchange (n : Http.Network) (r : Http.Request) :
    (n.exchange r).2.sent = n.sent ++ if n.reachable then [r] else [] := by
  unfold Http.Network.exchange
  cases hreachable : n.reachable with
  | false => simp
  | true =>
    simp only [Bool.not_true, Bool.false_eq_true, if_false, if_true]
    split <;> rfl

theorem sent_of_send {c : Client} {method path : String} {headers : List (String × String)}
    {body : Option Json.Value} {r : Http.Request} (h : c.request method path headers body = .ok r) :
    (c.send method path headers body).2.network.sent = c.network.sent ++ c.arriving r := by
  have hexchange := sent_of_exchange c.network r
  unfold send arriving
  rw [h]
  cases hsendable : r.isSendable with
  | false => simp [hsendable]
  | true => simpa [hsendable] using hexchange

theorem exists_request {c : Client} {url : Url} {path : String} (h : c.config.endpoint path = .ok url)
    (method : String) (headers : List (String × String)) (body : Option Json.Value) :
    ∃ r, c.request method path headers body = .ok r ∧ r.url = url := by
  unfold request
  rw [h]
  exact ⟨_, rfl, rfl⟩

theorem endpoint_of_request {c : Client} {method path : String} {headers : List (String × String)}
    {body : Option Json.Value} {r : Http.Request} (h : c.request method path headers body = .ok r) :
    c.config.endpoint path = .ok r.url := by
  unfold request at h
  split at h
  · cases h
  · next url hurl =>
    obtain rfl := Except.ok.inj h
    exact hurl

theorem url_of_request {c : Client} {url : Url} {method path : String}
    {headers : List (String × String)} {body : Option Json.Value} {r : Http.Request}
    (h : c.config.endpoint path = .ok url) (hr : c.request method path headers body = .ok r) :
    r.url = url :=
  Except.ok.inj ((endpoint_of_request hr).symm.trans h)

theorem addresses_of_endpoint {c : Client} {id : PluginId} {url : Url}
    (h : c.config.endpoint (pluginPath id) = .ok url) : c.Addresses id url where
  update := by
    intro d
    obtain ⟨r, hr, hurl⟩ := exists_request h "PUT" [] (some d.toJson)
    exact ⟨r, hr, hurl, sent_of_send hr⟩
  delete := by
    obtain ⟨r, hr, hurl⟩ := exists_request h "DELETE" [] none
    exact ⟨r, hr, hurl, sent_of_send hr⟩

section
variable {c : Client} {b : Url} {ss : List (List Char)} (hbase : c.config.base = .ok b)
  (hpath : b.path = .segments ss) (hfile : b.scheme ≠ "file".toList)
include hbase hpath hfile

theorem endpoint_plugin (id : PluginId) :
    c.config.endpoint (pluginPath id) =
      .ok (Url.withPath b.scheme b.authority Url.root
        ("api/plugins/".toList ++ Url.cleanEnd id.text.toList)) := by
  unfold Config.endpoint
  rw [hbase]
  simp only [Url.join?_plugin hpath hfile]

theorem endpoint_of_isSegment {id : PluginId} (h : id.isSegment (Url.isSpecial b.scheme) = true) :
    c.config.endpoint (pluginPath id) =
      .ok (pluginUrl b (Url.percentEncode Url.inPathSet id.text.toList)) := by
  obtain ⟨hclean, htext, hpieces⟩ := PluginId.pieces_of_isSegment h
  have hplain : ∀ s ∈ [Url.percentEncode Url.inPathSet id.text.toList], Url.isDots s = false := by
    intro s hs
    obtain rfl := List.mem_singleton.mp hs
    exact PluginId.isDots_of_isSegment h
  have hurl := Url.withPath_plugin hfile b.authority id.text.toList
  rw [hpieces, Url.addSegments_of_plain (List.cons_ne_nil _ _) hplain] at hurl
  have hwhole : Url.pathText ("api/plugins/".toList ++ id.text.toList) =
      "api/plugins/".toList ++ id.text.toList := by
    show "api/plugins/".toList ++ Url.pathText id.text.toList = _
    rw [htext]
  rw [endpoint_plugin hbase hpath hfile, hclean, Url.withPath_of_pathText hwhole, hurl]
  rfl

/-- An identifier that is addressed as a segment that stands for it stands for itself. -/
theorem isSegment_of_endpoint {id : PluginId} {url : Url} {segment : List Char}
    (hurl : c.config.endpoint (pluginPath id) = .ok url)
    (hsegments : url.path = .segments ["api".toList, "plugins".toList, segment])
    (hdecode : Url.percentDecode segment = encode id.text.toList) :
    id.isSegment (Url.isSpecial b.scheme) = true := by
  rw [endpoint_plugin hbase hpath hfile] at hurl
  obtain rfl := Except.ok.inj hurl
  rw [Url.withPath_plugin hfile] at hsegments
  refine PluginId.isSegment_of_mem ?_ hdecode
  rw [Url.Path.segments.inj hsegments]
  simp

end

end Client

/-! ## What is addressed

The target of a request is its path and query; of two identifiers that stand for
themselves the segments are different, since they are decoded to different
texts. -/

theorem Url.not_mem_percentEncode {inSet : Char → Bool} {s : List Char} {c : Char}
    (hdigit : ∀ n < 16, Text.hexCapital n ≠ c) (hsign : c ≠ '%') (h : c ∈ s → inSet c = true) :
    c ∉ percentEncode inSet s := by
  intro hmem
  obtain ⟨d, hd, hc⟩ := List.mem_flatMap.mp hmem
  split at hc
  · obtain ⟨b, -, hb⟩ := List.mem_flatMap.mp hc
    have hlt := b.toNat_lt
    simp only [percentByte, List.mem_cons, List.not_mem_nil, or_false] at hb
    obtain rfl | rfl | rfl := hb
    · exact hsign rfl
    · exact hdigit _ (by omega) rfl
    · exact hdigit _ (by omega) rfl
  · next hset =>
    obtain rfl := List.mem_singleton.mp hc
    exact hset (h hd)

theorem Client.target_of_pluginUrl {r : Http.Request} {b : Url} {segment : List Char}
    (h : r.url = pluginUrl b segment) :
    r.target = String.ofList ("/api/plugins/".toList ++ segment) := by
  unfold Http.Request.target
  rw [h]
  show String.ofList ((Url.Path.segments ["api".toList, "plugins".toList, segment]).text ++ []) = _
  simp [Url.Path.text]

open Client in
/-- At a base that paths can be joined to, exactly the identifiers that stand for themselves are addressed
below the plugins as one segment that is decoded to them. For these the two operations on a plugin send
their requests there, and requests for different ones go to different targets. -/
theorem plugin_addressed {c : Client} {b : Url} {ss : List (List Char)} (hbase : c.config.base = .ok b)
    (hpath : b.path = .segments ss) (hfile : b.scheme ≠ "file".toList) :
    (∀ id : PluginId, id.isSegment (Url.isSpecial b.scheme) = true ↔
      ∃ url segment, c.config.endpoint (pluginPath id) = .ok url ∧
        url.path = .segments ["api".toList, "plugins".toList, segment] ∧
        Url.percentDecode segment = Text.Utf8.bytesOf id.text) ∧
    (∀ id : PluginId, id.isSegment (Url.isSpecial b.scheme) = true →
      ∃ segment, '/' ∉ segment ∧ '?' ∉ segment ∧
        Url.percentDecode segment = Text.Utf8.bytesOf id.text ∧ c.Addresses id (pluginUrl b segment)) ∧
    ∀ id id' : PluginId, id.isSegment (Url.isSpecial b.scheme) = true →
      id'.isSegment (Url.isSpecial b.scheme) = true → id ≠ id' →
      ∀ method method' headers headers' body body' r r',
        c.request method (pluginPath id) headers body = .ok r →
        c.request method' (pluginPath id') headers' body' = .ok r' → r.target ≠ r'.target := by
  have hdecode {id : PluginId} (h : id.isSegment (Url.isSpecial b.scheme) = true) :
      Url.percentDecode (Url.percentEncode Url.inPathSet id.text.toList) =
        Text.Utf8.bytesOf id.text := by
    obtain ⟨-, -, -, -, hescape⟩ := PluginId.isSegment_iff.mp h
    exact Url.percentDecode_percentEncode hescape
  have hendpoint {id : PluginId} (h : id.isSegment (Url.isSpecial b.scheme) = true) :=
    endpoint_of_isSegment hbase hpath hfile h
  refine ⟨?_, ?_, ?_⟩
  · intro id
    constructor
    · intro h
      exact ⟨_, _, hendpoint h, rfl, hdecode h⟩
    · rintro ⟨url, segment, hurl, hsegments, hbytes⟩
      exact isSegment_of_endpoint hbase hpath hfile hurl hsegments hbytes
  · intro id h
    refine ⟨_, ?_, ?_, hdecode h, addresses_of_endpoint (hendpoint h)⟩
    · refine Url.not_mem_percentEncode (by decide) (by decide) ?_
      intro hslash
      have hno := ((PluginId.isSegment_iff.mp h).1 '/' hslash).1
      cases hno
    · exact Url.not_mem_percentEncode (by decide) (by decide) fun _ => rfl
  · intro id id' h h' hne method method' headers headers' body body' r r' hr hr' htarget
    rw [target_of_pluginUrl (url_of_request (hendpoint h) hr),
      target_of_pluginUrl (url_of_request (hendpoint h') hr')] at htarget
    have hsegment := List.append_cancel_left (String.ofList_injective htarget)
    have hbytes : Text.Utf8.bytesOf id.text = Text.Utf8.bytesOf id'.text := by
      rw [← hdecode h, ← hdecode h', hsegment]
    have htext := String.toList_injective (Text.Utf8.encode_injective hbytes)
    exact hne (congrArg PluginId.mk htext)

def Client.loopbackUrl : Url :=
  ⟨"http".toList, some { host := .address6 [0, 0, 0, 0, 0, 0, 0, 1], port := some 8000 },
    .segments [[]], none, none⟩

/-- A client of it that has sent nothing yet. -/
def Client.loopback : Client := { config := { baseUrl := "http://[::1]:8000" } }

open Client in
theorem plugin_addressed_with_space :
    loopback.config.base = .ok loopbackUrl ∧ loopbackUrl.path = .segments [[]] ∧
      loopbackUrl.scheme ≠ "file".toList ∧
      (PluginId.mk "disk usage.sh").isSegment (Url.isSpecial loopbackUrl.scheme) = true ∧
      ∃ segment, '/' ∉ segment ∧ '?' ∉ segment ∧
        Url.percentDecode segment = Text.Utf8.bytesOf "disk usage.sh" ∧
        loopback.Addresses ⟨"disk usage.sh"⟩ (pluginUrl loopbackUrl segment) := by
  have hbase : loopback.config.base = .ok loopbackUrl := rfl
  have hfile : loopbackUrl.scheme ≠ "file".toList := by decide
  have hid : (PluginId.mk "disk usage.sh").isSegment (Url.isSpecial loopbackUrl.scheme) = true := rfl
  exact ⟨hbase, rfl, hfile, hid, (plugin_addressed hbase rfl hfile).2.1 _ hid⟩

open Client in
/-- Two plugins whose names differ, and whose changes and deletions go to one of them. -/
theorem deletion_of_other_plugin :
    let requests (id : PluginId) :=
      (((loopback.updatePlugin id ⟨"disk", "df"⟩).2.deletePlugin id).2.network.sent).map
        fun r => (r.method, r.target)
    loopback.config.base = .ok loopbackUrl ∧ loopbackUrl.path = .segments [[]] ∧
      PluginId.mk "disk" ≠ ⟨"disk#1"⟩ ∧
      requests ⟨"disk"⟩ = [("PUT", "/api/plugins/disk"), ("DELETE", "/api/plugins/disk")] ∧
      requests ⟨"disk#1"⟩ = [("PUT", "/api/plugins/disk"), ("DELETE", "/api/plugins/disk")] := by
  refine ⟨rfl, rfl, ?_, rfl, rfl⟩
  decide

end ScanConsole
