import ScanConsole.Backend.Transports
import ScanConsole.Proofs.PluginAddress

/-!
# Where executions go

A configuration is accepted if its base can be read and its path for executions
starts with a slash. The path is then joined to the base like any other
reference, so behind two slashes it names a host, and to a base without segments
it cannot be joined at all. `Url.StaysOn` says that it can and that it names no
host but that of the base, with its port.

    accepted → ((∃ endpoint on the origin of the base) ↔ base.StaysOn path)

holds of every base that is no file (`execution_on_origin`), and the requests of
executions go to the endpoint. There are accepted configurations of which the
left side is not so (`execution_elsewhere`): the execution goes, with the token,
to the host that the path names.

## Files

A file has no origin that requests could go to, and no request is ever sent to
one. Its host is read by rules of its own, so it is kept apart: a file without a
host stays one if the path names no host, and joining never leads from a file to
anything else.

## Origins

The origin is the scheme, the host and the port. A port that is the usual one of
the scheme is left out on both sides, so `//host:80` names the host of an `http`
base without a port.
-/

namespace ScanConsole

namespace Url

/-! ## Origins

What is behind the authority of an address is not part of its origin. -/

/-- The host and the port, which is left out if it is the usual one of the scheme. -/
def Authority.place (a : Authority) : Host × Option Nat := (a.host, a.port)

/-- The scheme, the host and the port of an address. -/
def origin (u : Url) : List Char × Option (Host × Option Nat) := (u.scheme, u.authority.map Authority.place)

theorem origin_withPathStart (scheme : List Char) (authority : Option Authority) (s : List Char) :
    (withPathStart scheme authority s).origin = (scheme, authority.map Authority.place) := by
  dsimp only [withPathStart]
  repeat' split
  all_goals rfl

/-! ## References from the root

Leading blanks and all tabs and line ends are left out of the reference before
it is read (`clean`); the first character is a slash still. -/

/-- What stands behind the slashes at the head of a reference, if there are two, so that it names a host. -/
def behindSlashes? : List Char → Option (List Char)
  | '/' :: '/' :: rest => some rest
  | a :: b :: rest =>
    if isSlash true a && isSlash true b then some (rest.dropWhile (isSlash true)) else none
  | _ => none

/-- The path can be joined to the base, and names no host but that of the base, with its port. -/
def StaysOn (b : Url) (path : String) : Prop :=
  (∃ ss, b.path = .segments ss) ∧
    ∀ behind, behindSlashes? (clean path.toList) = some behind →
      ∃ a rest, authority? b.scheme behind = some (a, rest) ∧ b.authority.map Authority.place = some a.place

variable {b u : Url} {path : String} (hslash : path.toList.head? = some '/')

include hslash in
theorem exists_clean : ∃ rest, clean path.toList = '/' :: rest := by
  obtain ⟨rest, hrest⟩ := List.head?_eq_some_iff.mp hslash
  rw [hrest]
  exact ⟨_, clean_append (p := ['/']) (List.cons_ne_nil _ _) rfl rest⟩

include hslash in
theorem join?_of_plain {text : List Char} (hpath : b.path = .plain text) : b.join? path = none := by
  obtain ⟨rest, hclean⟩ := exists_clean hslash
  unfold join? resolve?
  simp only [hclean, scheme?_slash, hpath]
  rfl

theorem relative?_slash (b : Url) (ss : List (List Char)) (rest : List Char) :
    relative? b ss ('/' :: rest) =
      match behindSlashes? ('/' :: rest) with
      | some behind => afterSlashes? b.scheme behind
      | none => some (withPath b.scheme b.authority root rest) := by
  have hfirst : isSlash true '/' = true := rfl
  -- two slashes are read for themselves; with a backslash among them, all that follow go with them
  cases rest with
  | nil => rfl
  | cons d rest =>
    by_cases hd : d = '/'
    · subst hd
      rfl
    · cases hback : isSlash true d with
      | true => simp [relative?, behindSlashes?, hfirst, hd, hback]
      | false => simp [relative?, behindSlashes?, hfirst, hd, hback]

include hslash in
/-- A path from the root is joined to a base that is no file: what it names as a host counts. -/
theorem join?_of_slash {ss : List (List Char)} (hpath : b.path = .segments ss)
    (hfile : b.scheme ≠ "file".toList) :
    b.join? path =
      match behindSlashes? (clean path.toList) with
      | some behind => afterSlashes? b.scheme behind
      | none => some (withPath b.scheme b.authority root (clean path.toList).tail) := by
  have hscheme : (b.scheme == "file".toList) = false := beq_eq_false_iff_ne.mpr hfile
  obtain ⟨rest, hclean⟩ := exists_clean hslash
  unfold join? resolve?
  simp only [hclean, scheme?_slash, hpath, hscheme]
  exact relative?_slash b ss rest

include hslash in
/-- What is joined to a base that is no file has the origin of the base exactly if it stays on the base. -/
theorem exists_join?_iff (hfile : b.scheme ≠ "file".toList) :
    (∃ u, b.join? path = some u ∧ u.origin = b.origin) ↔ b.StaysOn path := by
  cases hpath : b.path with
  | plain text =>
    rw [join?_of_plain hslash hpath]
    constructor
    · rintro ⟨u, hu, -⟩
      cases hu
    · rintro ⟨⟨ss, hss⟩, -⟩
      cases hpath.symm.trans hss
  | segments ss =>
    rw [join?_of_slash hslash hpath hfile]
    constructor
    · rintro ⟨u, hu, horigin⟩
      refine ⟨⟨ss, hpath⟩, fun behind hbehind => ?_⟩
      rw [hbehind] at hu
      obtain ⟨⟨a, rest⟩, hauthority, rfl⟩ := Option.map_eq_some_iff.mp hu
      rw [origin_withPathStart] at horigin
      exact ⟨a, rest, hauthority, (congrArg Prod.snd horigin).symm⟩
    · rintro ⟨-, hstays⟩
      cases hbehind : behindSlashes? (clean path.toList) with
      | none => exact ⟨_, rfl, rfl⟩
      | some behind =>
        obtain ⟨a, rest, hauthority, hplace⟩ := hstays behind hbehind
        refine ⟨withPathStart b.scheme (some a) rest, ?_, ?_⟩
        · simp only [afterSlashes?, hauthority, Option.map_some]
        · rw [origin_withPathStart, origin, hplace, Option.map_some]

/-! ## Files

Two slashes in a reference to a file stand before the host of a file. -/

theorem scheme_of_fileOnHost? {s : List Char} (h : fileOnHost? s = some u) : u.scheme = "file".toList := by
  dsimp only [fileOnHost?] at h
  split at h
  · exact Option.some.inj h ▸ rfl
  · split at h
    · exact Option.some.inj h ▸ rfl
    · obtain ⟨host, -, rfl⟩ := Option.map_eq_some_iff.mp h
      split <;> rfl

theorem file?_slash (b : Url) (rest : List Char) :
    file? (some b) ('/' :: rest) =
      match behindSlashes? ('/' :: rest) with
      | some _ => fileOnHost? rest.tail
      | none => some (fileAtRoot (some b) ('/' :: rest)) := by
  have hfirst : isSlash true '/' = true := rfl
  cases rest with
  | nil => rfl
  | cons d rest =>
    by_cases hd : d = '/'
    · subst hd
      rfl
    · cases hback : isSlash true d with
      | true => simp [file?, behindSlashes?, hfirst, hd, hback]
      | false => simp [file?, behindSlashes?, hfirst, hd, hback]

include hslash in
/-- A path from the root is joined to a file. -/
theorem join?_of_file {ss : List (List Char)} (hpath : b.path = .segments ss)
    (hfile : b.scheme = "file".toList) :
    b.join? path =
      match behindSlashes? (clean path.toList) with
      | some _ => fileOnHost? (clean path.toList).tail.tail
      | none => some (fileAtRoot (some b) (clean path.toList)) := by
  obtain ⟨rest, hclean⟩ := exists_clean hslash
  unfold join? resolve?
  simp only [hclean, scheme?_slash, hpath, beq_iff_eq.mpr hfile]
  exact file?_slash b rest

include hslash in
theorem scheme_of_join?_file (hfile : b.scheme = "file".toList) (h : b.join? path = some u) :
    u.scheme = "file".toList := by
  cases hpath : b.path with
  | plain text =>
    rw [join?_of_plain hslash hpath] at h
    cases h
  | segments ss =>
    rw [join?_of_file hslash hpath hfile] at h
    split at h
    · exact scheme_of_fileOnHost? h
    · exact Option.some.inj h ▸ scheme_fileAtRoot _ _

theorem authority_fileAtRoot (h : b.authority = some noHost) (s : List Char) :
    (fileAtRoot (some b) s).authority = some noHost := by
  dsimp only [fileAtRoot]
  repeat' split
  all_goals first | rfl | exact h

end Url

/-! ## Endpoints

The endpoint is what the path comes to when it is joined to the base. -/

namespace Config

variable {c : Config} {b u : Url} {path : String}

theorem endpoint_eq_ok_iff (hbase : c.base = .ok b) : c.endpoint path = .ok u ↔ b.join? path = some u := by
  unfold endpoint
  rw [hbase]
  dsimp only
  cases b.join? path with
  | none => simp
  | some v => simp

theorem of_validate (h : c.validate = .ok ()) :
    ∃ b, c.base = .ok b ∧ c.executionPath.toList.head? = some '/' := by
  unfold validate at h
  split at h
  · cases h
  · next b hbase =>
    split at h
    · cases h
    · split at h
      · next hslash => exact ⟨b, hbase, eq_of_beq hslash⟩
      · cases h

end Config

/-! ## Requests of executions

Whatever transport is configured, an execution sends one request, and a request
that cannot be sent does not arrive anywhere. -/

namespace Client

theorem scheme_of_isSendable {r : Http.Request} (h : r.isSendable = true) : r.url.scheme ≠ "file".toList := by
  intro hfile
  rw [Http.Request.isSendable, hfile, Bool.and_eq_true] at h
  exact absurd h.1 (by decide)

theorem sent_to_endpoint (c : Client) (method path : String) (headers : List (String × String))
    (body : Option Json.Value) :
    ∃ new, (c.send method path headers body).2.network.sent = c.network.sent ++ new ∧
      ∀ r ∈ new, c.config.endpoint path = .ok r.url ∧ r.url.scheme ≠ "file".toList := by
  cases hr : c.request method path headers body with
  | error f =>
    refine ⟨[], ?_, List.forall_mem_nil _⟩
    rw [send, hr, List.append_nil]
  | ok r =>
    refine ⟨c.arriving r, sent_of_send hr, fun r' hr' => ?_⟩
    unfold arriving at hr'
    split at hr'
    · next harrives =>
      obtain rfl := List.mem_singleton.mp hr'
      rw [Bool.and_eq_true] at harrives
      exact ⟨endpoint_of_request hr, scheme_of_isSendable harrives.1⟩
    · cases hr'

/-- An execution sends one request, whatever transport is configured. -/
theorem connect_configured (c : Client) (request : ExecutionRequest) :
    ∃ headers, (configured.connect request c).2.network.sent =
      (c.send "POST" c.config.executionPath headers (some request.toJson)).2.network.sent := by
  unfold configured
  cases htransport : c.config.transport with
  | streaming =>
    refine ⟨[("accept", "text/event-stream")], ?_⟩
    simp only [htransport, streaming, execute]
    split <;> rfl
  | synchronous => exact ⟨[], by simp only [htransport, synchronous, execute]⟩

end Client

/-! ## The origin of executions

All three parts are put together. -/

/-- An accepted configuration gives the executions an endpoint on the origin of its base exactly if its path
stays on the base, or, at a base that is a file without a host, if its path names no host. All requests of
executions go to the endpoint; so they go to the origin of the base exactly if the path stays on it. -/
theorem execution_on_origin {c : Config} (h : c.validate = .ok ()) :
    ∃ b, c.base = .ok b ∧
      (b.scheme ≠ "file".toList →
        ((∃ u, c.endpoint c.executionPath = .ok u ∧ u.origin = b.origin) ↔ b.StaysOn c.executionPath)) ∧
      (b.scheme = "file".toList → b.authority = some Url.noHost → (∃ ss, b.path = .segments ss) →
        Url.behindSlashes? (Url.clean c.executionPath.toList) = none →
        ∃ u, c.endpoint c.executionPath = .ok u ∧ u.origin = b.origin) ∧
      ∀ (k : Client) (request : ExecutionRequest), k.config = c →
        ∃ new, (configured.connect request k).2.network.sent = k.network.sent ++ new ∧
          ∀ r ∈ new, c.endpoint c.executionPath = .ok r.url ∧
            (r.url.origin = b.origin ↔ b.StaysOn c.executionPath) := by
  obtain ⟨b, hbase, hslash⟩ := Config.of_validate h
  have hiff (hfile : b.scheme ≠ "file".toList) :
      (∃ u, c.endpoint c.executionPath = .ok u ∧ u.origin = b.origin) ↔ b.StaysOn c.executionPath := by
    simp only [Config.endpoint_eq_ok_iff hbase]
    exact Url.exists_join?_iff hslash hfile
  refine ⟨b, hbase, hiff, ?file, ?requests⟩
  case file =>
    rintro hfile hauthority ⟨ss, hpath⟩ hbehind
    have hjoin := Url.join?_of_file hslash hpath hfile
    rw [hbehind] at hjoin
    refine ⟨_, (Config.endpoint_eq_ok_iff hbase).mpr hjoin, ?_⟩
    rw [Url.origin, Url.origin, Url.scheme_fileAtRoot, Url.authority_fileAtRoot hauthority, hfile, hauthority]
  case requests =>
    rintro k request rfl
    obtain ⟨headers, hconnect⟩ := k.connect_configured request
    obtain ⟨new, hsent, hnew⟩ :=
      k.sent_to_endpoint "POST" k.config.executionPath headers (some request.toJson)
    refine ⟨new, hconnect.trans hsent, fun r hr => ?_⟩
    obtain ⟨hendpoint, hnofile⟩ := hnew r hr
    have hfile : b.scheme ≠ "file".toList := fun hb =>
      hnofile (Url.scheme_of_join?_file hslash hb ((Config.endpoint_eq_ok_iff hbase).mp hendpoint))
    refine ⟨hendpoint, fun horigin => (hiff hfile).mp ⟨r.url, hendpoint, horigin⟩, fun hstays => ?_⟩
    obtain ⟨u, hu, horigin⟩ := (hiff hfile).mpr hstays
    obtain rfl := Except.ok.inj (hendpoint.symm.trans hu)
    exact horigin

open Client in
/-- The usual path stays on its base, be it a backend or a file. -/
theorem execution_on_origin_usual :
    loopback.config.validate = .ok () ∧ loopback.config.base = .ok loopbackUrl ∧
      loopbackUrl.StaysOn loopback.config.executionPath ∧
      (∃ u, loopback.config.endpoint loopback.config.executionPath = .ok u ∧ u.origin = loopbackUrl.origin) ∧
      (∀ request, ∃ new,
        (configured.connect request loopback).2.network.sent = loopback.network.sent ++ new ∧
          ∀ r ∈ new, r.url.origin = loopbackUrl.origin) ∧
      ∃ b u, Config.base { baseUrl := "file:///srv" } = .ok b ∧
        Config.endpoint { baseUrl := "file:///srv" } "/api/plugin_result/" = .ok u ∧ u.origin = b.origin := by
  have hvalid : loopback.config.validate = .ok () := rfl
  have hvalid' : Config.validate { baseUrl := "file:///srv" } = .ok () := rfl
  have hplain : Url.behindSlashes? (Url.clean loopback.config.executionPath.toList) = none := rfl
  have hstays : loopbackUrl.StaysOn loopback.config.executionPath := by
    refine ⟨⟨_, rfl⟩, fun behind hbehind => ?_⟩
    rw [hplain] at hbehind
    cases hbehind
  obtain ⟨b, hbase, hiff, -, hrequests⟩ := execution_on_origin hvalid
  obtain rfl : loopbackUrl = b := Except.ok.inj hbase
  obtain ⟨b', hbase', -, hfile, -⟩ := execution_on_origin hvalid'
  obtain rfl : (⟨"file".toList, some Url.noHost, .segments ["srv".toList], none, none⟩ : Url) = b' :=
    Except.ok.inj hbase'
  refine ⟨hvalid, hbase, hstays, (hiff (by decide)).mpr hstays, fun request => ?_, _, _, hbase',
    (hfile rfl rfl ⟨_, rfl⟩ hplain).choose_spec⟩
  obtain ⟨new, hsent, hnew⟩ := hrequests loopback request rfl
  exact ⟨new, hsent, fun r hr => (hnew r hr).2.mpr hstays⟩

/-- An accepted configuration whose executions go, with the token, to another host, and one whose executions
have no endpoint. -/
theorem execution_elsewhere :
    let c : Client :=
      { config := { baseUrl := "http://[::1]:8000", executionPath := "//[::2]/api/plugin_result/" }
        token := some ⟨"secret"⟩ }
    c.config.validate = .ok () ∧ c.config.base.toOption.map Url.origin =
        some ("http".toList, some (.address6 [0, 0, 0, 0, 0, 0, 0, 1], some 8000)) ∧
      (configured.connect ⟨"disk", "10.0.0.1"⟩ c).2.network.sent.map
          (fun r => (r.url.origin, r.header? "X-CSRFToken")) =
        [(("http".toList, some (.address6 [0, 0, 0, 0, 0, 0, 0, 2], none)), some "secret")] ∧
      let c' : Config := { baseUrl := "mailto:a" }
      c'.validate = .ok () ∧ c'.endpoint c'.executionPath = .error (.endpointPath c'.executionPath) := by
  refine ⟨rfl, rfl, rfl, rfl, rfl⟩

end ScanConsole
