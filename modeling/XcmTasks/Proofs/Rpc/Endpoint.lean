import XcmTasks.Proofs.Setup
import XcmTasks.Rpc.Network

/-!
Endpoints that lead to a node. Settings look only at the scheme of an endpoint, and requests are
posted to the endpoint under another scheme, which a URL may not be given. Both accept the same
endpoints: a URL with a scheme for nodes is one of the web, and it is given another scheme of the
web with the same default port, so that nothing else of it changes.
-/

namespace XcmTasks

namespace Url

variable {scheme s : String} {cs : List Char} {url : Url} {web : WebUrl}

theorem of_parseWeb (hs : (defaultPort? scheme).isSome) (h : parseWeb scheme cs = .ok url) :
    ∃ web, url = .web web ∧ web.scheme = scheme ∧ web.port ≠ defaultPort? scheme := by
  unfold parseWeb at h
  dsimp only at h
  split at h
  case isTrue => cases h
  case isFalse =>
    obtain ⟨-, -, h⟩ := bind_eq_ok h
    obtain ⟨host, -, h⟩ := bind_eq_ok h
    obtain ⟨⟨port, rest⟩, -, h⟩ := bind_eq_ok h
    cases h
    refine ⟨_, rfl, rfl, ?_⟩
    dsimp only
    split
    case isTrue =>
      intro same
      rw [← same] at hs
      cases hs
    case isFalse different => exact different

theorem of_parse (h : parse s = .ok url) :
    (∃ web, url = .web web ∧ (defaultPort? web.scheme).isSome ∧
        web.port ≠ defaultPort? web.scheme) ∨
      ∃ scheme, url = .other scheme ∧ defaultPort? scheme = none := by
  unfold parse at h
  split at h
  case h_1 => cases h
  case h_2 scheme rest _ =>
    split at h
    case isTrue hs =>
      obtain ⟨web, rfl, rfl, port⟩ := of_parseWeb hs h
      exact .inl ⟨web, rfl, hs, port⟩
    case isFalse hs =>
      have none : defaultPort? scheme = none := by simpa using hs
      -- what is left only looks whether it is a URL, and keeps the scheme alone
      have kept : url = .other scheme := by
        split at h
        case isTrue =>
          obtain ⟨-, -, h⟩ := bind_eq_ok h
          cases h
          rfl
        case isFalse =>
          split at h
          case h_1 =>
            obtain ⟨-, -, h⟩ := bind_eq_ok h
            cases h
            rfl
          case h_2 =>
            cases h
            rfl
      exact .inr ⟨scheme, kept, none⟩

end Url

namespace Rpc

open Url

/-- Which scheme requests are posted under. -/
inductive PostedAs : String → String → Prop where
  | ws : PostedAs "ws" "http"
  | http : PostedAs "http" "http"
  | wss : PostedAs "wss" "https"
  | https : PostedAs "https" "https"

variable {endpoint scheme target : String} {url : Url} {web : WebUrl}

theorem requestScheme?_eq_some : requestScheme? scheme = some target ↔ PostedAs scheme target := by
  refine ⟨?_, ?_⟩
  · intro h
    simp only [requestScheme?, Bool.or_eq_true, decide_eq_true_eq] at h
    split at h
    case isTrue hs =>
      cases h
      rcases hs with rfl | rfl
      · exact .ws
      · exact .http
    case isFalse =>
      split at h
      case isTrue hs =>
        cases h
        rcases hs with rfl | rfl
        · exact .wss
        · exact .https
      case isFalse => cases h
  · rintro (_ | _ | _ | _) <;> rfl

theorem nodeScheme_iff : nodeSchemes.contains scheme = true ↔ ∃ target, PostedAs scheme target := by
  simp only [nodeSchemes, List.contains_iff_mem, List.mem_cons, List.not_mem_nil, or_false]
  refine ⟨?_, ?_⟩
  · rintro (rfl | rfl | rfl | rfl)
    · exact ⟨_, .ws⟩
    · exact ⟨_, .wss⟩
    · exact ⟨_, .http⟩
    · exact ⟨_, .https⟩
  · rintro ⟨target, _ | _ | _ | _⟩ <;> simp

theorem PostedAs.defaultPort (h : PostedAs scheme target) :
    defaultPort? target = defaultPort? scheme ∧ (defaultPort? scheme).isSome := by
  cases h <;> decide

theorem withScheme?_posted (h : PostedAs web.scheme target)
    (port : web.port ≠ defaultPort? web.scheme) :
    web.withScheme? target = some { web with scheme := target } := by
  obtain ⟨same, some⟩ := h.defaultPort
  unfold WebUrl.withScheme?
  rw [same, if_pos some, if_neg port]

theorem endpointFault?_eq_none :
    endpointFault? endpoint = none ↔
      ∃ web target, parse endpoint = .ok (.web web) ∧ PostedAs web.scheme target := by
  unfold endpointFault?
  cases hp : parse endpoint with
  | error e => simp
  | ok url =>
    have accepted : (if nodeSchemes.contains url.scheme then (none : Option String)
        else some ("unsupported scheme '" ++ url.scheme ++ "'")) = none ↔
        ∃ target, PostedAs url.scheme target := by
      rw [← nodeScheme_iff]
      split <;> simp_all
    rw [accepted]
    rcases of_parse hp with ⟨web, rfl, -⟩ | ⟨scheme, rfl, none⟩
    · simp [Url.scheme]
    · -- the schemes for nodes have default ports
      simp only [Except.ok.injEq, reduceCtorEq, false_and, exists_false, iff_false, not_exists]
      intro target posted
      have some := posted.defaultPort.2
      change (defaultPort? scheme).isSome = true at some
      rw [none] at some
      cases some

theorem requestUrl_posted (hp : parse endpoint = .ok (.web web))
    (posted : PostedAs web.scheme target) :
    requestUrl endpoint = .ok { web with scheme := target } := by
  have port : web.port ≠ defaultPort? web.scheme := by
    rcases of_parse hp with ⟨web', same, -, port⟩ | ⟨scheme, other, -⟩
    · cases same
      exact port
    · cases other
  have known := requestScheme?_eq_some.mpr posted
  simp only [requestUrl, hp, Url.scheme, known]
  split
  case isTrue same => rw [← same]
  case isFalse => rw [withScheme?_posted posted port]

theorem requestUrl_eq_ok :
    requestUrl endpoint = .ok web ↔
      ∃ parsed, parse endpoint = .ok (.web parsed) ∧ PostedAs parsed.scheme web.scheme ∧
        web = { parsed with scheme := web.scheme } := by
  refine ⟨?_, ?_⟩
  · intro h
    cases hp : parse endpoint with
    | error e => simp [requestUrl, hp] at h
    | ok url =>
      cases url with
      | other scheme => simp [requestUrl, hp] at h
      | web parsed =>
        cases hs : requestScheme? parsed.scheme with
        | none => simp [requestUrl, hp, Url.scheme, hs] at h
        | some target =>
          have posted := requestScheme?_eq_some.mp hs
          rw [requestUrl_posted hp posted] at h
          cases h
          exact ⟨parsed, rfl, posted, rfl⟩
  · rintro ⟨parsed, hp, posted, switched⟩
    rw [requestUrl_posted hp posted, ← switched]

theorem exists_requestUrl :
    (∃ url, requestUrl endpoint = .ok url) ↔ endpointFault? endpoint = none := by
  rw [endpointFault?_eq_none]
  refine ⟨?_, ?_⟩
  · rintro ⟨url, h⟩
    obtain ⟨parsed, hp, posted, -⟩ := requestUrl_eq_ok.mp h
    exact ⟨parsed, url.scheme, hp, posted⟩
  · rintro ⟨web, target, hp, posted⟩
    exact ⟨_, requestUrl_posted hp posted⟩

end Rpc

/-! ### Chains from settings -/

namespace ChainSettings

variable {s : ChainSettings} {environment : Environment} {key endpoint : String}

theorem indices_ne_invalidEndpoint {chain reason : String} :
    s.indices key ≠ .error (.invalidEndpoint chain endpoint reason) := by
  intro h
  obtain ⟨indices, entry, -, h⟩ := foldlM_eq_error h
  cases hn : CallEntry.names? entry.call <;> simp [hn] at h

theorem invalidEndpoint_iff (hr : s.endpoint.resolve environment = .ok endpoint) :
    (∃ reason, s.toChain environment key = .error (.invalidEndpoint key endpoint reason)) ↔
      ∃ reason, endpointFault? endpoint = some reason := by
  have makes := s.makes_toChain environment key
  generalize s.toChain environment key = result at makes ⊢
  cases makes with
  | unresolved hr' => cases hr.symm.trans hr'
  | unreachable hr' hf =>
    cases hr.symm.trans hr'
    simp [hf]
  | unnamed hr' hf hi =>
    cases hr.symm.trans hr'
    refine ⟨?_, by simp [hf]⟩
    rintro ⟨reason, same⟩
    cases same
    exact absurd hi indices_ne_invalidEndpoint
  | invalid hr' hf =>
    cases hr.symm.trans hr'
    simp [hf]
  | made hr' hf =>
    cases hr.symm.trans hr'
    simp [hf]

theorem accepted_of_toChain {chain : Chain} (h : s.toChain environment key = .ok chain) :
    endpointFault? chain.endpoint = none := by
  have makes := s.makes_toChain environment key
  rw [h] at makes
  cases makes with
  | made _ hf => exact hf

end ChainSettings

namespace Rpc

/-- The settings accept an endpoint exactly if requests can be posted there, which is at the same
URL under the scheme for requests. So an attempt to connect to a configured chain gets to its
node. -/
theorem posted_iff_accepted (endpoint : String) :
    (endpointFault? endpoint = none ↔ ∃ url, requestUrl endpoint = .ok url) ∧
      (∀ url, requestUrl endpoint = .ok url ↔
        ∃ parsed, Url.parse endpoint = .ok (.web parsed) ∧ PostedAs parsed.scheme url.scheme ∧
          url = { parsed with scheme := url.scheme }) ∧
      (∀ (s : ChainSettings) environment key, s.endpoint.resolve environment = .ok endpoint →
        ((∃ reason, s.toChain environment key = .error (.invalidEndpoint key endpoint reason)) ↔
          ∃ e, requestUrl endpoint = .error e)) ∧
      ∀ (s : ChainSettings) environment key chain, s.toChain environment key = .ok chain →
        chain.endpoint = endpoint →
        ∃ url, requestUrl endpoint = .ok url ∧
          ∀ (σ : Type) make transport attempt (nodes : RpcNodes σ),
            RpcNodes.connect make transport attempt chain nodes =
              nodes.connectAt make transport attempt chain url := by
  refine ⟨exists_requestUrl.symm, fun _ => requestUrl_eq_ok, ?_, ?_⟩
  · intro s environment key hr
    rw [ChainSettings.invalidEndpoint_iff hr]
    have accepted := @exists_requestUrl endpoint
    cases hq : requestUrl endpoint with
    | ok url =>
      have none := accepted.mp ⟨url, hq⟩
      simp [none]
    | error e =>
      cases hf : endpointFault? endpoint with
      | some reason => simp
      | none =>
        obtain ⟨url, hq'⟩ := accepted.mpr hf
        cases hq.symm.trans hq'
  · rintro s environment key chain made rfl
    obtain ⟨url, hq⟩ := exists_requestUrl.mpr (ChainSettings.accepted_of_toChain made)
    refine ⟨url, hq, ?_⟩
    intro σ make transport attempt nodes
    unfold RpcNodes.connect
    rw [hq]

namespace Sample

def endpoint : String := " WSS://Me@Node.Example:443/a/../b?c#d "

def web : WebUrl :=
  ⟨"wss", "Me@".toList, .name "node.example".toList, none, "/b".toList, some ['c'], some ['d']⟩

def settings : ChainSettings := { Setup.Sample.entry .turing with endpoint := .plain endpoint }

/-- An endpoint that is a URL, but not one of a node. -/
def elsewhere : ChainSettings := { Setup.Sample.entry .turing with endpoint := .plain "ftp://node" }

end Sample

open Setup.Sample (surroundings)

/-- An endpoint for sockets is accepted and requests are posted to the same place, and a URL for
files is refused by the settings, as nothing can be posted there. -/
theorem posted_iff_accepted_turing :
    requestUrl Sample.endpoint = .ok { Sample.web with scheme := "https" } ∧
      (∃ chain, Sample.settings.toChain surroundings "turing" = .ok chain ∧
        chain.endpoint = Sample.endpoint ∧
        ∃ url, requestUrl Sample.endpoint = .ok url ∧
          ∀ transport (nodes : RpcNodes Unit),
            RpcNodes.connect (fun _ => .ok ()) transport 0 chain nodes =
              nodes.connectAt (fun _ => .ok ()) transport 0 chain url) ∧
      Sample.elsewhere.endpoint.resolve surroundings = .ok "ftp://node" ∧
      (∃ reason, Sample.elsewhere.toChain surroundings "turing" =
        .error (.invalidEndpoint "turing" "ftp://node" reason)) := by
  obtain ⟨-, posted, -, configured⟩ := posted_iff_accepted Sample.endpoint
  obtain ⟨-, -, refused, -⟩ := posted_iff_accepted "ftp://node"
  have parsed : Url.parse Sample.endpoint = .ok (.web Sample.web) := by
    apply eq_ok_of_toOption
    decide +kernel
  refine ⟨(posted _).mpr ⟨Sample.web, parsed, .wss, rfl⟩, ?_, rfl, ?_⟩
  · have makes : ((Sample.settings.toChain surroundings "turing").toOption.any fun chain =>
        chain.endpoint == Sample.endpoint) = true := by
      decide +kernel
    obtain ⟨chain, made, there⟩ := (Option.any_eq_true _ _).mp makes
    have made := eq_ok_of_toOption made
    have there : chain.endpoint = Sample.endpoint := by simpa using there
    obtain ⟨url, hq, connects⟩ := configured _ _ _ _ made there
    exact ⟨chain, made, there, url, hq, fun transport nodes =>
      connects Unit (fun _ => .ok ()) transport 0 nodes⟩
  · refine (refused Sample.elsewhere surroundings "turing" rfl).mpr ?_
    refine ⟨.unreachable "ftp://node" "unsupported scheme ftp", ?_⟩
    have parsed : Url.parse "ftp://node" =
        .ok (.web ⟨"ftp", [], .name "node".toList, none, ['/'], none, none⟩) := by
      apply eq_ok_of_toOption
      decide +kernel
    have unknown : requestScheme? "ftp" = none := by decide
    simp [requestUrl, parsed, Url.scheme, unknown]

end Rpc

end XcmTasks
