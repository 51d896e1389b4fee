import XcmTasks.Proofs.Hex
import XcmTasks.Proofs.Json.Text
import XcmTasks.Proofs.Rpc.Nonces
import XcmTasks.Proofs.Scale.Wire

/-!
What goes over the wire in hexadecimal digits and comes back from it. An operation posts one message
and reads the result of the reply. Whatever it asks about can be found again in the message, and
whatever a node may tell is read as just that; results that tell nothing fail by the way in which
they are wrong.
-/

namespace XcmTasks

open Decoder Canonical
open Hex (Spells WellFormed)

def PaymentInfo.bytes (info : PaymentInfo) : Bytes :=
  encode (info.weight, info.dispatchClass, info.partialFee)

namespace Rpc

variable {α β : Type} {c : Connection} {method text what : String} {params : Json} {bytes : Bytes}

/-! ### Results in digits -/

/-- How results are read that should be the bytes of a value, written in digits. -/
structure ReadsValue (read : Json → Except NodeError α) (written : α → Bytes) (what : String) :
    Prop where
  value : ∀ a rest text, Spells text (written a ++ rest) → read (.text text) = .ok a
  short : ∀ a part missing text, part ++ missing = written a → missing ≠ [] → Spells text part →
    read (.text text) = .error (.undecodable what failureText)
  unwritten : ∀ bytes text, (∀ a rest, bytes ≠ written a ++ rest) → Spells text bytes →
    read (.text text) = .error (.undecodable what failureText)
  malformed : ∀ text, ¬WellFormed text →
    ∃ e : HexError, read (.text text) = .error (.undecodable what e.message)
  other : ∀ answer, (∀ text, answer ≠ .text text) →
    read answer = .error (.invalidResponse (what ++ " is not a hex string"))

structure ReadsEntry (read : Json → Except NodeError (Option Bytes)) : Prop where
  absent : read .null = .ok none
  entry : ∀ bytes text, Spells text bytes → read (.text text) = .ok (some bytes)
  malformed : ∀ text, ¬WellFormed text →
    ∃ e : HexError, read (.text text) = .error (.undecodable "storage value" e.message)
  other : ∀ answer, answer ≠ .null → (∀ text, answer ≠ .text text) →
    read answer = .error (.invalidResponse ("unexpected storage value " ++ answer.render))

theorem hexBytes_of_spells (h : Spells text bytes) : Answer.hexBytes what text = .ok bytes := by
  unfold Answer.hexBytes
  rw [Hex.decode_eq_ok.mpr h]
  rfl

theorem hexBytes_of_malformed (what : String) (h : ¬WellFormed text) :
    ∃ e : HexError, Answer.hexBytes what text = .error (.undecodable what e.message) := by
  unfold Answer.hexBytes
  cases hd : Hex.decode text with
  | error e => exact ⟨e, rfl⟩
  | ok bytes => exact absurd (Hex.wellFormed_iff.mpr ⟨bytes, Hex.decode_eq_ok.mp hd⟩) h

section
variable [Scale α]

theorem binary_text :
    Answer.binary α what (.text text) = Answer.hexBytes what text >>= fun bytes =>
      match decodeFront α bytes with
      | some a => .ok a
      | none => .error (.undecodable what failureText) := rfl

theorem binary_of_spells (h : Spells text bytes) :
    Answer.binary α what (.text text) =
      match decodeFront α bytes with
      | some a => .ok a
      | none => .error (.undecodable what failureText) := by
  rw [binary_text, hexBytes_of_spells h]
  rfl

theorem decodeFront_eq_none [Canonical α] (h : ∀ (a : α) rest, bytes ≠ encode a ++ rest) :
    decodeFront α bytes = none := by
  unfold decodeFront
  cases hd : (decode : Decoder α) bytes with
  | none => rfl
  | some p => exact absurd (decode_eq_some_iff.mp hd).2 (h p.1 p.2)

/-- No value begins what is only the beginning of another one. -/
theorem unwritten_of_short [Canonical α] (fits : ∀ a : α, Fits a) {a : α} {part missing : Bytes}
    (h : part ++ missing = encode a) (hm : missing ≠ []) (b : α) (rest : Bytes) :
    part ≠ encode b ++ rest := by
  rintro rfl
  rw [List.append_assoc, ← List.append_nil (encode a)] at h
  obtain ⟨-, hr⟩ := reads.append_inj (fits b) (fits a) h
  exact hm (List.append_eq_nil_iff.mp hr).2

theorem readsValue_binary [Canonical α] (fits : ∀ a : α, Fits a) (what : String) :
    ReadsValue (Answer.binary α what) encode what where
  value := by
    intro a rest text h
    have front : decodeFront α (encode a ++ rest) = some a := by
      rw [decodeFront, decode_encode (fits a)]
      rfl
    rw [binary_of_spells h, front]
  short := by
    intro a part missing text hp hm h
    rw [binary_of_spells h, decodeFront_eq_none (unwritten_of_short fits hp hm)]
  unwritten := by
    intro bytes text hb h
    rw [binary_of_spells h, decodeFront_eq_none hb]
  malformed := by
    intro text h
    obtain ⟨e, he⟩ := hexBytes_of_malformed what h
    refine ⟨e, ?_⟩
    rw [binary_text, he]
    rfl
  other := by
    intro answer h
    cases answer with
    | text s => exact absurd rfl (h s)
    | _ => rfl

end

theorem ReadsValue.map {read : Json → Except NodeError α} {written : α → Bytes}
    (h : ReadsValue read written what) {f : α → β} {g : β → α} (hf : ∀ a, g (f a) = a)
    (hg : ∀ b, f (g b) = b) :
    ReadsValue (fun answer => f <$> read answer) (fun b => written (g b)) what where
  value := by
    intro b rest text hs
    rw [h.value _ _ _ hs]
    exact congrArg Except.ok (hg b)
  short := by
    intro b part missing text hp hm hs
    rw [h.short _ _ _ _ hp hm hs]
    rfl
  unwritten := by
    intro bytes text hb hs
    have none_begins : ∀ a rest, bytes ≠ written a ++ rest := by
      intro a rest
      rw [← hf a]
      exact hb (f a) rest
    rw [h.unwritten _ _ none_begins hs]
    rfl
  malformed := by
    intro text hs
    obtain ⟨e, he⟩ := h.malformed text hs
    refine ⟨e, ?_⟩
    rw [he]
    rfl
  other := by
    intro answer ha
    rw [h.other answer ha]
    rfl

theorem readsValue_paymentInfo :
    ReadsValue Answer.paymentInfo PaymentInfo.bytes "RuntimeDispatchInfo" := by
  have parts : ∀ p : Weight × UInt8 × UInt128, Fits p := fun _ => ⟨trivial, trivial, trivial⟩
  exact (readsValue_binary parts "RuntimeDispatchInfo").map
    (f := fun p => PaymentInfo.mk p.1 p.2.1 p.2.2)
    (g := fun info => (info.weight, info.dispatchClass, info.partialFee)) (fun _ => rfl)
    fun _ => rfl

theorem readsEntry_storageValue : ReadsEntry Answer.storageValue where
  absent := rfl
  entry := by
    intro bytes text h
    rw [Answer.storageValue, hexBytes_of_spells h]
    rfl
  malformed := by
    intro text h
    obtain ⟨e, he⟩ := hexBytes_of_malformed "storage value" h
    refine ⟨e, ?_⟩
    rw [Answer.storageValue, he]
    rfl
  other := by
    intro answer hn ht
    cases answer with
    | null => exact absurd rfl hn
    | text s => exact absurd rfl (ht s)
    | _ => rfl

/-! ### Replies -/

def bodyTelling (id : Nat) (result : Json) : Json :=
  .object [("jsonrpc", .text "2.0"), ("id", .ofNat id), ("result", result)]

theorem plain_bodyTelling {d id : Nat} {result : Json} (h : Json.Plain d result) :
    Json.Plain (d + 1) (bodyTelling id result) := by
  refine .object ?_
  simp only [List.forall_mem_cons]
  exact ⟨.text "2.0", .natural id, h, List.forall_mem_nil _⟩

theorem result_bodyTelling {result : Json} (h : result = .null ∨ ∃ text, result = .text text)
    (id : Nat) (url : String) :
    (Reply.response 200 (bodyTelling id result).render).result url = .ok result := by
  have plain : Json.Plain Document.maxDepth (bodyTelling id result) := by
    refine plain_bodyTelling ?_
    rcases h with rfl | ⟨text, rfl⟩
    · exact .null
    · exact .text text
  have told : ∃ result?, readText (bodyTelling id result).render = .ok (⟨result?, none⟩ : Body) ∧
      result?.getD .null = result := by
    rw [readText_render plain]
    rcases h with rfl | ⟨text, rfl⟩
    · exact ⟨none, rfl, rfl⟩
    · exact ⟨some (.text text), rfl, rfl⟩
  obtain ⟨result?, read, same⟩ := told
  have success : isSuccess 200 = true := rfl
  simp [Reply.result, success, read, same]

/-! ### Operations -/

/-- With any node at the other end, the operation posts just this message and ends with what is read
from the result of the reply. -/
def Takes (x : OnConnection α) (c : Connection) (method : String) (params : Json)
    (read : Json → Except NodeError α) : Prop :=
  ∀ (σ : Type) (transport : Post → σ → Reply × σ) (s : σ),
    let (reply, s') := transport (c.postOf method params) s
    (x.run.run c).run transport s = ((reply.result c.url.text >>= read, c.counted), s')

theorem takes_of_asks {x : OnConnection α} {read : Json → Except NodeError α}
    (hc : c.closed = false)
    (hx : ∀ {t r c'}, Goes x c t r c' ↔ Asks c method params read t r c') :
    Takes x c method params read := by
  intro σ transport s
  have asked : Asks c method params read
      [⟨c.postOf method params, (transport (c.postOf method params) s).1⟩] _ c.counted :=
    .replied hc rfl
  exact (Dialogue.Runs.of_exchanges (d := Dialogue.question _) (hx.mpr asked)).2

/-- What is asked over a connection arrives, and what is answered comes back. -/
structure Lossless (c : Connection) : Prop where
  paymentInfo : ∀ call : Bytes, call.length < UInt32.size → ∃ data read,
    Hex.decode data = .ok (call ++ littleEndian 4 call.length) ∧
      Takes (Rpc.paymentInfo call) c "state_call"
        (.list [.text "TransactionPaymentCallApi_query_call_info", .text data]) read ∧
      ReadsValue read PaymentInfo.bytes "RuntimeDispatchInfo"
  weightToFee : ∀ weight : Weight, ∃ data bytes read,
    Hex.decode data = .ok bytes ∧ decode bytes = some (weight, []) ∧
      Takes (Rpc.weightToFee weight) c "state_call"
        (.list [.text "TransactionPaymentApi_query_weight_to_fee", .text data]) read ∧
      ReadsValue read encode "weight fee"
  storage : ∀ key : StorageKey, ∃ data read,
    Hex.decode data = .ok key.bytes ∧
      Takes (Rpc.storage key) c "state_getStorage" (.list [.text data]) read ∧ ReadsEntry read
  replies : ∀ id url result, (result = .null ∨ ∃ text, result = .text text) →
    (Reply.response 200 (bodyTelling id result).render).result url = .ok result

theorem lossless_of_open (hc : c.closed = false) : Lossless c where
  paymentInfo := by
    intro call short
    have length : encode (UInt32.ofNat call.length) = littleEndian 4 call.length := by
      change littleEndian 4 (UInt32.ofNat call.length).toNat = _
      rw [UInt32.toNat_ofNat_of_lt' short]
    refine ⟨_, _, ?_, takes_of_asks hc goes_paymentInfo, readsValue_paymentInfo⟩
    rw [Hex.decode_encode, length]
  weightToFee := by
    intro weight
    have whole := decode_encode (a := weight) trivial []
    rw [List.append_nil] at whole
    exact ⟨_, _, _, Hex.decode_encode _, whole, takes_of_asks hc goes_weightToFee,
      readsValue_binary (fun _ => trivial) "weight fee"⟩
  storage := by
    intro key
    exact ⟨_, _, Hex.decode_encode _, takes_of_asks hc goes_storage, readsEntry_storageValue⟩
  replies := fun id url _ h => result_bodyTelling h id url

namespace Sample

def fee : String := "0x2A000000000000000000000000000000"

def answering (post : Post) (s : Unit) : Reply × Unit :=
  (.response 200 (bodyTelling post.message.id.toNat (.text fee)).render, s)

end Sample

/-- A fee is asked for and comes back. -/
theorem lossless_of_open_turing :
    Sample.connection.closed = false ∧
      ((weightToFee ⟨5, 6⟩).run.run Sample.connection).run Sample.answering () =
        ((.ok 42, Sample.connection.counted), ()) := by
  have lossless : Lossless Sample.connection := lossless_of_open rfl
  obtain ⟨_, _, read, -, -, takes, reads⟩ := lossless.weightToFee ⟨5, 6⟩
  have spelled : Spells Sample.fee (encode (42 : UInt128) ++ []) := Hex.decode_eq_ok.mp rfl
  have read_back : read (.text Sample.fee) = .ok 42 := reads.value 42 [] _ spelled
  have told := lossless.replies 2 Sample.connection.url.text (.text Sample.fee) (.inr ⟨_, rfl⟩)
  refine ⟨rfl, (takes Unit Sample.answering ()).trans ?_⟩
  change (((Reply.response 200 (bodyTelling 2 (.text Sample.fee)).render).result
    Sample.connection.url.text >>= read, Sample.connection.counted), ()) = _
  rw [told, ← read_back]
  rfl

end Rpc

end XcmTasks
