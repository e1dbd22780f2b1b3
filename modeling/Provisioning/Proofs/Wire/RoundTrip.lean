import Provisioning.Proofs.Message.EnvelopeDelivery
import Provisioning.Proofs.Wire.Encoding

/-!
# A message that is sent arrives

What is sent is the declaration and the printed tree of the message, in UTF-8 behind a header. The
other side takes the frame, decodes the text, skips the declaration, reads the tree back without the
blanks at the ends of its texts, reads the message from the tree, and types it. Of a message in which
nothing is ambiguous this leaves what `Envelope.delivered` says, and of a canonical message all.
-/

namespace Provisioning.Wire

open Markup Text

/-- The declaration before a document means nothing. -/
theorem growTree_declaration (cs : List Char) :
    growTree [] (declaration.toList ++ cs) = growTree [] cs := by
  let body : List Char := "xml version=\"1.0\" encoding=\"UTF-8\" standalone=\"no\"".toList
  have hbody : ∀ c ∈ body, (c != '>') = true := List.all_eq_true.mp (by decide)
  have hsplit : declaration.toList ++ cs = '<' :: '?' :: (body ++ '?' :: '>' :: '\n' :: cs) := rfl
  have hblank : ∀ c ∈ ['\n'], isMarkupBlank c = true := by simp [isMarkupBlank]
  calc growTree [] (declaration.toList ++ cs)
      = growTree [] ('\n' :: cs) := by
        rw [hsplit, growTree_of_next (next_instruction hbody (by decide) _)]
        rfl
    _ = growTree [] cs := growTree_congr (next_blanks hblank cs) []

/-- The document of a message behind the declaration. -/
theorem ofText_declared {e : Element} (h : e.WellNamed) :
    Element.ofText (declaration ++ e.toText) = .ok e.trimmed := by
  have hbom : dropByteOrderMark (declaration ++ e.toText).toList =
      declaration.toList ++ e.toText.toList := by
    rw [String.toList_append]
    rfl
  rw [Element.ofText, hbom, growTree_declaration, growTree_toText h]

/-- Past the frame, the encoding and the declaration, the tree is all that is left to read. -/
theorem decode_written {e : Envelope} {bytes : List UInt8} (h : e.toElement.WellNamed)
    (hencode : encode e = .ok bytes) : decode bytes = Envelope.ofElement e.toElement.trimmed := by
  have hroot : e.toElement.trimmed.localName = "epp" := by
    simp [Envelope.toElement_eq, Envelope.root]
  rw [decode_of_encode hencode, Envelope.ofText, Envelope.toText, ofText_declared h]
  simp only [bind, Except.bind, hroot, if_true]

/-- **What arrives of a message** in which nothing is ambiguous, once it is typed. -/
theorem decode_delivered {e : Envelope} {bytes : List UInt8} (h : e.Plain)
    (hencode : encode e = .ok bytes) : ∃ d, decode bytes = .ok d ∧ d.typed = e.delivered := by
  have hread := decode_written (Envelope.wellNamed_toElement h) hencode
  obtain ⟨d, hd, htyped⟩ := ok_of_map (Envelope.typed_ofElement h)
  exact ⟨d, hread.trans hd, htyped⟩

/-- A response arrives as a response, whatever its data, with its client's identifier. -/
theorem response_arrives {r : Response} {bytes : List UInt8}
    (h : ∀ x ∈ r.extension, x.untyped = []) (hencode : encode (.ofResponse r) = .ok bytes) :
    ∃ d q, decode bytes = .ok d ∧ d.response = some q ∧
      q.clientTransactionId = trimText r.clientTransactionId := by
  have hnamed : (Envelope.ofResponse r).toElement.WellNamed := by
    refine Envelope.wellNamed_of_parts (by simp [Envelope.ofResponse]) ?_
    rintro q ⟨⟩
    exact Response.wellNamed_toElement h
  rw [decode_written hnamed hencode]
  exact Envelope.ofElement_response r

/-- What a decoder takes out of bytes that begin with such a message. -/
theorem nextEnvelope_delivered {max : Nat} {e : Envelope} {bytes : List UInt8} (h : e.Plain)
    (hencode : encode e = .ok bytes) (hmax : bytes.length ≤ max) (rest : List UInt8) :
    ∃ d, (⟨bytes ++ rest, max⟩ : Decoder).nextEnvelope = (.ok (some d), ⟨rest, max⟩) ∧
      d.typed = e.delivered := by
  obtain ⟨d, hdecode, htyped⟩ := decode_delivered h hencode
  refine ⟨d, ?_, htyped⟩
  rw [nextEnvelope_of_encode hencode hmax, hdecode]
  rfl

/--
**A canonical message arrives as it is**, whatever its parts: if its frame is no larger than allowed
then it is sent, and what the other side reads and types is the message again, with the same tag.
-/
theorem canonical_message_arrives {e : Envelope} (h : e.Canonical)
    (hsize : (Frame.ofEnvelope e).totalLength ≤ maxFrameSize) :
    ∃ bytes d, encode e = .ok bytes ∧ decode bytes = .ok d ∧ d.typed = e ∧ d.typed.tag = e.tag := by
  obtain ⟨bytes, hencode⟩ := encode_of_totalLength hsize
  obtain ⟨d, hdecode, htyped⟩ := decode_delivered h.plain hencode
  rw [h.delivered_eq] at htyped
  exact ⟨bytes, d, hencode, hdecode, htyped, by rw [htyped]⟩

/-- Markup in texts, a value with a line break, an empty schema, and data of two kinds for two
verbs. -/
theorem canonical_message_arrives_mixed :
    let e : Envelope := .ofResponse {
      code := 1301
      message := "ack to dequeue"
      queue := some { count := 18446744073709551615, id := "a\n\"1\"" }
      data := some {
        domainRenew := some { schema := "", name := "a&b.example", expires := "2031-01-01" }
        hostCheck := some [⟨"ns1.caf\u00e9.example", false, some "In <use>"⟩] }
      extension := some { grace := some ⟨["addPeriod"]⟩ }
      clientTransactionId := "c-1"
      serverTransactionId := "s-1" }
    e.Canonical ∧ (Frame.ofEnvelope e).totalLength ≤ maxFrameSize ∧
      ∃ bytes d, encode e = .ok bytes ∧ decode bytes = .ok d ∧ d.typed = e ∧ d.typed.tag = e.tag := by
  intro e
  have hdata : ∀ d ∈ (e.response.bind (·.data)), d.Canonical := by
    rintro d ⟨⟩
    constructor
    case plain => constructor <;> decide
    case domainRenew =>
      rintro r ⟨⟩
      constructor <;> decide
    case hostCheck =>
      rintro items ⟨⟩
      simp only [List.forall_mem_singleton]
      constructor <;> decide
    all_goals simp
  have hextension : ∀ x ∈ (e.response.bind (·.extension)), x.Canonical := by
    rintro x ⟨⟩
    constructor <;> simp
  have hcanonical : e.Canonical := by
    constructor
    case response =>
      rintro r ⟨⟩
      constructor
      case queue =>
        rintro q ⟨⟩
        constructor <;> decide
      case data => exact hdata
      case extension => exact hextension
      all_goals decide
    all_goals simp [e, Envelope.ofResponse]
  have hsize : (Frame.ofEnvelope e).totalLength ≤ maxFrameSize :=
    totalLength_le (by decide +kernel)
  exact ⟨hcanonical, hsize, canonical_message_arrives hcanonical hsize⟩

end Provisioning.Wire
