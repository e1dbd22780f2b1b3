import Provisioning.Proofs.Markup.Texts
import Provisioning.Proofs.Message.EnvelopeDelivery
import Provisioning.Proofs.Text.Integers

/-!
# Numbers in messages

A field that holds a number is read by one function with the bounds of its type. What is read is what
the text denotes (`IntegerType.Denotes`), and a text that denotes nothing is a fault that names the
field and quotes the text as it stands, blanks included. The numbers of messages, which are result
codes, the count of a queue, periods and the numbers of a signed delegation, are written in decimal,
so each of them is read again.
-/

namespace Provisioning

open Markup Text

/-- A field is read as the number that its text denotes. -/
theorem Markup.readNumber_eq_ok_iff {t : IntegerType} {field text : String} {n : Int} :
    readNumber t.bounds field text = .ok n ↔ t.Denotes text n := by
  rw [← paddedBounded?_eq_some_iff, readNumber]
  cases paddedBounded? t.bounds text <;> simp

/-- A field whose text denotes no number is a fault about the field and its text. -/
theorem Markup.readNumber_of_not_denotes {t : IntegerType} {text : String}
    (h : ∀ n, ¬ t.Denotes text n) (field : String) :
    readNumber t.bounds field text = .error (.invalidValue field text) := by
  have hnone : paddedBounded? t.bounds text = none :=
    Option.eq_none_iff_forall_not_mem.mpr fun n hn => h n (paddedBounded?_eq_some_iff.mp hn)
  rw [readNumber, hnone]

/-! ## The numbers that are written -/

theorem Response.written_code (r : Response) :
    (r.toElement.child? "result").bind (·.attr? "code") = some r.code.toNat.repr := by
  simp [Response.toElement, Element.child?, Element.attr?, Element.localName]

theorem MessageQueue.written_count (q : MessageQueue) :
    q.toElement.attr? "count" = some q.count.toNat.repr := by
  simp [MessageQueue.toElement, Element.attr?]

theorem Period.written_value (p : Period) (k : ObjectKind) :
    (p.toElement k).text = p.value.toNat.repr := by
  simp [Period.toElement, Element.withAttr]

theorem DsRecord.written_numbers (x : DsRecord) :
    x.toElement.childText "keyTag" = x.keyTag.toNat.repr ∧
      x.toElement.childText "alg" = x.algorithm.toNat.repr ∧
      x.toElement.childText "digestType" = x.digestType.toNat.repr := by
  have hnames : Markup.localName "secDNS:keyTag" = "keyTag" ∧
      Markup.localName "secDNS:alg" = "alg" ∧
      Markup.localName "secDNS:digestType" = "digestType" := by decide
  simp [DsRecord.toElement, hnames]

/--
**Numbers follow the grammar.** For every type of integers, field and text: the field is read as a
number exactly if its text, without the white space at its ends, is a numeral of that number and the
type has it; any other text is a fault with the name of the field and the whole text. So every number
of a type is read from its decimal form, as the result code of a response, the count of a queue, the
value of a period and the numbers of a signed delegation are from what is written of them.
-/
theorem numbers_follow_grammar :
    (∀ (t : IntegerType) (field text : String) (n : Int),
      readNumber t.bounds field text = .ok n ↔ t.Denotes text n) ∧
    (∀ (t : IntegerType) (field text : String), (∀ n, ¬ t.Denotes text n) →
      readNumber t.bounds field text = .error (.invalidValue field text)) ∧
    (∀ (t : IntegerType) (field : String) (n : Int), t.Holds n →
      readNumber t.bounds field (toString n) = .ok n) ∧
    (∀ r : Response, ∃ text, (r.toElement.child? "result").bind (·.attr? "code") = some text ∧
      readNumber .u16 "result code" text = .ok r.code.toNat) ∧
    (∀ q : MessageQueue, ∃ text, q.toElement.attr? "count" = some text ∧
      readNumber .u64 "msgQ count" text = .ok q.count.toNat) ∧
    (∀ (p : Period) (k : ObjectKind),
      readNumber .u32 "period" (p.toElement k).text = .ok p.value.toNat) ∧
    ∀ x : DsRecord,
      readNumber .u16 "keyTag" (x.toElement.childText "keyTag") = .ok x.keyTag.toNat ∧
      readNumber .u8 "alg" (x.toElement.childText "alg") = .ok x.algorithm.toNat ∧
      readNumber .u8 "digestType" (x.toElement.childText "digestType") =
        .ok x.digestType.toNat := by
  refine ⟨fun t field text n => readNumber_eq_ok_iff,
    fun t field text h => readNumber_of_not_denotes h field,
    fun t field n h => readNumber_eq_ok_iff.mpr h.denotes, ?_, ?_, ?_, ?_⟩
  · intro r
    exact ⟨_, r.written_code, readNumber_u16 r.code _⟩
  · intro q
    exact ⟨_, q.written_count, readNumber_u64 q.count _⟩
  · intro p k
    rw [p.written_value k]
    exact readNumber_u32 p.value _
  · intro x
    obtain ⟨hkeyTag, halgorithm, hdigestType⟩ := x.written_numbers
    rw [hkeyTag, halgorithm, hdigestType]
    exact ⟨readNumber_u16 x.keyTag _, readNumber_u8 x.algorithm _, readNumber_u8 x.digestType _⟩

/-- The least number of the signed type and the greatest one of the widest type are read, the first
behind zeros and between white space that markup does not know; the next number is a fault. -/
theorem numbers_follow_grammar_extremes :
    IntegerType.i32.Denotes "\u00A0-0002147483648\u2003" (-2147483648) ∧
    readNumber .i32 "n" "\u00A0-0002147483648\u2003" = .ok (-2147483648) ∧
    readNumber .u64 "n" (toString (18446744073709551615 : Int)) = .ok 18446744073709551615 ∧
    (∀ n, ¬ IntegerType.u64.Denotes " 18446744073709551616" n) ∧
    readNumber .u64 "n" " 18446744073709551616" =
      .error (.invalidValue "n" " 18446744073709551616") := by
  obtain ⟨hread, hfault, hwritten, -⟩ := numbers_follow_grammar
  let ds : List Char := "0002147483648".toList
  have hvalue : placeValue ds = 2147483648 := by decide +kernel
  have hall : ds.all (fun d => decide ('0' ≤ d ∧ d ≤ '9')) = true := by decide
  have hdigits : IsDigits ds :=
    ⟨by decide, fun d hd => of_decide_eq_true (List.all_eq_true.mp hall d hd)⟩
  have hnumeral : IsNumeral (IntegerType.i32 = .i32) ('-' :: ds) (-2147483648) := by
    have hminus : IsNumeral (IntegerType.i32 = .i32) ('-' :: ds) (-placeValue ds) := .minus rfl hdigits
    rwa [hvalue] at hminus
  have hleast : IntegerType.i32.Denotes "\u00A0-0002147483648\u2003" (-2147483648) :=
    ⟨⟨_, ⟨['\u00A0'], ['\u2003'], by decide, List.forall_mem_singleton.mpr (by decide),
      List.forall_mem_singleton.mpr (by decide), by rintro c ⟨⟩; decide, by rintro c ⟨⟩; decide⟩,
      hnumeral⟩, by simp [IntegerType.Holds]⟩
  have hbeyond : ∀ n, ¬ IntegerType.u64.Denotes " 18446744073709551616" n := by
    intro n hn
    have hno := (hread .u64 "n" _ n).mpr hn
    have hyes : readNumber .u64 "n" " 18446744073709551616" =
        .error (.invalidValue "n" " 18446744073709551616") := by decide +kernel
    rw [IntegerType.bounds, hyes] at hno
    exact absurd hno (by simp)
  exact ⟨hleast, (hread .i32 "n" _ _).mpr hleast,
    hwritten .u64 "n" _ (by simp [IntegerType.Holds]), hbeyond, hfault .u64 "n" _ hbeyond⟩

end Provisioning
