import Provisioning.Proofs.Message.FirstKind

/-!
# Messages that are written again

A message that was read and typed may be written again and read once more. It is always accepted the
second time, and what it is then is what its first kinds are. If nothing in it is ambiguous, that is
what it was; but a body that declares several kinds, and is therefore of no kind in particular,
comes back as one of the first of them. A server that would not have carried out the command as it
came carries it out after somebody has passed it on.
-/

namespace Provisioning

open Markup Markup.Element

/-! ## Typing leaves nothing untyped in an extension -/

/-- What no step of a row changes is at the end what it was. -/
theorem foldl_keeps {α β γ : Type} {step : β → α → β} {view : β → γ}
    (h : ∀ b a, view (step b a) = view b) (b : β) (as : List α) :
    view (as.foldl step b) = view b := by
  induction as generalizing b with
  | nil => rfl
  | cons a as ih => rw [List.foldl_cons, ih, h]

namespace CommandExtension

theorem untyped_put (x : CommandExtension) (e : Element) : (x.put e).untyped = x.untyped := by
  unfold put
  split <;> rfl

theorem untyped_typed (x : CommandExtension) : x.typed.untyped = [] :=
  foldl_keeps untyped_put _ x.untyped

end CommandExtension

namespace ResponseExtension

theorem untyped_put (x : ResponseExtension) (e : Element) : (x.put e).untyped = x.untyped := by
  unfold put
  split <;> rfl

theorem untyped_typed (x : ResponseExtension) : x.typed.untyped = [] :=
  foldl_keeps untyped_put _ x.untyped

end ResponseExtension

theorem Command.untyped_extension_typed (c : Command) :
    ∀ x ∈ c.typed.extension, x.untyped = [] :=
  Option.forall_mem_map.mpr fun x _ => x.untyped_typed

theorem Response.untyped_extension_typed (r : Response) :
    ∀ x ∈ r.typed.extension, x.untyped = [] :=
  Option.forall_mem_map.mpr fun x _ => x.untyped_typed

/-! ## What is delivered is what was sent -/

theorem Check.kind?_delivered (x : Check) : x.delivered.kind? = x.kind? := by
  simp only [kind?, delivered, Option.isSome_map]

theorem Create.kind?_delivered (x : Create) : x.delivered.kind? = x.kind? := by
  simp only [kind?, delivered, Option.isSome_map]

theorem Delete.kind?_delivered (x : Delete) : x.delivered.kind? = x.kind? := by
  simp only [kind?, delivered, Option.isSome_map]

theorem Info.kind?_delivered (x : Info) : x.delivered.kind? = x.kind? := by
  simp only [kind?, delivered, Option.isSome_map]

theorem Update.kind?_delivered (x : Update) : x.delivered.kind? = x.kind? := by
  simp only [kind?, delivered, Option.isSome_map]

theorem Renew.kind?_delivered (x : Renew) : x.delivered.kind? = x.kind? := by
  simp only [kind?, delivered, Option.map_map, Function.comp_def]

theorem Transfer.step?_delivered (x : Transfer) : x.delivered.step? = x.step? := by
  simp only [step?, delivered, Option.map_map, Function.comp_def]

theorem Command.tag_delivered (c : Command) : c.delivered.tag = c.tag := by
  simp only [tag, delivered, Option.map_map, Function.comp_def, Check.kind?_delivered,
    Create.kind?_delivered, Delete.kind?_delivered, Info.kind?_delivered, Update.kind?_delivered,
    Renew.kind?_delivered, Transfer.step?_delivered]
  rfl

theorem ResultData.tag_delivered (x : ResultData) : x.delivered.tag = x.tag := by
  simp [tag, delivered, Function.comp_def]

theorem Response.tag_delivered (r : Response) : r.delivered.tag = r.tag := by
  simp [tag, delivered, Function.comp_def, ResultData.tag_delivered]

theorem Envelope.tag_delivered (e : Envelope) : e.delivered.tag = e.tag := by
  simp [tag, delivered, Function.comp_def, Command.tag_delivered, Response.tag_delivered]

/-! ## Reading what was written -/

namespace Envelope

theorem ofText_toText {e : Envelope} (h : e.toElement.WellNamed) :
    ofText e.toText = ofElement e.toElement.trimmed := by
  have hroot : e.toElement.trimmed.localName = "epp" := by simp [toElement_eq, root]
  rw [ofText, toText, Markup.ofText_toText h]
  simp only [bind, Except.bind, hroot, if_true]

/-- A typed message is accepted again, and typed again it is what arrives of its first kinds. -/
theorem typed_again (e : Envelope) :
    ∃ d, ofText e.typed.toText = .ok d ∧ d.typed = e.typed.first.delivered := by
  have hcommand : ∀ c ∈ e.typed.command, ∀ x ∈ c.extension, x.untyped = [] :=
    Option.forall_mem_map.mpr fun c _ => c.untyped_extension_typed
  have hresponse : ∀ r ∈ e.typed.response, ∀ x ∈ r.extension, x.untyped = [] :=
    Option.forall_mem_map.mpr fun r _ => r.untyped_extension_typed
  have hnamed : e.typed.toElement.WellNamed :=
    wellNamed_of_parts (fun c hc => Command.wellNamed_toElement (hcommand c hc))
      fun r hr => Response.wellNamed_toElement (hresponse r hr)
  -- the document is that of the first kinds, in which nothing is ambiguous
  have htyped := typed_ofElement (plain_first hcommand hresponse)
  rw [ofElement_first, ← ofText_toText hnamed] at htyped
  exact ok_of_map htyped

/--
**What a message is when it is written again.** Whatever a document was read as: its typed form is
written as a document that is accepted, and this one, read and typed, is what arrives of the first
kinds of that form, so it has their tag. If nothing was ambiguous in the typed form, the tag is the
one that it had.
-/
theorem written_again_by_first_kinds (e : Envelope) :
    ∃ d, ofText e.typed.toText = .ok d ∧ d.typed = e.typed.first.delivered ∧
      d.typed.tag = e.typed.first.tag ∧ (e.typed.Plain → d.typed.tag = e.typed.tag) := by
  obtain ⟨d, hread, htyped⟩ := e.typed_again
  have htag : d.typed.tag = e.typed.first.tag := by rw [htyped, tag_delivered]
  exact ⟨d, hread, htyped, htag, fun hplain => by rw [htag, first_eq hplain]⟩

/-- An update that declares two kinds is of neither. Written again it is the update of a domain. -/
theorem ambiguous_update_becomes_domain :
    let text := "<epp><command><update><update xmlns:domain=\"d\" xmlns:host=\"h\">" ++
      "<name>a</name></update></update><clTRID>C-1</clTRID></command></epp>"
    ∃ e d, ofText text = .ok e ∧ e.typed.tag = .command (.update none) ∧
      ofText e.typed.toText = .ok d ∧ d.typed.tag = .command (.update (some .domain)) := by
  intro text
  let update : UntypedUpdate := {
    namespaces := { domain := some "d", host := some "h" }
    name := "a", id := "", add := {}, remove := {}, change := none }
  let e : Envelope := {
    xsi := "", schema := ""
    command := some { update := some { untyped := some update }, transactionId := "C-1" } }
  have hread : ofText text = .ok e := by decide +kernel
  -- of the two bodies that the typed form has, the one of the domain comes first
  obtain ⟨d, hagain, htyped⟩ := e.typed_again
  exact ⟨e, d, hread, rfl, hagain, by rw [htyped, tag_delivered]; rfl⟩

end Envelope

end Provisioning
